import Rollout.Pattern.CharSet
import Rollout.Text.Category
import Rollout.Text.Script
import Rollout.Text.Property
import Rollout.Text.Age
import Rollout.Text.Segment
/-!
# Unicode classes by name

A Unicode class of a pattern names a general category (`L`, `Lu`, `Letter`), a script
(`Greek`, `Grek`), a binary property (`Alphabetic`, `White_Space`), or a property with a value
(`gc=Lu`, `Script=Greek`). Names are compared loosely: case, blanks, `_` and `-` do not matter,
nor does a leading `is`.

A bare name that names any property of the Unicode database stands for that property, which
must then be a binary property with a table; otherwise it is tried as a general category, then
as a script. The names `cf`, `sc` and `lc` skip the first step, since they abbreviate both a
property and a category. `Any`, `Assigned` and `ASCII` count as categories.

With a value, the property must be known; then the general category, the script, the script
extensions, the age (every code point assigned up to that version) and the three break classes
take values, and any other property has none. A value that names no code point, such as the
surrogates or the unknown script, is not found either.

The classes of the `\d`, `\s` and `\w` escapes are `digitSet` (decimal numbers), `spaceSet`
(white space) and `wordSet` (alphabetic, marks, decimal numbers, connector punctuation and the
joiners).

* `findAge_unassigned`: no code point has the age of the unassigned ones.
-/

namespace Rollout.Pattern

open Rollout.Text

/-- A question about the Unicode database, as a pattern writes it. -/
inductive UnicodeQuery where
  /-- A one-letter name, as in `\pL`. -/
  | oneLetter (c : Char)
  /-- A name, as in `\p{Greek}`. -/
  | named (name : String)
  /-- A property and a value, as in `\p{sc=Greek}`. -/
  | byValue (property value : String)
deriving DecidableEq, Inhabited

/-- Why a Unicode class could not be found. -/
inductive LookupError where
  | propertyNotFound
  | valueNotFound
deriving DecidableEq, Inhabited

/-- Whether the first two characters spell `is` in any case. -/
def startsWithIs : List Char → Bool
  | a :: b :: _ => (a == 'i' || a == 'I') && (b == 's' || b == 'S')
  | _ => false

/-- The loose form of a name: blanks, `_`, `-` and non-ASCII characters dropped, ASCII letters
lowercased, a leading `is` dropped. What remains of `isc` after dropping `is` keeps it. -/
def normalizeName (s : String) : String :=
  let cs := s.toList
  let isPrefixed := startsWithIs cs
  let rest := if isPrefixed then cs.drop 2 else cs
  let kept := rest.filterMap fun c =>
    if c == ' ' || c == '_' || c == '-' then none
    else if 'A' ≤ c && c ≤ 'Z' then some (Char.ofNat (c.toNat + 32))
    else if c.toNat ≤ 0x7F then some c
    else none
  if isPrefixed && kept == ['c'] then "isc" else String.ofList kept

/-- The entry of a name table whose names include one with the given loose form. -/
def findNamed {α : Type} (table : List (List String × α)) (norm : String) :
    Option (List String × α) :=
  table.find? fun (names, _) => names.any fun n => normalizeName n == norm

/-- The set of a range table. -/
def ofTable (t : RangeTable) : CharSet := CharSet.normalize t.ranges.toList

/-- The code points of some general categories. -/
def categorySet (codes : List String) : CharSet :=
  CharSet.normalize (categoryTable.rangesWhere fun c => codes.contains c)

/-- The unassigned code points: those no category range holds. -/
def unassignedSet : CharSet := (CharSet.normalize categoryTable.ranges).complement

/-- Decimal numbers, the class of `\d`. -/
def digitSet : CharSet := categorySet ["Nd"]

/-- White space, the class of `\s`. -/
def spaceSet : CharSet := ofTable whiteSpaceTable

/-- Word characters, the class of `\w`. -/
def wordSet : CharSet :=
  CharSet.unionAll [ofTable alphabeticTable, categorySet ["Mn", "Mc", "Me", "Nd", "Pc"],
    ofTable joinControlTable]

/-- Numbers of any kind. -/
def numericSet : CharSet := categorySet ["Nd", "Nl", "No"]

/-- Whether a character is alphabetic. -/
def isAlphabetic (c : Char) : Bool := alphabeticTable.containsChar c

/-- Whether a character is alphabetic or a number. -/
def isAlphanumeric (c : Char) : Bool := isAlphabetic c || numericSet.contains c.toNat

/-- The set of a general category or group, by its code. -/
def categoryClass (code : String) : CharSet :=
  let members := categoryMembers code
  let assigned := categorySet members
  if members.contains "Cn" then assigned.union unassignedSet else assigned

/-- A general category by loose name, with the three extra names; the surrogates have no
class. -/
def findCategory (norm : String) : Option (Except LookupError CharSet) :=
  if norm == "any" then some (.ok CharSet.full)
  else if norm == "assigned" then some (.ok unassignedSet.negate)
  else if norm == "ascii" then some (.ok CharSet.ascii)
  else (categoryNames.find? fun names => names.any fun n => normalizeName n == norm).map
    fun names =>
      let code := names.headD ""
      if code == "Cs" then .error .valueNotFound else .ok (categoryClass code)

/-- The code of a script by loose name. -/
def scriptCode? (norm : String) : Option String :=
  (scriptNames.find? fun names => names.any fun n => normalizeName n == norm).map (·.headD "")

/-- A set that must hold some code point to be found. -/
def nonEmpty (s : CharSet) : Except LookupError CharSet :=
  if s.isEmpty then .error .valueNotFound else .ok s

/-- A script by loose name: the code points of that script. -/
def findScript (norm : String) : Option (Except LookupError CharSet) :=
  (scriptCode? norm).map fun code =>
    nonEmpty (CharSet.normalize (scriptTable.rangesWhere (· == code)))

/-- The code points whose script extensions hold a script, by the script's loose name. -/
def findExtension (norm : String) : Option (Except LookupError CharSet) :=
  (scriptCode? norm).map fun code =>
    nonEmpty (CharSet.normalize (scriptExtensionTable.rangesWhere fun l =>
      (l.splitOn " ").contains code))

/-- The code points assigned up to a version, by the version's loose name (`3.1` or `V3_1`). -/
def findAge (norm : String) : Option (Except LookupError CharSet) :=
  if norm == "unassigned" || norm == "na" then some (.error .valueNotFound)
  else
    (ageVersions.findIdx? fun v =>
      normalizeName v == norm || normalizeName ("V" ++ v.replace "." "_") == norm).map fun i =>
      let upTo := ageVersions.take (i + 1)
      .ok (CharSet.normalize (ageTable.rangesWhere upTo.contains))

/-- The values of the grapheme cluster break class: the full name first, then the others. -/
def graphemeBreakNames : List (List String) :=
  [["Control", "CN"], ["CR"], ["E_Base", "EB"], ["E_Base_GAZ", "EBG"], ["E_Modifier", "EM"],
   ["Extend", "EX"], ["Glue_After_Zwj", "GAZ"], ["L"], ["LF"], ["LV"], ["LVT"],
   ["Prepend", "PP"], ["Regional_Indicator", "RI"], ["SpacingMark", "SM"], ["T"], ["V"],
   ["Other", "XX"], ["ZWJ"]]

/-- The values of the word break class: the full name first, then the others. -/
def wordBreakNames : List (List String) :=
  [["CR"], ["Double_Quote", "DQ"], ["E_Base", "EB"], ["E_Base_GAZ", "EBG"],
   ["E_Modifier", "EM"], ["ExtendNumLet", "EX"], ["Extend"], ["Format", "FO"],
   ["Glue_After_Zwj", "GAZ"], ["Hebrew_Letter", "HL"], ["Katakana", "KA"], ["ALetter", "LE"],
   ["LF"], ["MidNumLet", "MB"], ["MidLetter", "ML"], ["MidNum", "MN"], ["Newline", "NL"],
   ["Numeric", "NU"], ["Regional_Indicator", "RI"], ["Single_Quote", "SQ"], ["WSegSpace"],
   ["Other", "XX"], ["ZWJ"]]

/-- The values of the sentence break class: the full name first, then the others. -/
def sentenceBreakNames : List (List String) :=
  [["ATerm", "AT"], ["Close", "CL"], ["CR"], ["Extend", "EX"], ["Format", "FO"],
   ["OLetter", "LE"], ["LF"], ["Lower", "LO"], ["Numeric", "NU"], ["SContinue", "SC"],
   ["Sep", "SE"], ["Sp", "SP"], ["STerm", "ST"], ["Upper", "UP"], ["Other", "XX"]]

/-- A break class by loose name, in a table of classes with their names. -/
def findBreak (names : List (List String)) (table : LabelledTable) (norm : String) :
    Option (Except LookupError CharSet) :=
  (names.find? fun ns => ns.any fun n => normalizeName n == norm).map fun ns =>
    let name := ns.headD ""
    nonEmpty (CharSet.normalize (table.rangesWhere (· == name)))

/-- The full name of a property of the Unicode database, by loose name. -/
def propertyName? (norm : String) : Option String :=
  (propertyNames.find? fun names => names.any fun n => normalizeName n == norm).map (·.headD "")

/-- A binary property with a table, by full name. -/
def binaryTable? (name : String) : Option RangeTable :=
  (binaryProperties.find? fun (names, _) => names.headD "" == name).map (·.2)

/-- A bare name: a property, which must be binary, or else a category or a script. -/
def lookupName (name : String) : Except LookupError CharSet :=
  let norm := normalizeName name
  let property := if norm == "cf" || norm == "sc" || norm == "lc" then none
    else propertyName? norm
  match property with
  | some p =>
    match binaryTable? p with
    | some t => .ok (ofTable t)
    | none => .error .propertyNotFound
  | none =>
    match findCategory norm with
    | some r => r
    | none =>
      match findScript norm with
      | some r => r
      | none => .error .propertyNotFound

/-- A property with a value. -/
def lookupValue (property value : String) : Except LookupError CharSet :=
  let val := normalizeName value
  let found (r : Option (Except LookupError CharSet)) := r.getD (.error .valueNotFound)
  match propertyName? (normalizeName property) with
  | none => .error .propertyNotFound
  | some "General_Category" => found (findCategory val)
  | some "Script" => found (findScript val)
  | some "Script_Extensions" => found (findExtension val)
  | some "Age" => found (findAge val)
  | some "Grapheme_Cluster_Break" => found (findBreak graphemeBreakNames graphemeBreakTable val)
  | some "Word_Break" => found (findBreak wordBreakNames wordBreakTable val)
  | some "Sentence_Break" => found (findBreak sentenceBreakNames sentenceBreakTable val)
  | some _ => .error .valueNotFound

/-- The set a query names. -/
def UnicodeQuery.lookup : UnicodeQuery → Except LookupError CharSet
  | .oneLetter c => lookupName (String.singleton c)
  | .named name => lookupName name
  | .byValue property value => lookupValue property value

theorem findAge_unassigned : findAge "unassigned" = some (.error .valueNotFound) := by
  simp [findAge]

end Rollout.Pattern
