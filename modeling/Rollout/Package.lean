import Rollout.Json.Decode
import Rollout.Timestamp
/-!
# Packages and deletion plans

A package version in a repository has a name, a version, a distribution, an upload time and a
page URL whose last segment is its file name. In a document the upload time is a timestamp
text; other fields are ignored.

A deletion plan names the versions to delete, in the order of deletion: for each distinct name
that the filter accepts, in text order, the versions oldest first (of equal upload times, the
one listed first), deleted while more than `keep` versions of the name remain. With an age
limit, a version no older than the limit is kept and does not count against `keep`.

* `planFor_length_le`: a name never loses more versions than it has beyond `keep`.
-/

namespace Rollout

open Rollout.Json

/-- One uploaded package version. -/
structure Package where
  name : String
  version : String
  distroVersion : String
  createdAt : Timestamp
  htmlUrl : String
deriving DecidableEq, Inhabited

namespace Package

/-- The file name: the text after the last `/` of the page URL, or the whole URL. -/
def filename (p : Package) : String :=
  String.ofList ((p.htmlUrl.toList.reverse.takeWhile (· != '/')).reverse)

/-- Checks a timestamp text, keeping the text. -/
def checkTime (v : Value) : Except String Value :=
  match v with
  | .string s => match Timestamp.parse s with
    | .ok _ => .ok v
    | .error e => .error e.message
  | _ => .ok v

/-- The shape of a timestamp text. -/
def timeShape : Shape :=
  .checked (.text "an RFC 3339 formatted date and time string") checkTime

/-- The shape of a package in a document. -/
def shape : Shape :=
  .record "Package"
    [Field.req "name" Shape.string, Field.req "version" Shape.string,
     Field.req "distro_version" Shape.string, Field.req "created_at" timeShape,
     Field.req "package_html_url" Shape.string]
    false

/-- The text field of a decoded record. -/
def textOf (v : Value) (k : String) : String := ((v.get? k).bind Value.str?).getD ""

/-- The package of a decoded record. -/
def ofRecord (v : Value) : Package :=
  { name := textOf v "name", version := textOf v "version",
    distroVersion := textOf v "distro_version",
    createdAt := match Timestamp.parse (textOf v "created_at") with
      | .ok t => t
      | .error _ => ⟨0, 0⟩,
    htmlUrl := textOf v "package_html_url" }

/-- Decodes a package from a value, with the message of the first problem. -/
def ofValue (v : Value) : Except String Package :=
  match shape.decode v with
  | .ok r => .ok (ofRecord r)
  | .error m => .error (m.message Wording.json)

/-- Upload time order, a leap second after the second it extends. -/
def olderOrSame (a b : Package) : Bool := !(b.createdAt.before a.createdAt)

end Package

/-- Keeps a list without repeats of neighbours. -/
def dedupAdjacent : List String → List String
  | a :: b :: rest => if a = b then dedupAdjacent (b :: rest) else a :: dedupAdjacent (b :: rest)
  | xs => xs

/-- The versions of one name to delete, oldest first, while more than `keep` remain; a version
that is `protected` is skipped. -/
def planFor (keep : Nat) (isProtected : Package → Bool) : Nat → List Package → List Package
  | _, [] => []
  | remaining, p :: rest =>
    if remaining ≤ keep then []
    else if isProtected p then planFor keep isProtected remaining rest
    else p :: planFor keep isProtected (remaining - 1) rest

/-- The deletion plan. `accepts` filters names; `olderThan` (seconds) protects versions no older
than it at `now`. -/
def planDeletions (packages : List Package) (accepts : String → Bool) (keep : Nat)
    (olderThan : Option Int) (now : Timestamp) : List Package :=
  let names := dedupAdjacent (((packages.map (·.name)).filter accepts).mergeSort
    (fun a b => decide (a ≤ b)))
  let isProtected (p : Package) : Bool :=
    match olderThan with
    | some age => Timestamp.sinceAtMost now p.createdAt age
    | none => false
  names.flatMap fun name =>
    let versions := (packages.filter (·.name == name)).mergeSort Package.olderOrSame
    planFor keep isProtected versions.length versions

theorem planFor_length_le (keep : Nat) (isProtected : Package → Bool) :
    ∀ (remaining : Nat) (ps : List Package),
      (planFor keep isProtected remaining ps).length ≤ remaining - keep
  | _, [] => by simp [planFor]
  | remaining, p :: rest => by
    unfold planFor
    by_cases h : remaining ≤ keep
    · simp [h]
    · simp only [h, if_false]
      split
      · exact planFor_length_le keep isProtected remaining rest
      · have := planFor_length_le keep isProtected (remaining - 1) rest
        simp only [List.length_cons]
        omega

end Rollout
