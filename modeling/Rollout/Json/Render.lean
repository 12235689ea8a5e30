import Rollout.Json.Value
import Rollout.Number.Render
/-!
# Compact JSON text

`Value.render` writes a value with no spaces: fields in the object's (sorted) order, numbers in
their read form, doubles in their shortest form with `.0` kept on integral values and an
exponent from `1e17` up and below `1e-4`. Within a string a quote, a backslash and the control
characters are escaped, the five common controls by their letters and the others as `\u00xx`
with lower-case digits; every other character is written as it is.

* `escape_ascii`: a printable ASCII character other than quote and backslash is unchanged.
-/

namespace Rollout.Json

open Rollout.Number

/-- Lower-case hexadecimal digit. -/
def hexDigit (n : Nat) : Char :=
  if n < 10 then Char.ofNat (48 + n) else Char.ofNat (87 + n)

/-- The escaped form of one character inside a JSON string. -/
def escape (c : Char) : String :=
  if c = '"' then "\\\""
  else if c = '\\' then "\\\\"
  else if c = '\n' then "\\n"
  else if c = '\r' then "\\r"
  else if c = '\t' then "\\t"
  else if c.toNat = 8 then "\\b"
  else if c.toNat = 12 then "\\f"
  else if c.toNat < 0x20 then
    String.ofList ['\\', 'u', '0', '0', hexDigit (c.toNat / 16), hexDigit (c.toNat % 16)]
  else String.singleton c

/-- A string as a JSON string literal. -/
def quoted (s : String) : String :=
  "\"" ++ String.join (s.toList.map escape) ++ "\""

/-- A number in its read form; a double that is not finite is written `null`. -/
def Number.render : Number → String
  | .natural n => toString n
  | .negative n => toString n
  | .double x => x.render Style.json

mutual

/-- The compact text of a value. -/
def Value.render : Value → String
  | .null => "null"
  | .bool true => "true"
  | .bool false => "false"
  | .number n => n.render
  | .string s => quoted s
  | .array items => "[" ++ Value.renderItems items ++ "]"
  | .object fields => "\x7b" ++ Value.renderFields fields ++ "\x7d"

/-- Array items, separated by commas. -/
def Value.renderItems : List Value → String
  | [] => ""
  | [v] => v.render
  | v :: rest => v.render ++ "," ++ Value.renderItems rest

/-- Object fields as `"key":value`, separated by commas. -/
def Value.renderFields : List (String × Value) → String
  | [] => ""
  | [(k, v)] => quoted k ++ ":" ++ v.render
  | (k, v) :: rest => quoted k ++ ":" ++ v.render ++ "," ++ Value.renderFields rest

end

theorem escape_ascii (c : Char) (h1 : 0x20 ≤ c.toNat) (h2 : c.toNat < 0x7F)
    (hq : c ≠ '"') (hb : c ≠ '\\') : escape c = String.singleton c := by
  have hn : c ≠ '\n' := by intro h; subst h; simp at h1
  have hr : c ≠ '\r' := by intro h; subst h; simp at h1
  have ht : c ≠ '\t' := by intro h; subst h; simp at h1
  have h8 : c.toNat ≠ 8 := by omega
  have h12 : c.toNat ≠ 12 := by omega
  have hlt : ¬ c.toNat < 0x20 := by omega
  simp [escape, hq, hb, hn, hr, ht, h8, h12, hlt]

end Rollout.Json
