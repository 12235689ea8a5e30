import Rollout.Json.Read
import Rollout.Yaml.Read
import Rollout.Spec
import Rollout.Balancer.Inventory
/-!
# Scripts and inventories in files

A script (a tree of actor specifications) and an inventory are read from JSON or YAML files.
The format is chosen by the file's extension, `json`, `yaml` or `yml` in any case; the
extension is what follows the last dot of the path's last component, when something precedes
that dot (`.json` has none). Any other path cannot be read.

Every failure is a script-load fault naming the path: an unknown extension, a file that
cannot be read as text (`ReadFailure`), or the reader's message for a document that is not
valid or not of the expected shape.

* `detect_error`: a path without an extension cannot be read.
-/

namespace Rollout

open Rollout.Json

/-- The formats of documents. -/
inductive Format where
  | json
  | yaml
deriving DecidableEq, Inhabited

namespace Format

/-- The name of a format. -/
def name : Format → String
  | .json => "Json"
  | .yaml => "Yaml"

/-- The last component of a path: empty components and `.` are skipped, and `..` or no
component at all gives none. -/
def fileName? (path : String) : Option String :=
  match ((path.splitOn "/").filter fun p => p != "" && p != ".").getLast? with
  | some ".." => none
  | other => other

/-- The extension of a path: the text after the last dot of its last component, when that
dot is not the component's first character. -/
def extension? (path : String) : Option String :=
  (fileName? path).bind fun name =>
    match (name.splitOn ".").reverse with
    | ext :: before@(_ :: _) =>
      if (".".intercalate before.reverse).isEmpty then none else some ext
    | _ => none

/-- The format of a path, by its extension. -/
def detect (path : String) : Except Fault Format :=
  match (extension? path).map String.toLower with
  | some "json" => .ok .json
  | some "yaml" | some "yml" => .ok .yaml
  | _ => .error (.scriptLoad path "expected a .json, .yaml or .yml file")

theorem detect_error (path : String) (h : extension? path = none) :
    detect path = .error (.scriptLoad path "expected a .json, .yaml or .yml file") := by
  simp [detect, h]

/-- Reads a document in the format against a shape; a failure is a script-load fault naming
`origin`. -/
def read (f : Format) (s : Shape) (text origin : String) : Except Fault Value :=
  match f with
  | .json =>
    match s.readText text with
    | .ok v => .ok v
    | .error m => .error (.scriptLoad origin m)
  | .yaml =>
    match s.readYaml text with
    | .ok v => .ok v
    | .error e => .error (.scriptLoad origin e.message)

end Format

/-- Why a file could not be read as text. -/
inductive ReadFailure where
  | missing
  | directory
  | notDirectory
  | notText
deriving DecidableEq, Inhabited

/-- The system's words for a read failure. -/
def ReadFailure.message : ReadFailure → String
  | .missing => "No such file or directory (os error 2)"
  | .directory => "Is a directory (os error 21)"
  | .notDirectory => "Not a directory (os error 20)"
  | .notText => "stream did not contain valid UTF-8"

/-- What stands at a path. -/
inductive Entry where
  | missing
  | directory
  /-- The path goes on past a file, as if the file were a folder. -/
  | notDirectory
  | file (bytes : ByteArray)
deriving Inhabited

/-- The text of a file: its bytes must be UTF-8. -/
def Entry.text : Entry → Except ReadFailure String
  | .missing => .error .missing
  | .directory => .error .directory
  | .notDirectory => .error .notDirectory
  | .file bytes =>
    match String.fromUTF8? bytes with
    | some t => .ok t
    | none => .error .notText

/-- Loads a document from a path: the format first, then the text, then the reading. -/
def loadDocument (s : Shape) (path : String) (entry : Entry) : Except Fault (Format × Value) := do
  let f ← Format.detect path
  let text ← match entry.text with
    | .ok t => pure t
    | .error r => throw (.scriptLoad path r.message)
  let v ← f.read s text path
  pure (f, v)

/-- Loads the root specification of a script. -/
def loadScript (path : String) (entry : Entry) : Except Fault Spec := do
  let (_, v) ← loadDocument Spec.shape path entry
  pure (Spec.ofRecord v)

/-- Loads an inventory. -/
def loadInventory (path : String) (entry : Entry) : Except Fault Balancer.Inventory := do
  let (_, v) ← loadDocument Balancer.Inventory.shape path entry
  pure (Balancer.Inventory.ofDecoded v)

end Rollout
