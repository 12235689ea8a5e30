import Rollout.Yaml.Document
import Rollout.Yaml.Scalar
import Rollout.Json.Decode
/-!
# Reading a YAML document against a shape

`Shape.readYaml` reads the first document of a YAML text as a shape wants it, walking the
document's events from the start:

* free JSON (`Shape.any`) takes every scalar by its meaning (`Yaml.Plain`), sequences as
  arrays and mappings as objects; a node with a local tag (`!name`) is an enum, which free JSON
  cannot hold;
* a string takes the text of any scalar, whatever its tag or style;
* lists, maps and records want a sequence or a mapping; an empty plain scalar or an empty
  document counts as an empty one;
* a record reads its fields in the order written: a field given twice, and in a closed record
  a field it does not have, is an error when its key is read, the latter placed at the key; a
  missing field afterwards;
* an alias is read as the node it stands for.

Errors are placed at the node where they are found, with the path to it and the mark of its
first event; a mismatch found by a record or map itself is placed at its start. Nesting is
limited to 128 collections, and aliases may be followed at most a hundred times per event.

When the shape was read, a syntax error further on in the document is still an error, and so
is a second document.
-/

namespace Rollout.Yaml

open Rollout.Json

/-- Where a walk over a document stands: the next event and the aliases followed so far. -/
structure Walker where
  pos : Nat := 0
  jumps : Nat := 0
deriving Inhabited

/-- A walk over a document. -/
abbrev Walk := ReaderT Document (StateT Walker (Except Error))

namespace Walk

/-- The next event, without moving past it; past the end, the document's error. -/
def peek : Walk (Loaded × Mark) := do
  let d ← read
  match d.events[(← get).pos]? with
  | some e => pure e
  | none => throw (d.error.getD .endOfStream)

/-- The next event, moving past it. -/
def next : Walk (Loaded × Mark) := do
  let e ← peek
  modify fun w => { w with pos := w.pos + 1 }
  pure e

/-- Runs a walk, placing a mismatch that it leaves unplaced at a node. -/
def placed {α : Type} (m : Mark) (p : Path) (x : Walk α) : Walk α :=
  tryCatch x fun e => throw (e.place m p)

/-- A mismatch, not yet placed. -/
def mismatch {α : Type} (m : Mismatch) : Walk α :=
  throw (.mismatch (m.message Wording.general) none)

/-- Runs a walk from the node that an anchor number stands for, then comes back. -/
def jump {α : Type} (anchor : Nat) (x : Walk α) : Walk α := do
  let d ← read
  let w ← get
  let jumps := w.jumps + 1
  if jumps > d.events.size * 100 then throw .repetitionLimit
  match d.target anchor with
  | none => throw .repetitionLimit
  | some pos =>
    set ({ pos, jumps } : Walker)
    let r ← x
    modify fun w' => { w' with pos := w.pos }
    pure r

/-- One level deeper into collections, at a collection's start; past the limit, an error. -/
def descend (m : Mark) (depth : Nat) : Walk Nat :=
  if depth == 0 then throw (.recursionLimit m) else pure (depth - 1)

/-- The mismatch of an event of the wrong kind. -/
def wrongKind {α : Type} (e : Loaded) (expected : String) : Walk α :=
  match e with
  | .scalar tag text style =>
    match Plain.ofScalar tag text style with
    | .ok p => mismatch (.invalidType p.found expected)
    | .error m => mismatch m
  | .sequenceStart _ => mismatch (.invalidType .seq expected)
  | .mappingStart _ => mismatch (.invalidType .map expected)
  | _ => throw .endOfStream

/-- Whether a node's tag makes it an enum. -/
def isEnumTag : Option String → Bool
  | some t => t.startsWith "!"
  | none => false

/-- Whether an event leaves a collection empty: the end of an empty document, or an empty
plain scalar. -/
def isEmptyNode : Loaded → Bool
  | .void => true
  | .scalar _ text .plain => text.isEmpty
  | _ => false

/-- Whether the next event ends the collection being read. -/
def atEnd : Walk Bool := do
  match (← peek).1 with
  | .sequenceEnd | .mappingEnd | .void => pure true
  | _ => pure false

/-- The path of the value after a key event: by the key's text, or unknown for a key that is
not a scalar. -/
def valuePath (path : Path) : Loaded → Path
  | .scalar _ text _ => .entry path text
  | _ => .unknown path

/-- Moves past one node, checking nothing. -/
def skipNode : Nat → Nat → Walk Unit
  | 0, _ => pure ()
  | fuel + 1, open_ => do
    let (e, _) ← next
    let open_ := match e with
      | .sequenceStart _ | .mappingStart _ => open_ + 1
      | .sequenceEnd | .mappingEnd => open_ - 1
      | _ => open_
    if open_ == 0 then pure () else skipNode fuel open_

/-- Finishes a collection: moves past its end event. -/
def close : Walk Unit := do
  let _ ← next

/-- The message of an enum where free JSON is wanted. -/
def enumMismatch {α : Type} : Walk α := mismatch (.invalidType .enum Shape.any.expecting)

/-- A scalar as free JSON. -/
def scalarValue (tag : Option String) (text : String) (style : ScalarStyle) : Walk Value :=
  match Plain.ofScalar tag text style with
  | .error m => mismatch m
  | .ok p =>
    match p.toValue with
    | .ok v => pure v
    | .error m => mismatch (.custom m)

mutual

/-- Reads the text of a scalar, with the mark of the scalar read and the path it was read at,
which differ from those of the node when it is an alias. -/
def text (fuel : Nat) (path : Path) (expected : String) : Walk (String × Mark × Path) :=
  match fuel with
  | 0 => throw .repetitionLimit
  | fuel + 1 => do
    let (e, m) ← next
    match e with
    | .scalar _ t _ => pure (t, m, path)
    | .alias n => jump n (text fuel (.alias path) expected)
    | e => placed m path (wrongKind e expected)

/-- Reads a node as free JSON. -/
def anyValue (fuel depth : Nat) (path : Path) : Walk Value :=
  match fuel with
  | 0 => throw .repetitionLimit
  | fuel + 1 => do
    let (e, m) ← next
    placed m path do
      match e with
      | .alias n => jump n (anyValue fuel depth (.alias path))
      | .scalar tag t style => if isEnumTag tag then enumMismatch else scalarValue tag t style
      | .sequenceStart tag =>
        if isEnumTag tag then enumMismatch
        else do
          let d ← descend m depth
          let items ← anyItems fuel d path 0 #[]
          close
          pure (.array items.toList)
      | .mappingStart tag =>
        if isEnumTag tag then enumMismatch
        else do
          let d ← descend m depth
          let fields ← anyEntries fuel d path true []
          close
          pure (.object fields)
      | .void => pure .null
      | _ => throw .endOfStream

/-- Reads the items of a sequence as free JSON. -/
def anyItems (fuel depth : Nat) (path : Path) (index : Nat) (acc : Array Value) :
    Walk (Array Value) :=
  match fuel with
  | 0 => throw .repetitionLimit
  | fuel + 1 => do
    if ← atEnd then return acc
    let v ← anyValue fuel depth (.item path index)
    anyItems fuel depth path (index + 1) (acc.push v)

/-- Reads the entries of a mapping as free JSON; the last of repeated keys wins. -/
def anyEntries (fuel depth : Nat) (path : Path) (first : Bool) (acc : List (String × Value)) :
    Walk (List (String × Value)) :=
  match fuel with
  | 0 => throw .repetitionLimit
  | fuel + 1 => do
    if ← atEnd then return acc
    let (keyEvent, _) ← peek
    let (k, _) ← text fuel path (if first then "a string key" else "a string")
    let v ← anyValue fuel depth (valuePath path keyEvent)
    anyEntries fuel depth path false (Keyed.insert k v acc)

/-- Reads a node as a shape wants it. -/
def shaped (fuel depth : Nat) (path : Path) (s : Shape) : Walk Value :=
  match fuel with
  | 0 => throw .repetitionLimit
  | fuel + 1 =>
    match s with
    | .any => anyValue fuel depth path
    | .text expected => do return .string (← text fuel path expected).1
    | .list item => do
      let (e, m) ← next
      placed m path do
        match e with
        | .alias n => jump n (shaped fuel depth (.alias path) s)
        | .sequenceStart _ => do
          let d ← descend m depth
          let items ← shapedItems fuel d path item 0 #[]
          close
          pure (.array items.toList)
        | e => if isEmptyNode e then pure (.array []) else wrongKind e s.expecting
    | .keyed item => do
      let (e, m) ← next
      placed m path do
        match e with
        | .alias n => jump n (shaped fuel depth (.alias path) s)
        | .mappingStart _ => do
          let d ← descend m depth
          let fields ← shapedEntries fuel d path item []
          close
          pure (.object fields)
        | e => if isEmptyNode e then pure (.object []) else wrongKind e s.expecting
    | .record _ fields closed => do
      let (e, m) ← next
      placed m path do
        match e with
        | .alias n => jump n (shaped fuel depth (.alias path) s)
        | .mappingStart _ => do
          let d ← descend m depth
          let seen ← recordFields fuel d path fields closed []
          close
          match Shape.completeRecord seen fields with
          | .ok all => pure (.object all)
          | .error mm => mismatch mm
        | e =>
          if isEmptyNode e then
            match Shape.completeRecord [] fields with
            | .ok all => pure (.object all)
            | .error mm => mismatch mm
          else wrongKind e s.expecting
    | .optional item => do
      let (e, _) ← peek
      match e with
      | .void => do close; pure .null
      | .scalar none t .plain =>
        if t.isEmpty || Plain.isNullWord t then do close; pure .null
        else shaped fuel depth path item
      | _ => shaped fuel depth path item
    | s => do
      let (_, m) ← peek
      let v ← anyValue fuel depth path
      placed m path do
        match s.decode v with
        | .ok r => pure r
        | .error mm => mismatch mm

/-- Reads the items of a sequence against one shape. -/
def shapedItems (fuel depth : Nat) (path : Path) (item : Shape) (index : Nat)
    (acc : Array Value) : Walk (Array Value) :=
  match fuel with
  | 0 => throw .repetitionLimit
  | fuel + 1 => do
    if ← atEnd then return acc
    let v ← shaped fuel depth (.item path index) item
    shapedItems fuel depth path item (index + 1) (acc.push v)

/-- Reads the entries of a mapping against one shape; the last of repeated keys wins. -/
def shapedEntries (fuel depth : Nat) (path : Path) (item : Shape)
    (acc : List (String × Value)) : Walk (List (String × Value)) :=
  match fuel with
  | 0 => throw .repetitionLimit
  | fuel + 1 => do
    if ← atEnd then return acc
    let (keyEvent, _) ← peek
    let (k, _) ← text fuel path "a string"
    let v ← shaped fuel depth (valuePath path keyEvent) item
    shapedEntries fuel depth path item (Keyed.insert k v acc)

/-- Reads the entries of a mapping as the fields of a record, in the order written. -/
def recordFields (fuel depth : Nat) (path : Path) (fields : List Field) (closed : Bool)
    (seen : List (String × Value)) : Walk (List (String × Value)) :=
  match fuel with
  | 0 => throw .repetitionLimit
  | fuel + 1 => do
    if ← atEnd then return seen
    let (keyEvent, _) ← peek
    let (k, keyMark, keyPath) ← text fuel path "field identifier"
    match Field.lookup k fields with
    | none =>
      if closed then placed keyMark keyPath (mismatch (.unknownField k (Field.allNames fields)))
      else do
        skipNode fuel 0
        recordFields fuel depth path fields closed seen
    | some f =>
      if Keyed.contains f.name seen then mismatch (.duplicateField f.name)
      else do
        let v ← shaped fuel depth (valuePath path keyEvent) f.shape
        recordFields fuel depth path fields closed (Keyed.insert f.name v seen)

end

end Walk

/-- The deepest nesting of collections that reading allows. -/
def collectionLimit : Nat := 128

end Rollout.Yaml

namespace Rollout.Json

/-- Reads the first document of a YAML text against a shape; see `Rollout.Yaml.Walk`. -/
def Shape.readYaml (s : Shape) (text : String) : Except Yaml.Error Value :=
  let (events, err) := Yaml.Event.stream text
  let (doc, more) := Yaml.Document.first events err
  let fuel := (doc.events.size + 2) * 101 + 512
  match ((Yaml.Walk.shaped fuel Yaml.collectionLimit .root s).run doc).run {} with
  | .error e => .error e
  | .ok (v, _) =>
    match doc.error with
    | some e => .error e
    | none => if more then .error .manyDocuments else .ok v

end Rollout.Json
