import Rollout.Yaml.Event
/-!
# YAML documents

A document is the run of events between one document start and its end. Loading it numbers
the anchors: an anchor gets the number of distinct anchor names defined before it, and an
alias refers to the number its name has at that point; after loading, a number stands for the
node defined last with it. An alias to a name never defined ends the document with an error,
as a syntax error does. An empty stream is one document holding a single void event.

Only one document is read from a text: `Document.first` loads the first and also tells whether
anything follows it.

The errors of reading a document are `Error`s, and `Path`s say where in the document a value
stands: keys joined by `.`, sequence positions in brackets.

* `render_entry_root`: a key at the top of the document is written alone.
-/

namespace Rollout.Yaml

/-- Where a value stands in a document: the root, an item of a sequence, the value of a key,
the target of an alias (written as the alias), or the value of a key that is not text. -/
inductive Path where
  | root
  | item (parent : Path) (index : Nat)
  | entry (parent : Path) (key : String)
  | alias (parent : Path)
  | unknown (parent : Path)
deriving Inhabited

/-- The text of a path: `.` for the root, keys after their parent and a dot (no dot after the
root), an item's position in brackets right after its sequence, `?` for a key that is not text. -/
def Path.render : Path → String
  | .root => "."
  | .item p i => render p ++ "[" ++ toString i ++ "]"
  | .entry .root k => k
  | .entry p k => render p ++ "." ++ k
  | .alias p => render p
  | .unknown .root => "?"
  | .unknown p => render p ++ ".?"

theorem render_entry_root (k : String) : (Path.entry .root k).render = k := rfl

/-- Why a YAML text could not be read as wanted. -/
inductive Error where
  /-- The text is not YAML. -/
  | malformed (e : SyntaxError)
  /-- The document does not have the wanted shape; the mark and path of the node where this
  was found are added once known. -/
  | mismatch (message : String) (place : Option (Mark × Path))
  | endOfStream
  | manyDocuments
  | recursionLimit (m : Mark)
  | repetitionLimit
  | unknownAnchor (m : Mark)
deriving Inhabited

namespace Error

/-- The text of an error. A mismatch is led by its path, unless that is the root, and followed
by its mark, unless that is the start of the text. -/
def message : Error → String
  | .malformed e => e.message
  | .mismatch text none => text
  | .mismatch text (some (m, p)) =>
    let path := p.render
    (if path == "." then "" else path ++ ": ") ++ text ++ m.suffix
  | .endOfStream => "EOF while parsing a value"
  | .manyDocuments => "deserializing from YAML containing more than one document is not supported"
  | .recursionLimit m => "recursion limit exceeded" ++ m.suffix
  | .repetitionLimit => "repetition limit exceeded"
  | .unknownAnchor m => "unknown anchor" ++ m.suffix

/-- Places a mismatch that has no place yet at a node; other errors stay as they are. -/
def place (m : Mark) (p : Path) : Error → Error
  | .mismatch text none => .mismatch text (some (m, p))
  | e => e

end Error

/-- An event of a loaded document. -/
inductive Loaded where
  /-- An alias, by the number of its anchor. -/
  | alias (anchor : Nat)
  | scalar (tag : Option String) (text : String) (style : ScalarStyle)
  | sequenceStart (tag : Option String)
  | sequenceEnd
  | mappingStart (tag : Option String)
  | mappingEnd
  /-- The whole of an empty stream. -/
  | void
deriving Inhabited

/-- A loaded document. -/
structure Document where
  events : Array (Loaded × Mark) := #[]
  /-- The error that ended the document early, if any. -/
  error : Option Error := none
  /-- For each anchor number, the index of the event that starts its node. -/
  anchors : List (Nat × Nat) := []
deriving Inhabited

namespace Document

/-- The index of the event that starts the node of an anchor number. -/
def target (d : Document) (anchor : Nat) : Option Nat := (d.anchors.find? (·.1 == anchor)).map (·.2)

/-- Defines an anchor at the next event: its name gets the number of names so far. -/
def define (names : List (String × Nat)) (d : Document) :
    Option String → List (String × Nat) × Document
  | none => (names, d)
  | some name =>
    let n := names.length
    ((name, n) :: names.filter (·.1 != name),
      { d with anchors := (n, d.events.size) :: d.anchors.filter (·.1 != n) })

/-- Adds an event. -/
def add (d : Document) (e : Loaded) (m : Mark) : Document := { d with events := d.events.push (e, m) }

/-- Whether a document follows, given the events after the first one's end. -/
def follows (err : Option SyntaxError) : List (Event × Mark) → Bool
  | [] => err.isSome
  | (.streamEnd, _) :: _ => false
  | _ => true

/-- Loads the first document of a stream of events, which the syntax error `err` (if any)
cut short; tells whether another document follows. -/
def first (events : Array (Event × Mark)) (err : Option SyntaxError) : Document × Bool :=
  go events.toList [] {}
where
  /-- Adds events up to the end of the document. -/
  go : List (Event × Mark) → List (String × Nat) → Document → Document × Bool
    | [], _, d => ({ d with error := err.map .malformed }, false)
    | (e, m) :: rest, names, d =>
      match e with
      | .streamStart | .documentStart => go rest names d
      | .streamEnd => (if d.events.isEmpty then d.add .void m else d, false)
      | .documentEnd => (d, follows err rest)
      | .alias name =>
        match names.find? (·.1 == name) with
        | some (_, n) => go rest names (d.add (.alias n) m)
        | none => ({ d with error := some (.unknownAnchor m) }, false)
      | .scalar anchor tag text style =>
        let (names, d) := define names d anchor
        go rest names (d.add (.scalar tag text style) m)
      | .sequenceStart anchor tag =>
        let (names, d) := define names d anchor
        go rest names (d.add (.sequenceStart tag) m)
      | .sequenceEnd => go rest names (d.add .sequenceEnd m)
      | .mappingStart anchor tag =>
        let (names, d) := define names d anchor
        go rest names (d.add (.mappingStart tag) m)
      | .mappingEnd => go rest names (d.add .mappingEnd m)

end Document

end Rollout.Yaml
