import Rollout.Pattern.Syntax
/-!
# Error reports

An error report shows the pattern with the blamed spans underlined by carets, then the error:

```text
regex parse error:
    ^(?:a{2,1})
         ^^^^^
error: invalid repetition count range, the start must be <= the end
```

A span gets as many carets as it has columns, at least one. A pattern of one line is indented
by four spaces; one of several lines is framed by lines of 79 tildes and numbered, and a span
over several lines is named by its lines and columns below the frame.
-/

namespace Rollout.Pattern

/-- A number of copies of a character. -/
def repeatChar (c : Char) (n : Nat) : String := String.ofList (List.replicate n c)

/-- The lines of a text, without a line after a final line feed and without the carriage
return at the end of each line. -/
def textLines (text : String) : List String :=
  let parts := text.splitOn "\n"
  let parts := if text.endsWith "\n" then parts.dropLast else parts
  let parts := if text.isEmpty then [] else parts
  parts.map fun l => if l.endsWith "\r" then String.ofList l.toList.dropLast else l

/-- The caret line of the spans of one line, after the margin. -/
def caretLine (margin : Nat) (spans : List Span) : String :=
  let (text, _) := spans.foldl (fun (acc, pos) (s : Span) =>
    let gap := s.start.column - 1 - pos
    let carets := Nat.max 1 (s.stop.column - s.start.column)
    (acc ++ repeatChar ' ' gap ++ repeatChar '^' carets, Nat.max pos (s.start.column - 1) + carets))
    (repeatChar ' ' margin, 0)
  text

/-- Inserts a span into a list sorted by `Span.before`. -/
def insertSpan (s : Span) : List Span → List Span
  | [] => [s]
  | t :: rest => if s.before t then s :: t :: rest else t :: insertSpan s rest

/-- The report of an error in a pattern. -/
def SyntaxError.report (e : SyntaxError) (pattern : String) : String :=
  let lines := textLines pattern
  let lineCount := lines.length + (if pattern.endsWith "\n" then 1 else 0)
  let width := if lineCount ≤ 1 then 0 else (toString lineCount).length
  let spans := match e.first with
    | some f => insertSpan f [e.span]
    | none => [e.span]
  let oneLine := spans.filter Span.isOneLine
  let multiLine := spans.filter fun s => !s.isOneLine
  let margin := if width = 0 then 4 else 2 + width
  let numbered := lines.zipIdx.map fun (line, i) =>
    let head := if width = 0 then "    "
      else repeatChar ' ' (width - (toString (i + 1)).length) ++ toString (i + 1) ++ ": "
    let onLine := oneLine.filter fun s => s.start.line == i + 1
    head ++ line ++ "\n" ++
      (if onLine.isEmpty then "" else caretLine margin onLine ++ "\n")
  let notated := String.join numbered
  if pattern.contains '\n' then
    let divider := repeatChar '~' 79
    let notes := multiLine.map fun s =>
      "on line " ++ toString s.start.line ++ " (column " ++ toString s.start.column ++
        ") through line " ++ toString s.stop.line ++ " (column " ++
        toString (s.stop.column - 1) ++ ")"
    "regex parse error:\n" ++ divider ++ "\n" ++ notated ++ divider ++ "\n" ++
      (if notes.isEmpty then "" else "\n".intercalate notes ++ "\n") ++
      "error: " ++ e.kind.message
  else
    "regex parse error:\n" ++ notated ++ "error: " ++ e.kind.message

end Rollout.Pattern
