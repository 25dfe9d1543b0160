import SchemaDrift.Text.Utf8

namespace SchemaDrift.Sql.Script

/-- A part of a file in which semicolons do not count: the text it adds to a statement, the number
of characters it takes, and the number of lines it goes through. -/
structure Region where
  text : List Char
  span : Nat
  lines : Nat
  deriving DecidableEq, Inhabited

def lineEnds (text : List Char) : Nat := text.count '\n'

/-- What follows an opening quote, up to and with the closing one. -/
def quotedRest (quote : Char) : List Char → List Char
  | [] => []
  | c :: rest => if c == quote then [c] else c :: quotedRest quote rest

/-- A text up to the first place where `delimiter` stands. -/
def untilPart (delimiter : List Char) : List Char → List Char
  | [] => []
  | c :: rest =>
    if Text.startsWith delimiter (c :: rest) then [] else c :: untilPart delimiter rest

/-- The delimiter of the dollar-quoted body that starts a text. The tag is counted by its length in
bytes. -/
def bodyDelimiter? (text : List Char) : Option (List Char) :=
  let tag := (text.drop 1).takeWhile Text.isNamePart
  let close := 1 + Text.utf8Length tag
  if text[close]? == some '$' && !(tag.head?.any Text.isAsciiDigit) then
    some (text.take (close + 1))
  else none

/-- The region that starts a text, if one does. A comment between asterisks that does not end is
closed. -/
def region? (text : List Char) : Option Region :=
  match text with
  | [] => none
  | c :: rest =>
    if c == '\'' || c == '"' then
      let quoted := quotedRest c rest
      some ⟨c :: quoted, 1 + quoted.length, lineEnds quoted⟩
    else if c == '-' && rest.head? == some '-' then
      let comment := text.takeWhile (· != '\n')
      some ⟨comment, comment.length, 0⟩
    else if c == '/' && rest.head? == some '*' then
      let comment := untilPart ['*', '/'] text
      some ⟨comment ++ ['*', '/'], comment.length + 2, lineEnds comment⟩
    else if c == '$' then do
      let delimiter ← bodyDelimiter? text
      let afterOpening := text.drop delimiter.length
      let body := untilPart delimiter afterOpening
      let closing := if body.length < afterOpening.length then delimiter else []
      some ⟨delimiter ++ body ++ closing, delimiter.length + body.length + closing.length,
        lineEnds body⟩
    else none

/-- The reading of a file: the text of the statement so far, the line where it starts, the line
reached, and the statements that are done. -/
structure Reading where
  current : List Char
  start : Option Nat
  line : Nat
  done : List (Nat × List Char)
  deriving DecidableEq, Inhabited

namespace Reading

/-- The reading of a file that has not begun. -/
def empty : Reading := ⟨[], none, 1, []⟩

/-- The reading after the end of a statement; a blank statement is none. -/
def finish (state : Reading) : Reading :=
  let text := Text.trim state.current
  match state.start with
  | some start =>
    if text.isEmpty then { state with current := [], start := none }
    else { state with current := [], start := none, done := state.done ++ [(start, text)] }
  | none => { state with current := [] }

/-- The reading at a character, which starts a statement unless it is blank. -/
def meet (state : Reading) (c : Char) : Reading :=
  if state.start.isNone && !Text.isBlank c then { state with start := some state.line } else state

def pass (state : Reading) (region : Region) : Reading :=
  { state with current := state.current ++ region.text, line := state.line + region.lines }

/-- The reading after a character outside all regions. -/
def passChar (state : Reading) (c : Char) : Reading :=
  if c == ';' then state.finish
  else { state with
    current := state.current ++ [c]
    line := if c == '\n' then state.line + 1 else state.line }

/-- The reading after the rest of a file. -/
def run (state : Reading) : List Char → Reading
  | [] => state.finish
  | c :: rest =>
    match region? (c :: rest) with
    | some region => run ((state.meet c).pass region) (rest.drop (region.span - 1))
    | none => run ((state.meet c).passChar c) rest
termination_by text => text.length
decreasing_by
  all_goals
    simp only [List.length_drop, List.length_cons]
    omega

end Reading

/-- The statements of a file with the lines where they start. -/
def statements (content : List Char) : List (Nat × List Char) := (Reading.empty.run content).done

end SchemaDrift.Sql.Script
