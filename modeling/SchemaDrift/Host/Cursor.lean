import SchemaDrift.Host.Language

namespace SchemaDrift.Host

/-- The place of a reader in a text. A reader that passes over more than is left stands beyond the
end. -/
structure Cursor where
  before : Option Char
  line : Nat
  rest : List Char
  beyond : Bool
  deriving DecidableEq, Inhabited

namespace Cursor

/-- The place before a text. -/
def start (text : List Char) : Cursor := ⟨none, 1, text, false⟩

/-- The place after the next character. -/
def next (cursor : Cursor) : Cursor :=
  match cursor.rest with
  | [] => { cursor with beyond := true }
  | c :: rest => ⟨some c, if c == '\n' then cursor.line + 1 else cursor.line, rest, cursor.beyond⟩

/-- The place after the next `count` characters. -/
def advance : Nat → Cursor → Cursor
  | 0, cursor => cursor
  | count + 1, cursor => advance count cursor.next

theorem next_rest (cursor : Cursor) : cursor.next.rest = cursor.rest.drop 1 := by
  unfold next
  split <;> simp_all

theorem advance_rest (count : Nat) (cursor : Cursor) :
    (advance count cursor).rest = cursor.rest.drop count := by
  induction count generalizing cursor with
  | zero => simp [advance]
  | succ count inductionHypothesis =>
    rw [advance, inductionHypothesis, next_rest, List.drop_drop, Nat.add_comm]

theorem advance_length (count : Nat) (cursor : Cursor) :
    (advance count cursor).rest.length = cursor.rest.length - count := by
  rw [advance_rest, List.length_drop]

end Cursor

/-- The length of a comment between asterisks after its opening, to the end of the text if it does
not close. -/
def blockCommentSpan : List Char → Nat
  | [] => 0
  | '*' :: '/' :: _ => 2
  | _ :: rest => 1 + blockCommentSpan rest

/-- The length of the comment at the start of a text; zero if there is none. -/
def commentSpan (language : Language) : List Char → Nat
  | [] => 0
  | c :: rest =>
    if (language.hashComments && c == '#')
        || (language.slashComments && c == '/' && rest.head? == some '/') then
      1 + (rest.takeWhile (· != '\n')).length
    else if language.slashComments && c == '/' && rest.head? == some '*' then
      2 + blockCommentSpan (rest.drop 1)
    else 0

/-- The length of the blank, the broken line or the comment at the start of a text; zero if there is
none. -/
def blankSpan (language : Language) (text : List Char) : Nat :=
  match text with
  | [] => 0
  | c :: rest =>
    if Text.isBlank c then 1
    else if c == '\\' && language == .python && rest.head? == some '\n' then 2
    else commentSpan language text

/-- The place after blanks and comments. -/
def Cursor.skipBlanks (language : Language) (cursor : Cursor) : Cursor :=
  match spanned : blankSpan language cursor.rest with
  | 0 => cursor
  | count + 1 => skipBlanks language (cursor.advance (count + 1))
termination_by cursor.rest.length
decreasing_by
  rw [Cursor.advance_length]
  have nonempty : cursor.rest ≠ [] := by
    intro empty
    simp [empty, blankSpan] at spanned
  have := List.length_pos_iff.2 nonempty
  omega

theorem Cursor.skipBlanks_length_le (language : Language) (cursor : Cursor) :
    (cursor.skipBlanks language).rest.length ≤ cursor.rest.length := by
  fun_induction Cursor.skipBlanks language cursor with
  | case1 => exact Nat.le_refl _
  | case2 cursor count _ inductionHypothesis =>
    rw [Cursor.advance_length] at inductionHypothesis
    omega

/-- The length of what starts with an apostrophe that encloses a single character; an apostrophe
that encloses none stands alone. -/
def characterSpan (text : List Char) : Nat :=
  if text[1]? == some '\\' then
    3 + ((text.drop 2).takeWhile fun c => c != '\'' && c != '\n').length
  else if text[2]? == some '\'' then 3
  else 1

/-- The length of what the reader passes over at the start of a text where no literal and no comment
starts. -/
def plainSpan (language : Language) (text : List Char) : Nat :=
  match text with
  | [] => 1
  | c :: rest =>
    if c == '\'' && language.apostropheIsCharacter then characterSpan text
    else if language.isIdentifierPart c then 1 + (rest.takeWhile language.isIdentifierPart).length
    else 1

theorem plainSpan_pos (language : Language) (text : List Char) : 0 < plainSpan language text := by
  unfold plainSpan characterSpan
  split
  · exact Nat.one_pos
  · repeat' split
    all_goals omega

/-- A part of a text that ends with a closing bracket: what stands before the bracket, and the
number of characters that the reader passes over. -/
structure Balanced where
  inner : List Char
  span : Nat
  deriving DecidableEq, Inhabited

/-- A balanced part with a character in front. -/
def Balanced.cons (c : Char) (part : Balanced) : Balanced := ⟨c :: part.inner, part.span + 1⟩

/-- The part of a text up to the bracket that closes one already open, where `depth` further ones
are open. In quotes a backslash hides the character after it; if none is left, the reader passes
over the end of the text. -/
def readBalanced (opening closing : Char) (depth : Nat) (quote : Option Char) :
    List Char → Balanced
  | [] => ⟨[], 0⟩
  | c :: rest =>
    match quote with
    | some q =>
      if c == q then (readBalanced opening closing depth none rest).cons c
      else if c == '\\' then
        match rest with
        | [] => ⟨[c], 2⟩
        | hidden :: rest => ((readBalanced opening closing depth quote rest).cons hidden).cons c
      else (readBalanced opening closing depth quote rest).cons c
    | none =>
      if c == '"' || c == '\'' then (readBalanced opening closing depth (some c) rest).cons c
      else if c == opening then (readBalanced opening closing (depth + 1) none rest).cons c
      else if c == closing then
        match depth with
        | 0 => ⟨[], 1⟩
        | outer + 1 => (readBalanced opening closing outer none rest).cons c
      else (readBalanced opening closing depth none rest).cons c

/-- The length of an operand of a sum, up to the next separator outside its brackets, where `depth`
brackets are open. -/
def operandSpan (depth : Nat) : List Char → Nat
  | [] => 0
  | c :: rest =>
    if c == '(' || c == '[' || c == '\x7b' then 1 + operandSpan (depth + 1) rest
    else if c == ')' || c == ']' || c == '\x7d' then
      match depth with
      | 0 => 0
      | outer + 1 => 1 + operandSpan outer rest
    else if depth == 0
        && ['+', ',', ';', '\n', '"', '\'', '\x60'].contains c then 0
    else 1 + operandSpan depth rest

/-- The length of the members named after a variable in a text. -/
def memberSpan : List Char → Nat
  | '-' :: '>' :: c :: rest =>
    if Text.isAlphabetic c || c == '_' then 2 + memberSpan (c :: rest) else 0
  | c :: rest => if Text.isNamePart c then 1 + memberSpan rest else 0
  | [] => 0

end SchemaDrift.Host
