import SchemaDrift.Host.Arguments
import SchemaDrift.Host.Style

namespace SchemaDrift.Host

/-- The character on both sides of the number that marks an expression inside a literal. -/
def mark : Char := Char.ofNat 0x1D

/-- The mark of the expression with a number. -/
def markOf (index : Nat) : List Char := mark :: (toString index).toList ++ [mark]

/-- A literal of a source text. -/
structure Literal where
  text : List Char
  line : Nat
  interpolations : List String
  arguments : CallArguments
  deriving DecidableEq, Inhabited

/-- The failure of a reader that has to look at the text behind a place beyond its end. -/
inductive ReadFault where
  | beyondEnd
  deriving DecidableEq, Inhabited

/-- The part of a literal that has been read. -/
structure Draft where
  text : List Char
  interpolations : List String
  deriving DecidableEq, Inhabited

namespace Draft

/-- Nothing read yet. -/
def empty : Draft := ⟨[], []⟩

def addText (draft : Draft) (text : List Char) : Draft := { draft with text := draft.text ++ text }

/-- The draft with an expression, which a mark stands for. -/
def addExpression (draft : Draft) (expression : List Char) : Draft :=
  ⟨draft.text ++ markOf draft.interpolations.length,
    draft.interpolations ++ [String.ofList (Text.trim expression)]⟩

end Draft

/-- What a backslash and the character after it write. -/
def escapedText (style : Style) (c : Char) : List Char :=
  match style.escapes with
  | .nothing => ['\\', c]
  | .kept => ['\\', c]
  | .delimiter => if c == '\\' || c == style.quote then [c] else ['\\', c]
  | .special =>
    if c == 'n' then ['\n']
    else if c == 't' then ['\t']
    else if c == 'r' then ['\r']
    else if c == '0' then [Char.ofNat 0]
    else if c == '\n' then []
    else if ['\\', '\'', '"', '\x60', '$', '\x7b', '\x7d', '#'].contains c then [c]
    else ['\\', c]

/-- The text or the expression that a part of a literal adds, and the length of the part. -/
inductive Piece where
  | text (text : List Char) (span : Nat)
  | expression (expression : List Char) (span : Nat)
  deriving DecidableEq, Inhabited

namespace Piece

def span : Piece → Nat
  | text _ length => length
  | expression _ length => length

def addTo (draft : Draft) : Piece → Draft
  | text added _ => draft.addText added
  | expression added _ => draft.addExpression added

end Piece

/-- The expression between braces after `lead` characters, the last of which opens them. -/
def braced (lead : Nat) (rest : List Char) (shown : List Char → List Char) : Piece :=
  let part := readBalanced '\x7b' '\x7d' 0 none rest
  .expression (shown part.inner) (lead + part.span)

/-- The expression at the start of the rest of a literal, if one stands there. -/
def interpolation? (kind : Interpolation) (text : List Char) : Option Piece :=
  match kind, text with
  | .braces, '\x7b' :: '\x7b' :: _ => some (.text ['\x7b'] 2)
  | .braces, '\x7d' :: '\x7d' :: _ => some (.text ['\x7d'] 2)
  | .braces, '\x7b' :: rest => some (braced 1 rest shownExpression)
  | .dollarBraces, '$' :: '\x7b' :: rest => some (braced 2 rest id)
  | .hashBraces, '#' :: '\x7b' :: rest => some (braced 2 rest id)
  | .variables, '\x7b' :: '$' :: rest => some (braced 1 ('$' :: rest) id)
  | .variables, '$' :: c :: rest =>
    if Text.isAlphabetic c || c == '_' then
      let span := memberSpan (c :: rest)
      some (.expression ('$' :: (c :: rest).take span) (1 + span))
    else none
  | _, _ => none

/-- The part at the start of the rest of a literal; none where the literal ends without a
delimiter. -/
def piece? (style : Style) (text : List Char) : Option Piece :=
  match text with
  | [] => none
  | c :: rest =>
    if c == '\n' && !style.multiline then none
    else if c == '\\' && style.escapes != .nothing then
      match rest with
      | [] => some (.text [] 1)
      | escaped :: _ => some (.text (escapedText style escaped) 2)
    else some ((interpolation? style.interpolation text).getD (.text [c] 1))

theorem braced_span_pos {lead : Nat} (positive : 0 < lead) (rest : List Char)
    (shown : List Char → List Char) : 0 < (braced lead rest shown).span := by
  simp only [braced, Piece.span]
  omega

theorem interpolation?_span_pos {kind : Interpolation} {text : List Char} {piece : Piece}
    (found : interpolation? kind text = some piece) : 0 < piece.span := by
  unfold interpolation? at found
  split at found
  · exact Option.some.inj found ▸ Nat.two_pos
  · exact Option.some.inj found ▸ Nat.two_pos
  · exact Option.some.inj found ▸ braced_span_pos Nat.one_pos _ _
  · exact Option.some.inj found ▸ braced_span_pos Nat.two_pos _ _
  · exact Option.some.inj found ▸ braced_span_pos Nat.two_pos _ _
  · exact Option.some.inj found ▸ braced_span_pos Nat.one_pos _ _
  · split at found
    · rw [← Option.some.inj found]
      simp only [Piece.span]
      omega
    · cases found
  · cases found

theorem piece?_span_pos {style : Style} {text : List Char} {piece : Piece}
    (found : piece? style text = some piece) : 0 < piece.span := by
  unfold piece? at found
  split at found
  · simp at found
  · split at found
    · simp at found
    · split at found
      · split at found <;> simp only [Option.some.injEq] at found <;> subst found <;>
          simp [Piece.span]
      · simp only [Option.some.injEq] at found
        subst found
        rename_i c rest _ _
        cases inner : interpolation? style.interpolation (c :: rest) with
        | none => simp [Piece.span]
        | some piece => simpa using interpolation?_span_pos inner

/-- The draft with the rest of a literal after its opening, and the place after its delimiter. -/
def readBody (style : Style) (draft : Draft) (cursor : Cursor) : Draft × Cursor :=
  if Text.startsWith style.delimiter cursor.rest then (draft, cursor.advance style.openingSpan)
  else
    match found : piece? style cursor.rest with
    | none => (draft, cursor)
    | some piece =>
      have := piece?_span_pos found
      readBody style (piece.addTo draft) (cursor.advance piece.span)
termination_by cursor.rest.length
decreasing_by
  rw [Cursor.advance_length]
  have nonempty : cursor.rest ≠ [] := by
    intro empty
    simp [empty, piece?] at found
  have := List.length_pos_iff.2 nonempty
  omega

theorem readBody_length_le (style : Style) (draft : Draft) (cursor : Cursor) :
    (readBody style draft cursor).2.rest.length ≤ cursor.rest.length := by
  fun_induction readBody style draft cursor with
  | case1 => simp [Cursor.advance_length]
  | case2 => exact Nat.le_refl _
  | case3 draft cursor _ piece _ _ inductionHypothesis =>
    rw [Cursor.advance_length] at inductionHypothesis
    omega

/-- The draft with a literal that opens at the place, and the place after it. -/
def readString (opening : Opening) (draft : Draft) (cursor : Cursor) : Draft × Cursor :=
  readBody opening.style draft (cursor.advance (opening.letters + opening.style.openingSpan))

theorem readString_length_lt (opening : Opening) (draft : Draft) (cursor : Cursor)
    (nonempty : cursor.rest ≠ []) :
    (readString opening draft cursor).2.rest.length < cursor.rest.length := by
  have bound := readBody_length_le opening.style draft
    (cursor.advance (opening.letters + opening.style.openingSpan))
  rw [Cursor.advance_length] at bound
  have := opening.style.openingSpan_pos
  have := List.length_pos_iff.2 nonempty
  unfold readString
  omega

/-- What is joined to a literal: nothing more, a further literal or an expression. -/
inductive Joint where
  | nothing
  | string (opening : Opening) (place : Cursor)
  | operand (expression : List Char) (place : Cursor)
  deriving DecidableEq, Inhabited

/-- The expression joined at the place, unless it is blank. -/
def operandAt (place : Cursor) : Joint :=
  let span := operandSpan 0 place.rest
  let expression := place.rest.take span
  if (Text.trim expression).isEmpty then .nothing else .operand expression (place.advance span)

/-- What is joined at the place: a literal, or an expression if a plus sign stands before it. -/
def joinedAt (language : Language) (plus : Bool) (place : Cursor) : Except ReadFault Joint :=
  if place.beyond then .error .beyondEnd
  else match opening? language place.before place.rest with
    | some opening => .ok (.string opening place)
    | none => if plus then .ok (operandAt place) else .ok .nothing

/-- A text starts with a plus sign that is a whole operator. -/
def startsWithPlus : List Char → Bool
  | '+' :: '+' :: _ => false
  | '+' :: '=' :: _ => false
  | '+' :: _ => true
  | _ => false

/-- What is joined to a literal that ends at the place, after a plus sign or, in some languages,
without one. -/
def joint (language : Language) (cursor : Cursor) : Except ReadFault Joint :=
  let place := cursor.skipBlanks language
  if startsWithPlus place.rest then joinedAt language true (place.next.skipBlanks language)
  else if language.joinsNeighbours then joinedAt language false place
  else .ok .nothing

theorem operandAt_ne_string (place : Cursor) (opening : Opening) (after : Cursor) :
    operandAt place ≠ .string opening after := by
  unfold operandAt
  simp only
  split <;> simp

theorem joinedAt_string {language : Language} {plus : Bool} {place after : Cursor}
    {opening : Opening} (joined : joinedAt language plus place = .ok (.string opening after)) :
    after = place ∧ place.rest ≠ [] := by
  unfold joinedAt at joined
  split at joined
  · simp at joined
  · split at joined
    · rename_i found
      simp only [Except.ok.injEq, Joint.string.injEq] at joined
      refine ⟨joined.2.symm, ?_⟩
      intro empty
      rw [empty, opening?_nil] at found
      simp at found
    · split at joined
      · simp only [Except.ok.injEq] at joined
        exact absurd joined (operandAt_ne_string _ _ _)
      · simp at joined

theorem joinedAt_operand {language : Language} {plus : Bool} {place after : Cursor}
    {expression : List Char}
    (joined : joinedAt language plus place = .ok (.operand expression after)) :
    plus = true ∧ after.rest.length ≤ place.rest.length := by
  unfold joinedAt operandAt at joined
  simp only at joined
  split at joined
  · simp at joined
  · split at joined
    · simp at joined
    · split at joined
      · rename_i isPlus
        split at joined
        · simp at joined
        · simp only [Except.ok.injEq, Joint.operand.injEq] at joined
          obtain ⟨_, rfl⟩ := joined
          refine ⟨isPlus, ?_⟩
          rw [Cursor.advance_length]
          omega
      · simp at joined

theorem afterPlus_length_lt {language : Language} {cursor : Cursor}
    (plus : startsWithPlus (cursor.skipBlanks language).rest = true) :
    ((cursor.skipBlanks language).next.skipBlanks language).rest.length < cursor.rest.length := by
  have blanks := cursor.skipBlanks_length_le language
  have after := ((cursor.skipBlanks language).next).skipBlanks_length_le language
  rw [Cursor.next_rest, List.length_drop] at after
  have nonempty : (cursor.skipBlanks language).rest ≠ [] := by
    intro empty
    simp [empty, startsWithPlus] at plus
  have := List.length_pos_iff.2 nonempty
  omega

theorem joint_string_length_le {language : Language} {cursor place : Cursor} {opening : Opening}
    (joined : joint language cursor = .ok (.string opening place)) :
    place.rest ≠ [] ∧ place.rest.length ≤ cursor.rest.length := by
  unfold joint at joined
  simp only at joined
  split at joined
  · rename_i plus
    obtain ⟨rfl, nonempty⟩ := joinedAt_string joined
    exact ⟨nonempty, Nat.le_of_lt (afterPlus_length_lt plus)⟩
  · split at joined
    · obtain ⟨rfl, nonempty⟩ := joinedAt_string joined
      exact ⟨nonempty, cursor.skipBlanks_length_le language⟩
    · simp at joined

theorem joint_operand_length_lt {language : Language} {cursor place : Cursor}
    {expression : List Char} (joined : joint language cursor = .ok (.operand expression place)) :
    place.rest.length < cursor.rest.length := by
  unfold joint at joined
  simp only at joined
  split at joined
  · rename_i plus
    have := (joinedAt_operand joined).2
    have := afterPlus_length_lt plus
    omega
  · split at joined
    · simpa using (joinedAt_operand joined).1
    · simp at joined

/-- The draft with all that is joined to a literal that ends at the place, and the place after
it. -/
def readJoined (language : Language) (draft : Draft) (cursor : Cursor) :
    Except ReadFault (Draft × Cursor) :=
  match joined : joint language cursor with
  | .error fault => .error fault
  | .ok .nothing => .ok (draft, cursor)
  | .ok (.string opening place) =>
    have bound := joint_string_length_le joined
    have := readString_length_lt opening draft place bound.1
    readJoined language (readString opening draft place).1 (readString opening draft place).2
  | .ok (.operand expression place) =>
    have := joint_operand_length_lt joined
    readJoined language (draft.addExpression expression) place
termination_by cursor.rest.length
decreasing_by
  · have := bound.2
    omega
  · assumption

theorem readJoined_length_le {language : Language} {draft : Draft} {cursor : Cursor}
    {answer : Draft × Cursor} (read : readJoined language draft cursor = .ok answer) :
    answer.2.rest.length ≤ cursor.rest.length := by
  fun_induction readJoined language draft cursor with
  | case1 => simp at read
  | case2 =>
    simp only [Except.ok.injEq] at read
    subst read
    exact Nat.le_refl _
  | case3 draft cursor opening place _ bound shorter inductionHypothesis =>
    have := bound.2
    have := inductionHypothesis read
    omega
  | case4 draft cursor expression place _ shorter inductionHypothesis =>
    have := inductionHypothesis read
    omega

/-- The most characters of a list of arguments after which the reading of another stops. -/
def argumentsLimit : Nat := 2048

/-- The place in a list of arguments where it ends, given the place reached in it, the number of
open brackets and the quote that has begun. -/
def argumentsEnd (place depth : Nat) (quote : Option Char) : List Char → Nat
  | [] => place
  | c :: rest =>
    if place > argumentsLimit then place
    else match quote with
      | some q =>
        if c == q then argumentsEnd (place + 1) depth none rest
        else if c == '\\' then
          match rest with
          | [] => place + 1
          | _ :: rest => argumentsEnd (place + 2) depth quote rest
        else argumentsEnd (place + 1) depth quote rest
      | none =>
        if isQuote c then argumentsEnd (place + 1) depth (some c) rest
        else if isOpening c then argumentsEnd (place + 1) (depth + 1) none rest
        else if isClosing c then
          match depth with
          | 0 => place
          | outer + 1 => argumentsEnd (place + 1) outer none rest
        else if c == ';' && depth == 0 then place
        else argumentsEnd (place + 1) depth none rest

/-- The operand of a formatting operator: a group in brackets, or an operand as in a sum. -/
def formatOperand (text : List Char) : Except ReadFault (List Char) :=
  let group (opening closing : Char) (rest : List Char) : Except ReadFault (List Char) :=
    let part := readBalanced opening closing 0 none rest
    if part.span > rest.length then .error .beyondEnd
    else .ok (opening :: rest.take part.span)
  match text with
  | '(' :: rest => group '(' ')' rest
  | '[' :: rest => group '[' ']' rest
  | '\x7b' :: rest => group '\x7b' '\x7d' rest
  | _ => .ok (text.take (operandSpan 0 text))

/-- The arguments after a literal that ends at the place: those of a formatting operator, or those
after a comma, with one closing bracket allowed before it. -/
def trailingArguments (language : Language) (cursor : Cursor) : Except ReadFault CallArguments := do
  let place := cursor.skipBlanks language
  if language == .python && place.rest.head? == some '%' && place.rest[1]? != some '=' then
    let operand ← formatOperand (place.next.skipBlanks language).rest
    return .ofText operand
  let place :=
    if place.rest.head? == some ')' then place.next.skipBlanks language else place
  match place.rest with
  | ',' :: rest => return .ofText (rest.take (argumentsEnd 0 0 none rest))
  | _ => return .empty

/-- The literal that opens at the place, and the place after it. -/
def readLiteral (language : Language) (opening : Opening) (cursor : Cursor) :
    Except ReadFault (Literal × Cursor) :=
  let first := readString opening .empty cursor
  match readJoined language first.1 first.2 with
  | .error fault => .error fault
  | .ok (draft, after) =>
    match trailingArguments language after with
    | .error fault => .error fault
    | .ok arguments => .ok (⟨draft.text, cursor.line, draft.interpolations, arguments⟩, after)

theorem readLiteral_length_lt {language : Language} {opening : Opening} {cursor : Cursor}
    {answer : Literal × Cursor} (nonempty : cursor.rest ≠ [])
    (read : readLiteral language opening cursor = .ok answer) :
    answer.2.rest.length < cursor.rest.length := by
  unfold readLiteral at read
  simp only at read
  split at read
  · simp at read
  · split at read
    · simp at read
    · rename_i joined _ _ _
      simp only [Except.ok.injEq] at read
      subst read
      have := readJoined_length_le joined
      have := readString_length_lt opening .empty cursor nonempty
      simp only at *
      omega

def readLiterals (language : Language) (cursor : Cursor) : Except ReadFault (List Literal) :=
  if empty : cursor.rest = [] then .ok []
  else
    have := List.length_pos_iff.2 empty
    match commentSpan language cursor.rest with
    | span + 1 => readLiterals language (cursor.advance (span + 1))
    | 0 =>
      match opening? language cursor.before cursor.rest with
      | none => readLiterals language (cursor.advance (plainSpan language cursor.rest))
      | some opening =>
        match read : readLiteral language opening cursor with
        | .error fault => .error fault
        | .ok (literal, after) =>
          have := readLiteral_length_lt empty read
          match readLiterals language after with
          | .error fault => .error fault
          | .ok literals => .ok (literal :: literals)
termination_by cursor.rest.length
decreasing_by
  · rw [Cursor.advance_length]
    omega
  · rw [Cursor.advance_length]
    have := plainSpan_pos language cursor.rest
    omega
  · assumption

/-- The literals of a source text; statements of plain files stand in none. -/
def literalsOf (language : Language) (source : List Char) : Except ReadFault (List Literal) :=
  if language == .sql then .ok [] else readLiterals language (.start source)

def Literal.toJson (literal : Literal) : Json :=
  .object [("text", .string (String.ofList literal.text)), ("line", .ofNat literal.line),
    ("interpolations", .array (literal.interpolations.map .string)),
    ("args", literal.arguments.toJson)]

end SchemaDrift.Host
