import SchemaDrift.Proofs.Host.Bounds

namespace SchemaDrift.Host

/-- The marks of a text are those of the numbers from `first` up to `count`, each once and in
order. -/
inductive Marked (count : Nat) : Nat → List Char → Prop where
  | last {text : List Char} (clean : mark ∉ text) : Marked count count text
  | next {first : Nat} {lead rest : List Char} (clean : mark ∉ lead)
      (others : Marked count (first + 1) rest) : Marked count first (lead ++ (markOf first ++ rest))

namespace Marked

variable {count first : Nat} {text : List Char}

/-- No mark is numbered above the count. -/
theorem le (marked : Marked count first text) : first ≤ count := by
  induction marked with
  | last => exact Nat.le_refl _
  | next clean others inductionHypothesis => omega

/-- Text without marks changes no marks. -/
theorem append (marked : Marked count first text) {more : List Char} (clean : mark ∉ more) :
    Marked count first (text ++ more) := by
  induction marked with
  | last unmarked => exact .last fun present => (List.mem_append.mp present).elim unmarked clean
  | next unmarked others inductionHypothesis =>
      rw [List.append_assoc, List.append_assoc]
      exact .next unmarked inductionHypothesis

/-- The mark of the next number goes on with the marks. -/
theorem append_markOf (marked : Marked count first text) :
    Marked (count + 1) first (text ++ markOf count) := by
  induction marked with
  | last unmarked =>
      rw [← List.append_nil (markOf count)]
      exact .next unmarked (.last List.not_mem_nil)
  | next unmarked others inductionHypothesis =>
      rw [List.append_assoc, List.append_assoc]
      exact .next unmarked inductionHypothesis

/-- What is left after characters without a mark bears the same marks. -/
theorem drop (marked : Marked count first text) {taken : Nat} (clean : mark ∉ text.take taken) :
    Marked count first (text.drop taken) := by
  cases marked with
  | last unmarked => exact .last fun present => unmarked (List.mem_of_mem_drop present)
  | @next _ lead rest unmarked others =>
      have within : taken ≤ lead.length := by
        by_contra beyond
        refine clean (List.mem_take_iff_getElem.mpr ⟨lead.length, ?_, ?_⟩)
        · simp [markOf]
          omega
        · simp [markOf]
      rw [List.drop_append_of_le_length within]
      exact .next (fun present => unmarked (List.mem_of_mem_drop present)) others

/-- What starts with a mark starts with the whole mark of the first number. -/
theorem of_mark {rest : List Char} (marked : Marked count first (mark :: rest)) :
    ∃ left, rest = (toString first).toList ++ mark :: left ∧ Marked count (first + 1) left := by
  generalize whole : mark :: rest = text at marked
  cases marked with
  | last unmarked => exact absurd (whole ▸ List.mem_cons_self) unmarked
  | @next _ lead left unmarked others =>
      cases lead with
      | nil =>
          refine ⟨left, ?_, others⟩
          have same := (List.cons.inj whole).2
          rw [same]
          simp
      | cons c lead =>
          obtain ⟨rfl, _⟩ := List.cons.inj whole
          exact absurd List.mem_cons_self unmarked

end Marked

/-- A reader that has read a draft: the marks of the draft are those of its expressions, none is left
in the text, and there are at most `limit` expressions and characters left together. -/
structure Reading (limit : Nat) (draft : Draft) (cursor : Cursor) : Prop where
  marked : Marked draft.interpolations.length 0 draft.text
  clean : mark ∉ cursor.rest
  bounded : draft.interpolations.length + cursor.rest.length ≤ limit

/-- Digits, blanks and what a backslash writes are no marks. -/
theorem mark_notMem_escapedText (style : Style) {c : Char} (clean : c ≠ mark) :
    mark ∉ escapedText style c := by
  unfold escapedText
  repeat' split
  all_goals simp [Ne.symm clean, show mark ≠ '\\' by decide, show mark ≠ '\n' by decide,
    show mark ≠ '\t' by decide, show mark ≠ '\r' by decide, show mark ≠ Char.ofNat 0 by decide]

def Piece.Clean : Piece → Prop
  | .text added _ => mark ∉ added
  | .expression _ _ => True

/-- What stands inside a literal where an expression may start adds no mark of its own. -/
theorem interpolation?_clean {kind : Interpolation} {text : List Char} {piece : Piece}
    (found : interpolation? kind text = some piece) : piece.Clean := by
  unfold interpolation? at found
  split at found <;> try split at found
  all_goals cases found
  all_goals simp [Piece.Clean, braced, mark]

/-- The parts of a text without marks add none of their own. -/
theorem piece?_clean {style : Style} {text : List Char} {piece : Piece} (clean : mark ∉ text)
    (found : piece? style text = some piece) : piece.Clean := by
  unfold piece? at found
  split at found
  · cases found
  rename_i c rest
  rw [List.mem_cons, not_or] at clean
  split at found
  · cases found
  split at found
  · split at found <;> obtain rfl := Option.some.inj found
    · exact List.not_mem_nil
    · rw [List.mem_cons, not_or] at clean
      exact mark_notMem_escapedText style (Ne.symm clean.2.1)
  · cases inner : interpolation? style.interpolation (c :: rest) with
    | none =>
        rw [inner] at found
        obtain rfl := Option.some.inj found
        simpa [Piece.Clean] using clean.1
    | some other =>
        rw [inner] at found
        obtain rfl := Option.some.inj found
        exact interpolation?_clean inner

namespace Reading

variable {limit : Nat} {draft : Draft} {cursor : Cursor}

theorem start (clean : mark ∉ cursor.rest) (bounded : cursor.rest.length ≤ limit) :
    Reading limit .empty cursor where
  marked := .last List.not_mem_nil
  clean := clean
  bounded := by simpa [Draft.empty] using bounded

/-- A reader may stand further on in the text. -/
theorem onward (reading : Reading limit draft cursor) {place : Cursor} {taken : Nat}
    (left : place.rest = cursor.rest.drop taken) : Reading limit draft place where
  marked := reading.marked
  clean := fun present => reading.clean (List.mem_of_mem_drop (left ▸ present))
  bounded := by
    have bounded := reading.bounded
    rw [left, List.length_drop]
    omega

/-- An expression takes at least one character of the text. -/
theorem addExpression (reading : Reading limit draft cursor) {place : Cursor} {taken : Nat}
    (left : place.rest = cursor.rest.drop taken) (shorter : place.rest.length < cursor.rest.length)
    (expression : List Char) : Reading limit (draft.addExpression expression) place where
  marked := by
    rw [Draft.addExpression, List.length_append]
    exact reading.marked.append_markOf
  clean := (reading.onward left).clean
  bounded := by
    have bounded := reading.bounded
    rw [Draft.addExpression, List.length_append, List.length_singleton]
    omega

/-- The parts of a literal are added to what is read. -/
theorem addPiece (reading : Reading limit draft cursor) {style : Style} {piece : Piece}
    (found : piece? style cursor.rest = some piece) :
    Reading limit (piece.addTo draft) (cursor.advance piece.span) := by
  have left := Cursor.advance_rest piece.span cursor
  have clean := piece?_clean reading.clean found
  cases piece with
  | text added span =>
      have moved := reading.onward left
      exact ⟨moved.marked.append clean, moved.clean, moved.bounded⟩
  | expression added span =>
      refine reading.addExpression left ?_ added
      have positive := piece?_span_pos found
      have nonempty : cursor.rest ≠ [] := by
        intro empty
        simp [empty, piece?] at found
      have := List.length_pos_iff.mpr nonempty
      rw [Cursor.advance_length]
      omega

/-- The rest of a literal is added to what is read. -/
theorem readBody (reading : Reading limit draft cursor) (style : Style) :
    Reading limit (Host.readBody style draft cursor).1 (Host.readBody style draft cursor).2 := by
  fun_induction Host.readBody style draft cursor with
  | case1 draft cursor ends => exact reading.onward (Cursor.advance_rest _ cursor)
  | case2 => exact reading
  | case3 draft cursor _ piece found _ inductionHypothesis =>
      exact inductionHypothesis (reading.addPiece found)

/-- A literal is added to what is read. -/
theorem readString (reading : Reading limit draft cursor) (opening : Opening) :
    Reading limit (Host.readString opening draft cursor).1
      (Host.readString opening draft cursor).2 :=
  (reading.onward (Cursor.advance_rest _ cursor)).readBody opening.style

end Reading

section Joined

variable {language : Language} {cursor place : Cursor} {joined : Joint}

/-- The place behind what is joined to a literal. -/
def Joint.place? : Joint → Option Cursor
  | .nothing => none
  | .string _ place => some place
  | .operand _ place => some place

theorem joinedAt_rest {plus : Bool} (told : joinedAt language plus cursor = .ok joined)
    (stands : joined.place? = some place) : ∃ taken, place.rest = cursor.rest.drop taken := by
  unfold joinedAt operandAt at told
  simp only at told
  repeat' split at told
  all_goals cases told
  all_goals cases stands
  · exact ⟨0, rfl⟩
  · exact ⟨_, Cursor.advance_rest _ cursor⟩

/-- What is joined to a literal is read on from the end of the literal. -/
theorem joint_rest (told : joint language cursor = .ok joined) (stands : joined.place? = some place) :
    ∃ taken, place.rest = cursor.rest.drop taken := by
  obtain ⟨blanks, skipped⟩ := cursor.exists_skipBlanks_rest language
  unfold joint at told
  simp only at told
  split at told
  · obtain ⟨more, after⟩ := (cursor.skipBlanks language).next.exists_skipBlanks_rest language
    obtain ⟨taken, left⟩ := joinedAt_rest told stands
    refine ⟨blanks + (1 + (more + taken)), ?_⟩
    rw [left, after, Cursor.next_rest, skipped, List.drop_drop, List.drop_drop, List.drop_drop]
  · split at told
    · obtain ⟨taken, left⟩ := joinedAt_rest told stands
      exact ⟨blanks + taken, by rw [left, skipped, List.drop_drop]⟩
    · cases told
      cases stands

end Joined

namespace Reading

variable {language : Language} {limit : Nat} {draft : Draft} {cursor : Cursor}

/-- All that is joined to a literal is added to what is read. -/
theorem readJoined (reading : Reading limit draft cursor) {answer : Draft × Cursor}
    (read : Host.readJoined language draft cursor = .ok answer) :
    Reading limit answer.1 answer.2 := by
  fun_induction Host.readJoined language draft cursor with
  | case1 => cases read
  | case2 =>
      cases read
      exact reading
  | case3 draft cursor opening place told _ _ inductionHypothesis =>
      obtain ⟨taken, left⟩ := joint_rest told rfl
      exact inductionHypothesis ((reading.onward left).readString opening) read
  | case4 draft cursor expression place told shorter inductionHypothesis =>
      obtain ⟨taken, left⟩ := joint_rest told rfl
      exact inductionHypothesis (reading.addExpression left shorter expression) read

end Reading

/-- A literal bears the marks of its expressions, each once and in order, and the source text has at
least as many characters as the literal has expressions. -/
structure Literal.Marked (limit : Nat) (literal : Literal) : Prop where
  marks : Host.Marked literal.interpolations.length 0 literal.text
  bounded : literal.interpolations.length ≤ limit

/-- A literal of a text without marks bears the marks of its expressions. -/
theorem readLiteral_marked {language : Language} {limit : Nat} {opening : Opening} {cursor : Cursor}
    {literal : Literal} {after : Cursor} (clean : mark ∉ cursor.rest)
    (bounded : cursor.rest.length ≤ limit)
    (read : readLiteral language opening cursor = .ok (literal, after)) :
    literal.Marked limit ∧ mark ∉ after.rest ∧ after.rest.length ≤ limit := by
  have reading := (Reading.start clean bounded).readString opening
  unfold readLiteral at read
  simp only at read
  split at read
  · cases read
  · rename_i draft place joined
    have whole := reading.readJoined joined
    split at read
    · cases read
    · cases read
      have bound := whole.bounded
      exact ⟨⟨whole.marked, (Nat.le_add_right ..).trans bound⟩, whole.clean,
        (Nat.le_add_left ..).trans bound⟩

/-- The literals of a text without marks bear the marks of their expressions. -/
theorem readLiterals_marked {language : Language} {limit : Nat} {cursor : Cursor}
    {literals : List Literal} (clean : mark ∉ cursor.rest) (bounded : cursor.rest.length ≤ limit)
    (read : readLiterals language cursor = .ok literals) :
    ∀ literal ∈ literals, literal.Marked limit := by
  have onward : ∀ (place : Cursor) (count : Nat), mark ∉ place.rest → place.rest.length ≤ limit →
      mark ∉ (place.advance count).rest ∧ (place.advance count).rest.length ≤ limit := by
    intro place count clean bounded
    rw [Cursor.advance_rest, List.length_drop]
    exact ⟨fun present => clean (List.mem_of_mem_drop present), by omega⟩
  fun_induction readLiterals language cursor generalizing literals with
  | case1 =>
      cases read
      exact List.forall_mem_nil _
  | case2 cursor _ _ span _ inductionHypothesis =>
      obtain ⟨left, within⟩ := onward cursor (span + 1) clean bounded
      exact inductionHypothesis left within read
  | case3 cursor _ _ _ _ inductionHypothesis =>
      obtain ⟨left, within⟩ := onward cursor _ clean bounded
      exact inductionHypothesis left within read
  | case4 => cases read
  | case5 => cases read
  | case6 cursor _ _ _ opening _ literal after told _ others rest inductionHypothesis =>
      obtain ⟨marked, left, within⟩ := readLiteral_marked clean bounded told
      cases read
      rw [List.forall_mem_cons]
      exact ⟨marked, inductionHypothesis left within rest⟩

/-- The literals of a source text without marks bear the marks of their expressions. -/
theorem literalsOf_marked {language : Language} {source : List Char} {literals : List Literal}
    (clean : mark ∉ source) (read : literalsOf language source = .ok literals) :
    ∀ literal ∈ literals, literal.Marked source.length := by
  unfold literalsOf at read
  split at read
  · cases read
    exact List.forall_mem_nil _
  · exact readLiterals_marked clean (Nat.le_refl _) read

end SchemaDrift.Host
