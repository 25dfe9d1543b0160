import SchemaDrift.Proofs.Host.Marks
import SchemaDrift.Proofs.Host.Rewriting
import SchemaDrift.Proofs.Keyed

namespace SchemaDrift.Host

open Text

def expressionPlaceholder (index : Nat) : List Char := interpolationLead ++ (toString index).toList

/-- The name that an argument has to have to be bound to the placeholder of an expression. -/
def expressionName (index : Nat) : String := "__i" ++ toString index

/-- The characters that a placeholder with a name takes behind its first one: as many as the name has
bytes, and the brackets with the letter where they stand around the name. -/
def nameTaken (before : Option Char) (c : Char) (rest : List Char) : List Char :=
  if c = '%' then
    let close := 1 + utf8Length ((rest.drop 1).takeWhile (· != ')'))
    if rest.head? = some '(' ∧ rest[close]? = some ')' ∧
        (rest[close + 1]? = some 's' ∨ rest[close + 1]? = some 'd') then
      rest.take (close + 2)
    else []
  else if (c = ':' ∨ c = '@') ∧ before ≠ some ':' ∧ StartsName rest then
    rest.take (utf8Length (rest.takeWhile isNamePart))
  else []

/-- No placeholder with a name takes a mark along. -/
def Apart (before : Option Char) : List Char → Prop
  | [] => True
  | c :: rest => mark ∉ nameTaken before c rest ∧ Apart (some c) rest

instance decidableApart : ∀ (before : Option Char) (text : List Char), Decidable (Apart before text)
  | _, [] => inferInstanceAs (Decidable True)
  | before, c :: rest =>
    have := decidableApart (some c) rest
    inferInstanceAs (Decidable (mark ∉ nameTaken before c rest ∧ Apart (some c) rest))

/-- What is left of a text has its marks apart from names as well. -/
theorem Apart.drop {before : Option Char} {c : Char} {rest : List Char}
    (apart : Apart before (c :: rest)) (taken : Nat) :
    Apart ((c :: rest)[taken]?) (rest.drop taken) := by
  induction taken generalizing before c rest with
  | zero => exact apart.2
  | succ taken inductionHypothesis =>
      cases rest with
      | nil => exact True.intro
      | cons d rest => exact inductionHypothesis apart.2

/-- The digits of a number. -/
theorem toList_toString (index : Nat) : (toString index).toList = Nat.toDigits 10 index := by
  simp

/-- The digits of a number end where a mark stands. -/
theorem takeWhile_digits_mark (index : Nat) (rest : List Char) :
    ((toString index).toList ++ mark :: rest).takeWhile isAsciiDigit = (toString index).toList := by
  rw [toList_toString]
  refine (span_append (fun c present => isAsciiDigit_of_mem_toDigits present) ?_).1
  rintro c ⟨⟩
  decide

/-- Different expressions have different placeholders. -/
theorem expressionPlaceholder_injective {first second : Nat}
    (same : expressionPlaceholder first = expressionPlaceholder second) : first = second := by
  have digits := List.append_cancel_left same
  rw [toList_toString, toList_toString] at digits
  rw [← digitsValue_toDigits first, digits, digitsValue_toDigits]

/-- A number is written without marks. -/
theorem mark_notMem_digits (index : Nat) : mark ∉ (toString index).toList := by
  rw [toList_toString]
  intro present
  exact absurd (isAsciiDigit_of_mem_toDigits present) (by decide)

theorem mark_notMem_expressionPlaceholder (index : Nat) : mark ∉ expressionPlaceholder index := by
  rw [expressionPlaceholder, List.mem_append, not_or]
  exact ⟨by decide, mark_notMem_digits index⟩

namespace Binding

variable {state : Binding} {literal : Literal}

/-- Nothing changes for another placeholder than the one that is bound. -/
theorem get?_bind_of_ne {placeholder other : List Char} (different : placeholder ≠ other)
    (expression : Option String) :
    (state.bind placeholder expression).bound.get? (String.ofList other) =
      state.bound.get? (String.ofList other) := by
  cases expression with
  | none => rfl
  | some expression =>
      rw [bind, Keyed.get?_insert, if_neg fun same => different (String.ofList_inj.mp same)]

/-- The expression that is bound to a placeholder, if it is known. -/
theorem get?_bind_self (placeholder : List Char) (expression : String) :
    (state.bind placeholder (some expression)).bound.get? (String.ofList placeholder) =
      some expression := by
  rw [bind, Keyed.get?_insert, if_pos rfl]

/-- A numbered placeholder is none of an expression. -/
theorem get?_bindPosition (literal : Literal) (position index : Nat) :
    (state.bindPosition literal position).bound.get? (String.ofList (expressionPlaceholder index)) =
      state.bound.get? (String.ofList (expressionPlaceholder index)) :=
  get?_bind_of_ne (by simp [numbered, expressionPlaceholder, interpolationLead]) _

/-- A named placeholder is none of an expression if no argument has that name. -/
theorem get?_writeNamed {index : Nat}
    (free : literal.arguments.named.get? (expressionName index) = none) (name : List Char) :
    (state.writeNamed literal name).bound.get? (String.ofList (expressionPlaceholder index)) =
      state.bound.get? (String.ofList (expressionPlaceholder index)) := by
  by_cases same : String.ofList name = expressionName index
  · rw [writeNamed, same, free]
    rfl
  · refine get?_bind_of_ne (fun equal => same ?_) _
    have tails := (List.cons.inj equal).2
    rw [tails, expressionName, ← String.toList_inj]
    simp

/-- A step that passes by all marks: it takes none, writes none, and changes nothing for the
placeholder of an expression that no argument has the name of. -/
structure Step.PassesBy (step : Step) (state : Binding) (literal : Literal) (rest : List Char) :
    Prop where
  taken : mark ∉ rest.take step.more
  written : ∃ text, step.state.output = state.output ++ text ∧ mark ∉ text
  bound : ∀ index, literal.arguments.named.get? (expressionName index) = none →
    step.state.bound.get? (String.ofList (expressionPlaceholder index)) =
      state.bound.get? (String.ofList (expressionPlaceholder index))

/-- A step that writes text without marks and binds nothing. -/
theorem passesBy_write {other : Binding} {rest text : List Char} {more : Nat}
    (taken : mark ∉ rest.take more) (clean : mark ∉ text) (same : other.output = state.output)
    (bound : ∀ index, literal.arguments.named.get? (expressionName index) = none →
      other.bound.get? (String.ofList (expressionPlaceholder index)) =
        state.bound.get? (String.ofList (expressionPlaceholder index))) :
    Step.PassesBy ⟨other.write text, more⟩ state literal rest :=
  ⟨taken, ⟨text, by rw [write, same], clean⟩, bound⟩

/-- A step that writes a named placeholder. -/
theorem passesBy_writeNamed {rest name : List Char} {more : Nat} (taken : mark ∉ rest.take more)
    (clean : mark ∉ name) :
    Step.PassesBy ⟨state.writeNamed literal name, more⟩ state literal rest where
  taken := taken
  written := by
    refine ⟨':' :: name, ?_, ?_⟩
    · rw [writeNamed, write, output_bind]
    · rw [List.mem_cons, not_or]
      exact ⟨by decide, clean⟩
  bound := fun _ free => get?_writeNamed free name

/-- A step that writes the next numbered placeholder. -/
theorem passesBy_writeNext {rest : List Char} {more : Nat} (taken : mark ∉ rest.take more) :
    Step.PassesBy ⟨state.writeNext literal, more⟩ state literal rest := by
  refine passesBy_write taken ?_ (output_bind ..) fun index _ => get?_bindPosition literal _ index
  rw [numbered, List.mem_cons, not_or]
  exact ⟨by decide, mark_notMem_digits _⟩

/-- A name in brackets has no more characters than its bracket and its bytes take. -/
theorem mem_take_of_mem_name {rest : List Char} {d : Char}
    (present : d ∈ (rest.drop 1).takeWhile (· != ')')) :
    d ∈ rest.take (1 + utf8Length ((rest.drop 1).takeWhile (· != ')')) + 2) := by
  have enough := length_le_utf8Length ((rest.drop 1).takeWhile (· != ')'))
  have split := List.take_append_drop 1 rest
  obtain ⟨behind, shape⟩ := List.takeWhile_prefix (l := rest.drop 1) (· != ')')
  rw [← shape, ← List.append_assoc] at split
  generalize (rest.drop 1).takeWhile (· != ')') = name at *
  rw [← split]
  refine (List.prefix_take_iff.mpr ⟨List.prefix_append _ behind, ?_⟩).subset
    (List.mem_append_right _ present)
  rw [List.length_append, List.length_take]
  omega

/-- A step outside quotes that starts at no mark passes by all marks, unless the name of a placeholder
takes one along. -/
theorem plainStep_passesBy (state : Binding) (literal : Literal) (before : Option Char) {c : Char}
    {rest : List Char} (plain : c ≠ mark) (apart : mark ∉ nameTaken before c rest) :
    (state.plainStep literal before c rest).PassesBy state literal rest := by
  have single : mark ∉ [c] := by simpa using Ne.symm plain
  have spec := plainStep_spec state literal before c rest
  generalize state.plainStep literal before c rest = step at spec
  cases spec with
  | quote => exact passesBy_write List.not_mem_nil single rfl fun _ _ => rfl
  | percent isPercent conversion =>
      refine passesBy_writeNext ?_
      cases rest with
      | nil => exact List.not_mem_nil
      | cons d rest =>
          simp only [List.head?_cons, Option.some.injEq] at conversion
          rcases conversion with rfl | rfl <;> simp [mark]
  | question => exact passesBy_writeNext List.not_mem_nil
  | percentName isPercent bracket found =>
      unfold percentName? at found
      simp only at found
      split at found
      · rename_i closes
        cases found
        simp only [Bool.and_eq_true, Bool.or_eq_true, beq_iff_eq] at closes
        rw [nameTaken, if_pos isPercent, if_pos ⟨bracket, closes⟩] at apart
        exact passesBy_writeNamed apart fun present => apart (mem_take_of_mem_name present)
      · cases found
  | numbered dollar known =>
      have clean : mark ∉ rest.takeWhile isAsciiDigit := fun present =>
        absurd (List.mem_takeWhile_imp present) (by decide)
      have taken : rest.take (rest.takeWhile isAsciiDigit).length = rest.takeWhile isAsciiDigit :=
        (List.prefix_iff_eq_take.mp (List.takeWhile_prefix _)).symm
      refine passesBy_write (by rwa [taken]) ?_ ?_ ?_
      · rw [List.mem_cons, not_or]
        exact ⟨by decide, clean⟩
      · rcases known with rfl | ⟨position, rfl⟩
        · rfl
        · exact output_bind ..
      · rcases known with rfl | ⟨position, rfl⟩
        · exact fun _ _ => rfl
        · exact fun index _ => get?_bindPosition literal position index
  | named lead fresh named =>
      have notPercent : c ≠ '%' := by
        rintro rfl
        rcases lead with lead | lead <;> cases lead
      rw [nameTaken, if_neg notPercent, if_pos ⟨lead, fresh, named⟩] at apart
      refine passesBy_writeNamed apart fun present => ?_
      exact absurd (List.mem_takeWhile_imp present) (by decide)
  | cast colon second =>
      obtain ⟨right, rfl⟩ : ∃ right, rest = ':' :: right := by
        cases rest <;> simp_all
      exact passesBy_write (by simp [mark]) (by decide) rfl fun _ _ => rfl
  | copy => exact passesBy_write List.not_mem_nil single rfl fun _ _ => rfl

/-- A step that starts at no mark passes by all marks, unless the name of a placeholder takes one
along. -/
theorem step_passesBy (state : Binding) (literal : Literal) (before : Option Char) {c : Char}
    {rest : List Char} (plain : c ≠ mark) (apart : mark ∉ nameTaken before c rest) :
    (state.step literal before c rest).PassesBy state literal rest := by
  have single : mark ∉ [c] := by simpa using Ne.symm plain
  have unmarked : state.step literal before c rest = state.unmarkedStep literal before c rest := by
    simp [step, plain]
  rw [unmarked, unmarkedStep]
  split
  · rename_i doubled
    obtain ⟨right, rfl⟩ : ∃ right, rest = '%' :: right := by
      cases rest <;> simp_all
    exact passesBy_write (by simp [mark]) (by decide) rfl fun _ _ => rfl
  split
  · exact passesBy_write List.not_mem_nil single rfl fun _ _ => rfl
  · exact plainStep_passesBy state literal before plain apart

/-- The expressions with the first numbers are resolved: no mark is written, their placeholders are,
and each is bound to its expression unless an argument has its name. -/
structure Resolves (literal : Literal) (count : Nat) (state : Binding) : Prop where
  unmarked : mark ∉ state.output
  placed : ∀ index < count, expressionPlaceholder index <:+: state.output
  bound : ∀ index < count, literal.arguments.named.get? (expressionName index) = none →
    state.bound.get? (String.ofList (expressionPlaceholder index)) = literal.interpolations[index]?

/-- What is resolved stays so in a step that passes by all marks. -/
theorem Resolves.passBy {count : Nat} (resolves : state.Resolves literal count) {rest : List Char}
    {step : Step} (passes : step.PassesBy state literal rest) :
    step.state.Resolves literal count := by
  obtain ⟨text, written, clean⟩ := passes.written
  constructor
  · rw [written, List.mem_append, not_or]
    exact ⟨resolves.unmarked, clean⟩
  · intro index below
    exact written ▸ (resolves.placed index below).trans (List.prefix_append ..).isInfix
  · intro index below free
    rw [passes.bound index free, resolves.bound index below free]

/-- The step at a mark takes all of it and resolves its expression. -/
theorem step_markOf (literal : Literal) (before : Option Char) {index : Nat} (rest : List Char)
    (within : index < literal.interpolations.length) (fits : index ≤ wordLimit)
    (resolves : state.Resolves literal index) :
    let step := state.step literal before mark ((toString index).toList ++ mark :: rest)
    step.state.Resolves literal (index + 1) ∧ step.more = (toString index).toList.length + 1 := by
  have digits := takeWhile_digits_mark index rest
  have some? : (toString index).toList.isEmpty = false := by
    rw [toList_toString]
    exact List.isEmpty_eq_false_iff.mpr Nat.toDigits_ne_nil
  have number : boundedNat? wordLimit (toString index).toList = some index := by
    rw [toList_toString, boundedNat?_toDigits fits]
  have stepped : state.step literal before mark ((toString index).toList ++ mark :: rest) =
      ⟨(state.bind (expressionPlaceholder index) (some literal.interpolations[index])).write
        (expressionPlaceholder index), (toString index).toList.length + 1⟩ := by
    simp [step, markStep?, digits, some?, number, within, expressionPlaceholder,
      -Nat.toString_eq_repr, -Nat.toList_repr]
  rw [stepped]
  refine ⟨⟨?_, ?_, ?_⟩, rfl⟩
  · simp only [write, output_bind, List.mem_append, not_or]
    exact ⟨resolves.unmarked, mark_notMem_expressionPlaceholder index⟩
  · intro other below
    simp only [write, output_bind]
    rcases Nat.lt_succ_iff_lt_or_eq.mp below with earlier | rfl
    · exact (resolves.placed other earlier).trans (List.prefix_append ..).isInfix
    · exact (List.suffix_append ..).isInfix
  · intro other below free
    simp only [write]
    rcases Nat.lt_succ_iff_lt_or_eq.mp below with earlier | rfl
    · rw [get?_bind_of_ne, resolves.bound other earlier free]
      intro same
      exact absurd (expressionPlaceholder_injective same) (Nat.ne_of_gt earlier)
    · rw [get?_bind_self, List.getElem?_eq_getElem within]

/-- The rewriting resolves all expressions whose marks are in the text. -/
theorem resolves_run (fits : literal.interpolations.length ≤ wordLimit) {first : Nat}
    {before : Option Char} {text : List Char}
    (marked : Marked literal.interpolations.length first text) (apart : Apart before text)
    (resolves : state.Resolves literal first) :
    (run literal state before text).Resolves literal literal.interpolations.length := by
  fun_induction run literal state before text generalizing first with
  | case1 state before =>
      generalize empty : ([] : List Char) = text at marked
      cases marked with
      | last => exact resolves
      | next => simp [markOf] at empty
  | case2 state before c rest step =>
      rename_i inductionHypothesis
      by_cases marks : c = mark
      · subst marks
        obtain ⟨left, rfl, others⟩ := marked.of_mark
        have within := others.le
        obtain ⟨resolved, taken⟩ :=
          step_markOf literal before left within (Nat.le_of_lt (by omega)) resolves
        refine inductionHypothesis ?_ (Apart.drop apart _) resolved
        rw [show step.more = _ from taken, ← List.drop_drop, List.drop_left]
        exact others
      · have passes := step_passesBy state literal before marks apart.1
        refine inductionHypothesis ?_ (Apart.drop apart _) (resolves.passBy passes)
        have unmarked : mark ∉ (c :: rest).take 1 := by simpa using Ne.symm marks
        exact (marked.drop unmarked).drop passes.taken

end Binding

/-- Every expression inside a literal of a source text without marks comes out as its placeholder, and
no mark is left, if no placeholder with a name takes a mark along; and the placeholder is bound to the
expression unless an argument has its name. -/
theorem expressions_resolved {language : Language} {source : List Char} {literals : List Literal}
    {literal : Literal} (read : literalsOf language source = .ok literals)
    (among : literal ∈ literals) (clean : mark ∉ source) (fits : source.length ≤ wordLimit)
    (apart : Apart none literal.text) :
    mark ∉ literal.boundText.text ∧
      ∀ index expression, literal.interpolations[index]? = some expression →
        expressionPlaceholder index <:+: literal.boundText.text ∧
          (literal.arguments.named.get? (expressionName index) = none →
            literal.boundText.bindings.get? (String.ofList (expressionPlaceholder index)) =
              some expression) := by
  obtain ⟨marks, bounded⟩ := literalsOf_marked clean read literal among
  have start : Binding.empty.Resolves literal 0 := ⟨List.not_mem_nil, nofun, nofun⟩
  have resolved := Binding.resolves_run (bounded.trans fits) marks apart start
  refine ⟨resolved.unmarked, fun index expression known => ?_⟩
  obtain ⟨below, _⟩ := List.getElem?_eq_some_iff.mp known
  exact ⟨resolved.placed index below, fun free => (resolved.bound index below free).trans known⟩

/-- A schema and a quoted name are resolved beside a named argument and a cast. -/
theorem expressions_resolved_users :
    let source :=
      "run(f\"SELECT :id::int FROM \x7bschema\x7d.users WHERE name = '\x7bname!r\x7d'\", id=1)".toList
    let literal : Literal :=
      ⟨"SELECT :id::int FROM ".toList ++ markOf 0 ++ ".users WHERE name = '".toList ++ markOf 1 ++ ['\''],
        1, ["schema", "name"], ⟨[], [("id", "1")]⟩⟩
    literalsOf .python source = .ok [literal] ∧ mark ∉ source ∧ source.length ≤ wordLimit ∧
      Apart none literal.text ∧ mark ∉ literal.boundText.text ∧
      ":__i1".toList <:+: literal.boundText.text ∧
      literal.boundText.bindings.get? ":__i1" = some "name" := by
  intro source literal
  have read : literalsOf .python source = .ok [literal] := by decide +kernel
  have clean : mark ∉ source := by decide +kernel
  have fits : source.length ≤ wordLimit := by decide +kernel
  have apart : Apart none literal.text := by decide +kernel
  obtain ⟨unmarked, resolved⟩ :=
    expressions_resolved read (List.mem_singleton_self literal) clean fits apart
  obtain ⟨placed, bound⟩ := resolved 1 "name" rfl
  exact ⟨read, clean, fits, apart, unmarked, placed, bound (by decide)⟩

/-- A mark is left where an expression is the name of a placeholder in brackets, or stands behind a
name that is not written in ASCII; and a placeholder is bound to an argument that has its name. -/
theorem expressions_unresolved :
    (∃ literal, literalsOf .python "f\"SELECT * FROM t WHERE a = %(\x7bname\x7d)s\"".toList =
        .ok [literal] ∧ mark ∈ literal.boundText.text) ∧
      (∃ literal, literalsOf .javaScript "\x60SELECT * FROM t WHERE a = :é$\x7bname\x7d\x60".toList =
        .ok [literal] ∧ mark ∈ literal.boundText.text) ∧
      ∃ literal, literalsOf .python "run(f\"SELECT \x7ba\x7d, :__i0\", __i0=b)".toList = .ok [literal] ∧
        literal.interpolations = ["a"] ∧ literal.boundText.bindings.get? ":__i0" = some "b" := by
  refine ⟨⟨⟨"SELECT * FROM t WHERE a = %(".toList ++ markOf 0 ++ ")s".toList, 1, ["name"], .empty⟩, ?_⟩,
    ⟨⟨"SELECT * FROM t WHERE a = :é".toList ++ markOf 0, 1, ["name"], .empty⟩, ?_⟩,
    ⟨"SELECT ".toList ++ markOf 0 ++ ", :__i0".toList, 1, ["a"], ⟨[], [("__i0", "b")]⟩⟩, ?_⟩
  all_goals decide +kernel

end SchemaDrift.Host
