import SchemaDrift.Host.Placeholder
import SchemaDrift.Proofs.Text.Chars
import SchemaDrift.Proofs.Text.Utf8

namespace SchemaDrift

namespace Host

open Text

/-- The quote that stands open behind a character, given the one that stood open before it. -/
def quoteAfter (quote : Option Char) (c : Char) : Option Char :=
  match quote with
  | some q => if c == q then none else some q
  | none => if c == '\'' || c == '"' then some c else none

def StartsName (text : List Char) : Prop :=
  text.head?.any (fun d => isAlphabetic d || d == '_') = true

instance (text : List Char) : Decidable (StartsName text) := inferInstanceAs (Decidable (_ = true))

/-- Outside quotes, `left` is followed by a colon that starts a named placeholder, and the colon by
`rest`. The text stands behind an open quote, if any, and the character `before`. -/
structure NamedAt (quote before : Option Char) (text left rest : List Char) : Prop where
  split : text = left ++ ':' :: rest
  unquoted : left.foldl quoteAfter quote = none
  single : left.getLast?.or before ≠ some ':'
  named : StartsName rest

/-- The name at the start of a text is written in ASCII, or nothing stands behind it. -/
def Spared (text : List Char) : Prop :=
  (∀ c ∈ text.takeWhile isNamePart, c.toNat < 128) ∨ ∀ c ∈ text, isNamePart c = true

/-- Every named placeholder of a text has a name that is written in ASCII, or ends the text. -/
def Kept (quote before : Option Char) (text : List Char) : Prop :=
  ∀ left rest, NamedAt quote before text left rest → Spared rest

/-- A text holds no character of another style of placeholders, and no mark. -/
def Native (text : List Char) : Prop :=
  ∀ c ∈ text, c ≠ '%' ∧ c ≠ '?' ∧ c ≠ '@' ∧ c ≠ mark

instance (text : List Char) : Decidable (Native text) :=
  List.decidableBAll (fun c => c ≠ '%' ∧ c ≠ '?' ∧ c ≠ '@' ∧ c ≠ mark) text

section Kept

variable {quote before : Option Char} {c : Char} {text rest : List Char}

/-- Nothing is lost of an empty text. -/
theorem kept_nil : Kept quote before [] := by
  intro left rest placeholder
  have := placeholder.split
  simp at this

/-- The named placeholders of a text are the one at its start and those of the rest. -/
theorem kept_cons :
    Kept quote before (c :: rest) ↔
      (c = ':' → quote = none → before ≠ some ':' → StartsName rest → Spared rest) ∧
        Kept (quoteAfter quote c) (some c) rest := by
  constructor
  · intro kept
    refine ⟨?_, ?_⟩
    · rintro rfl unquoted single named
      exact kept [] rest ⟨rfl, unquoted, single, named⟩
    · intro left right placeholder
      refine kept (c :: left) right ⟨?_, placeholder.unquoted, ?_, placeholder.named⟩
      · rw [placeholder.split, List.cons_append]
      · have single := placeholder.single
        rw [List.getLast?_cons]
        cases last : left.getLast? <;> simpa [last] using single
  · rintro ⟨first, others⟩ left right placeholder
    obtain ⟨split, unquoted, single, named⟩ := placeholder
    cases left with
    | nil =>
        obtain ⟨rfl, rfl⟩ := List.cons.inj split
        exact first rfl unquoted single named
    | cons head left =>
        obtain ⟨rfl, rfl⟩ := List.cons.inj split
        refine others left right ⟨rfl, unquoted, ?_, named⟩
        rw [List.getLast?_cons] at single
        cases last : left.getLast? <;> simpa [last] using single

/-- In front of a text, characters outside quotes that are neither quotes nor colons start no
placeholder. -/
theorem kept_append (before : Option Char) (rest : List Char)
    (plain : ∀ d ∈ text, d ≠ '\'' ∧ d ≠ '"' ∧ d ≠ ':') :
    Kept none before (text ++ rest) ↔ Kept none (text.getLast?.or before) rest := by
  induction text generalizing before with
  | nil => rfl
  | cons d text inductionHypothesis =>
      rw [List.forall_mem_cons] at plain
      have closed : quoteAfter none d = none := by
        simp [quoteAfter, plain.1.1, plain.1.2.1]
      rw [List.cons_append, kept_cons, closed, inductionHypothesis _ plain.2, List.getLast?_cons]
      cases last : text.getLast? <;> simp [plain.1.2.2]

end Kept

/-- What stands behind a run of characters is the last of them, or what stood before them. -/
theorem getElem?_cons_append (c : Char) (run rest : List Char) :
    (c :: (run ++ rest))[run.length]? = run.getLast?.or (some c) := by
  induction run generalizing c with
  | nil => rfl
  | cons d run inductionHypothesis =>
      rw [List.length_cons, List.getElem?_cons_succ, List.cons_append, inductionHypothesis,
        List.getLast?_cons]
      cases run.getLast? <;> rfl

namespace Binding

variable {state : Binding} {literal : Literal} {before : Option Char} {c : Char} {rest : List Char}

/-- What a step outside quotes does, where no mark starts. -/
inductive PlainStep (state : Binding) (literal : Literal) (before : Option Char) (c : Char)
    (rest : List Char) : Step → Prop where
  | quote (opens : c = '\'' ∨ c = '"') :
      PlainStep state literal before c rest ⟨{ state with quote := some c }.write [c], 0⟩
  | percent (percent : c = '%') (conversion : rest.head? = some 's' ∨ rest.head? = some 'd') :
      PlainStep state literal before c rest ⟨state.writeNext literal, 1⟩
  | question (question : c = '?') :
      PlainStep state literal before c rest ⟨state.writeNext literal, 0⟩
  | percentName (percent : c = '%') (bracket : rest.head? = some '(') {step : Step}
      (found : percentName? state literal rest = some step) :
      PlainStep state literal before c rest step
  | numbered (dollar : c = '$') {other : Binding}
      (known : other = state ∨ ∃ index, other = state.bindPosition literal index) :
      PlainStep state literal before c rest
        ⟨other.write ('$' :: rest.takeWhile isAsciiDigit), (rest.takeWhile isAsciiDigit).length⟩
  | named (lead : c = ':' ∨ c = '@') (single : before ≠ some ':') (named : StartsName rest) :
      PlainStep state literal before c rest
        ⟨state.writeNamed literal (rest.takeWhile isNamePart),
          utf8Length (rest.takeWhile isNamePart)⟩
  | cast (colon : c = ':') (second : rest.head? = some ':') :
      PlainStep state literal before c rest ⟨state.write [':', ':'], 1⟩
  | copy (unquoted : c ≠ '\'' ∧ c ≠ '"')
      (unnamed : c = ':' → StartsName rest → before = some ':') :
      PlainStep state literal before c rest ⟨state.write [c], 0⟩

/-- A step outside quotes, where no mark starts, is one of these. -/
theorem plainStep_spec (state : Binding) (literal : Literal) (before : Option Char) (c : Char)
    (rest : List Char) :
    PlainStep state literal before c rest (state.plainStep literal before c rest) := by
  unfold plainStep
  simp only [Bool.and_eq_true, Bool.or_eq_true, beq_iff_eq, bne_iff_ne]
  split
  · rename_i opens
    exact .quote opens
  rename_i unquoted
  rw [not_or] at unquoted
  have notColon : ∀ {d : Char}, c = d → d ≠ ':' → c = ':' → StartsName rest → before = some ':' :=
    fun same other colon => absurd (same.symm.trans colon) other
  split
  · rename_i percent
    exact .percent percent.1 percent.2
  split
  · rename_i percent
    cases found : percentName? state literal rest with
    | none => exact .copy unquoted (notColon percent.1 (by decide))
    | some step => exact .percentName percent.1 percent.2 found
  split
  · rename_i question
    exact .question question
  split
  · rename_i dollar
    refine .numbered dollar.1 ?_
    split
    · split
      · exact .inr ⟨_, rfl⟩
      · exact .inl rfl
    · exact .inl rfl
  split
  · rename_i name
    exact .named name.1.1 name.2 name.1.2
  rename_i unnamed
  split
  · rename_i cast
    exact .cast cast.1 cast.2
  · refine .copy unquoted fun colon starts => ?_
    by_contra single
    exact unnamed ⟨⟨.inl colon, starts⟩, single⟩

/-- Binding an expression writes nothing. -/
@[simp]
theorem output_bind (state : Binding) (placeholder : List Char) (expression : Option String) :
    (state.bind placeholder expression).output = state.output := by
  cases expression <;> rfl

/-- Binding an expression opens and closes no quote. -/
@[simp]
theorem quote_bind (state : Binding) (placeholder : List Char) (expression : Option String) :
    (state.bind placeholder expression).quote = state.quote := by
  cases expression <;> rfl

/-- A step copies all that it takes, and finds just the placeholders that stand behind it. -/
structure Step.Copies (step : Step) (state : Binding) (before : Option Char) (c : Char)
    (rest : List Char) : Prop where
  output : step.state.output = state.output ++ c :: rest.take step.more
  kept : Kept state.quote before (c :: rest) ↔
    Kept step.state.quote (c :: rest)[step.more]? (rest.drop step.more)

/-- A run of characters outside quotes that is copied as a whole. -/
theorem copies_run (before : Option Char) {part : Char → Bool} {other : Binding}
    (same : other.output = state.output)
    (unquoted : state.quote = none) (closed : other.quote = none) (plain : c ≠ '\'' ∧ c ≠ '"')
    (parts : ∀ d ∈ rest.takeWhile part, d ≠ '\'' ∧ d ≠ '"' ∧ d ≠ ':')
    (spared : c = ':' → before ≠ some ':' → StartsName rest → Spared rest) :
    Step.Copies ⟨other.write (c :: rest.takeWhile part), (rest.takeWhile part).length⟩ state before
      c rest := by
  have split : rest.takeWhile part ++ rest.dropWhile part = rest := List.takeWhile_append_dropWhile
  have taken : rest.take (rest.takeWhile part).length = rest.takeWhile part :=
    (List.prefix_iff_eq_take.mp (List.takeWhile_prefix part)).symm
  have halves := List.take_append_drop (rest.takeWhile part).length rest
  rw [taken] at halves
  have left : rest.drop (rest.takeWhile part).length = rest.dropWhile part :=
    List.append_cancel_left (halves.trans split.symm)
  constructor
  · simp only [write, same, taken]
  · have behind : quoteAfter none c = none := by simp [quoteAfter, plain]
    have ahead := kept_append (some c) (rest.dropWhile part) parts
    rw [split] at ahead
    have last := getElem?_cons_append c (rest.takeWhile part) (rest.dropWhile part)
    rw [split] at last
    rw [kept_cons, unquoted, behind, ahead]
    simp only [write, closed, left, last, forall_const]
    exact ⟨And.right, fun kept => ⟨spared, kept⟩⟩

/-- Digits and names hold no quotes and no colons. -/
theorem plain_of_isNamePart {d : Char} (part : isNamePart d = true) :
    d ≠ '\'' ∧ d ≠ '"' ∧ d ≠ ':' := by
  refine ⟨?_, ?_, ?_⟩ <;> rintro rfl <;> exact absurd part (by decide)

theorem isNamePart_of_isAsciiDigit {d : Char} (digit : isAsciiDigit d = true) :
    isNamePart d = true := by
  simp [isNamePart, isAlphanumeric, isNumeric, (digit_plain digit).2.2.2.2.2.2, digit]

/-- A named placeholder is copied as a whole if its name is written in ASCII or ends the text. -/
theorem copies_named (unquoted : state.quote = none) (spared : Spared rest) :
    Step.Copies ⟨state.writeNamed literal (rest.takeWhile isNamePart),
      utf8Length (rest.takeWhile isNamePart)⟩ state before ':' rest := by
  have parts : ∀ d ∈ rest.takeWhile isNamePart, d ≠ '\'' ∧ d ≠ '"' ∧ d ≠ ':' :=
    fun d present => plain_of_isNamePart (List.mem_takeWhile_imp present)
  have run := copies_run before (output_bind state (':' :: rest.takeWhile isNamePart)
      (literal.arguments.named.get? (String.ofList (rest.takeWhile isNamePart))))
    unquoted ((quote_bind ..).trans unquoted) (by decide : ':' ≠ '\'' ∧ ':' ≠ '"') parts
    fun _ _ _ => spared
  rcases spared with ascii | all
  · rw [(utf8Length_eq_length_iff _).mpr ascii]
    exact run
  · -- Nothing is left behind the name, however many characters the step takes.
    have whole : rest.takeWhile isNamePart = rest := List.takeWhile_eq_self_iff.mpr all
    have enough := length_le_utf8Length rest
    rw [whole] at run ⊢
    have ends : (rest.take rest.length = rest.take (utf8Length rest)) ∧
        rest.drop rest.length = rest.drop (utf8Length rest) := by
      rw [List.take_of_length_le enough, List.drop_of_length_le enough, List.take_length,
        List.drop_length]
      exact ⟨rfl, rfl⟩
    constructor
    · exact ends.1 ▸ run.output
    · have kept := run.kept
      rw [List.drop_length] at kept
      rw [List.drop_of_length_le enough, kept]
      exact iff_of_true kept_nil kept_nil

/-- A character that is written as it is and starts no named placeholder that is not spared is
copied. -/
theorem copies_write {other : Binding} (same : other.output = state.output)
    (quoted : other.quote = quoteAfter state.quote c)
    (spared : c = ':' → state.quote = none → before ≠ some ':' → StartsName rest → Spared rest) :
    Step.Copies ⟨other.write [c], 0⟩ state before c rest := by
  refine ⟨by simp [write, same], ?_⟩
  rw [kept_cons, ← quoted]
  exact ⟨And.right, fun kept => ⟨spared, kept⟩⟩

/-- A step outside quotes in a text without other placeholders copies what it takes, but for a named
placeholder whose name is not spared. -/
theorem plainStep_native (literal : Literal) (before : Option Char) (native : Native (c :: rest))
    (quoted : state.quote = none) :
    (state.plainStep literal before c rest).Copies state before c rest ∨
      (c = ':' ∧ before ≠ some ':' ∧ StartsName rest ∧ ¬Spared rest ∧
        state.plainStep literal before c rest =
          ⟨state.writeNamed literal (rest.takeWhile isNamePart),
            utf8Length (rest.takeWhile isNamePart)⟩) := by
  obtain ⟨percent, question, atSign, unmarked⟩ := native c List.mem_cons_self
  have spec := plainStep_spec state literal before c rest
  generalize state.plainStep literal before c rest = step at spec ⊢
  cases spec with
  | quote opens =>
      refine .inl (copies_write rfl ?_ ?_)
      · rw [quoted]
        rcases opens with rfl | rfl <;> rfl
      · rintro rfl
        rcases opens with opens | opens <;> cases opens
  | percent isPercent => exact absurd isPercent percent
  | question isQuestion => exact absurd isQuestion question
  | percentName isPercent => exact absurd isPercent percent
  | numbered dollar known =>
      have same : ∀ other, other = state ∨ (∃ index, other = state.bindPosition literal index) →
          other.output = state.output ∧ other.quote = state.quote := by
        rintro other (rfl | ⟨index, rfl⟩)
        · exact ⟨rfl, rfl⟩
        · exact ⟨output_bind .., quote_bind ..⟩
      subst dollar
      refine .inl (copies_run before (same _ known).1 quoted ((same _ known).2.trans quoted)
        (by decide) (fun d present => ?_) nofun)
      exact plain_of_isNamePart (isNamePart_of_isAsciiDigit (List.mem_takeWhile_imp present))
  | named lead fresh named =>
      obtain rfl : c = ':' := lead.resolve_right atSign
      by_cases spared : Spared rest
      · exact .inl (copies_named quoted spared)
      · exact .inr ⟨rfl, fresh, named, spared, rfl⟩
  | cast colon second =>
      obtain ⟨right, rfl⟩ : ∃ right, rest = ':' :: right := by
        cases rest with
        | nil => cases second
        | cons d right => exact ⟨right, by rw [Option.some.inj second]⟩
      subst colon
      refine .inl ⟨rfl, ?_⟩
      -- The second colon stands behind a colon, and so starts no placeholder.
      have unnamed : ¬StartsName (':' :: right) := by
        simp [StartsName]
        decide
      simp [kept_cons, quoted, unnamed, quoteAfter, write]
  | copy unquoted unnamed =>
      refine .inl (copies_write rfl ?_ ?_)
      · rw [quoted]
        simp [quoteAfter, unquoted]
      · intro colon _ before named
        exact absurd (unnamed colon named) before

/-- A step in a text without other placeholders copies what it takes, but for a named placeholder
outside quotes whose name is not spared. -/
theorem step_native (state : Binding) (literal : Literal) (before : Option Char)
    (native : Native (c :: rest)) :
    (state.step literal before c rest).Copies state before c rest ∨
      (state.quote = none ∧ c = ':' ∧ before ≠ some ':' ∧ StartsName rest ∧ ¬Spared rest ∧
        state.step literal before c rest = ⟨state.writeNamed literal (rest.takeWhile isNamePart),
          utf8Length (rest.takeWhile isNamePart)⟩) := by
  obtain ⟨percent, question, atSign, unmarked⟩ := native c List.mem_cons_self
  have unmarkedStep_eq : state.step literal before c rest =
      match state.quote with
      | some q => ⟨{ state with quote := if c == q then none else some q }.write [c], 0⟩
      | none => state.plainStep literal before c rest := by
    have single : ¬(c == '%' && rest.head? == some '%') = true := by simp [percent]
    rw [step, beq_false_of_ne unmarked, if_neg Bool.false_ne_true]
    exact if_neg single
  rw [unmarkedStep_eq]
  cases quoted : state.quote with
  | some q =>
      refine .inl (copies_write rfl ?_ ?_)
      · rw [quoted]
        rfl
      · rw [quoted]
        exact fun _ => nofun
  | none => exact (plainStep_native literal before native quoted).imp_right fun named => ⟨rfl, named⟩

/-- What is left of a text without other placeholders holds none either. -/
theorem Native.drop {text : List Char} (native : Native text) (count : Nat) :
    Native (text.drop count) :=
  fun d present => native d (List.mem_of_mem_drop present)

/-- A placeholder that is not spared takes more characters than it writes. -/
theorem length_name_lt {text : List Char} (unspared : ¬Spared text) :
    (text.takeWhile isNamePart).length < utf8Length (text.takeWhile isNamePart) ∧
      (text.takeWhile isNamePart).length < text.length := by
  rw [Spared, not_or] at unspared
  have bytes := length_le_utf8Length (text.takeWhile isNamePart)
  have wider := mt (utf8Length_eq_length_iff (text.takeWhile isNamePart)).mp unspared.1
  have prefixed := List.takeWhile_prefix (l := text) isNamePart
  refine ⟨by omega, Nat.lt_of_le_of_ne prefixed.length_le fun same => unspared.2 ?_⟩
  exact List.takeWhile_eq_self_iff.mp (prefixed.eq_of_length same)

/-- A step writes no more than it takes, and less where a placeholder is not spared. -/
theorem length_step (state : Binding) (literal : Literal) (before : Option Char)
    (native : Native (c :: rest)) :
    let step := state.step literal before c rest
    step.state.output.length + (rest.drop step.more).length ≤ state.output.length + (rest.length + 1) ∧
      (step.Copies state before c rest ∨
        step.state.output.length + (rest.drop step.more).length <
          state.output.length + (rest.length + 1) ∧ ¬Kept state.quote before (c :: rest)) := by
  rcases step_native state literal before native with copies | named
  · refine ⟨?_, .inl copies⟩
    have lengths := congrArg List.length copies.output
    have halves := congrArg List.length
      (List.take_append_drop (state.step literal before c rest).more rest)
    rw [List.length_append] at halves
    rw [List.length_append, List.length_cons] at lengths
    omega
  · obtain ⟨unquoted, colon, fresh, starts, unspared, taken⟩ := named
    have shorter := length_name_lt unspared
    have less : (state.step literal before c rest).state.output.length +
        (rest.drop (state.step literal before c rest).more).length <
          state.output.length + (rest.length + 1) := by
      rw [taken]
      simp only [writeNamed, write, output_bind, List.length_append, List.length_cons,
        List.length_drop]
      omega
    refine ⟨Nat.le_of_lt less, .inr ⟨less, fun kept => ?_⟩⟩
    exact unspared ((kept_cons.mp kept).1 colon unquoted fresh starts)

/-- The rewriting of a text without other placeholders writes no more than it reads. -/
theorem length_output_run_le (literal : Literal) (state : Binding) (before : Option Char)
    {text : List Char} (native : Native text) :
    (run literal state before text).output.length ≤ state.output.length + text.length := by
  fun_induction run literal state before text with
  | case1 state before => exact Nat.le_refl _
  | case2 state before c rest step inductionHypothesis =>
      have written := (length_step state literal before native).1
      exact (inductionHypothesis (Native.drop native (step.more + 1))).trans written

/-- A text without other placeholders is copied exactly if all its named placeholders have names that
are written in ASCII or end the text. -/
theorem output_run_iff (literal : Literal) (state : Binding) (before : Option Char)
    {text : List Char} (native : Native text) :
    (run literal state before text).output = state.output ++ text ↔
      Kept state.quote before text := by
  fun_induction run literal state before text with
  | case1 state before => simp [kept_nil]
  | case2 state before c rest step inductionHypothesis =>
      have left : Native (rest.drop step.more) := Native.drop native (step.more + 1)
      have known : state.step literal before c rest = step := rfl
      obtain ⟨-, copies | ⟨less, lost⟩⟩ := length_step state literal before native
      · rw [copies.kept, ← inductionHypothesis left, copies.output, List.append_assoc,
          List.cons_append, List.take_append_drop]
      · refine iff_of_false (fun same => ?_) lost
        rw [known] at less
        have lengths := congrArg List.length same
        have bound := length_output_run_le literal step.state ((c :: rest)[step.more]?) left
        rw [List.length_append, List.length_cons] at lengths
        omega

end Binding

/-- A literal whose text holds none of the other placeholders keeps it exactly if every colon outside
quotes that stands before a name, and not behind a colon, has a name written in ASCII behind it or one
that ends the text. -/
theorem text_boundText_iff (literal : Literal) (native : Native literal.text) :
    literal.boundText.text = literal.text ↔
      ∀ left rest, literal.text = left ++ ':' :: rest → left.foldl quoteAfter none = none →
        left.getLast? ≠ some ':' → StartsName rest → Spared rest := by
  have copied := Binding.output_run_iff literal .empty none native
  rw [Binding.empty, List.nil_append] at copied
  refine copied.trans ⟨fun kept left rest split unquoted single starts => ?_, fun spared => ?_⟩
  · exact kept left rest ⟨split, unquoted, by simpa using single, starts⟩
  · intro left rest placeholder
    have single := placeholder.single
    exact spared left rest placeholder.split placeholder.unquoted (by simpa using single)
      placeholder.named

def Literal.ofText (text : String) : Literal := ⟨text.toList, 1, [], .empty⟩

/-- A numbered placeholder, casts, a name in ASCII and a quoted text are kept, and so is a name at the
end of the text. -/
theorem text_boundText_sizes :
    let literal := Literal.ofText "SELECT ':ä'::text FROM t WHERE id = $1 AND b = :b::int AND c = :größe"
    Native literal.text ∧
      ∀ left rest, literal.text = left ++ ':' :: rest → left.foldl quoteAfter none = none →
        left.getLast? ≠ some ':' → StartsName rest → Spared rest := by
  have native : Native (Literal.ofText
      "SELECT ':ä'::text FROM t WHERE id = $1 AND b = :b::int AND c = :größe").text := by
    decide +kernel
  exact ⟨native, (text_boundText_iff _ native).mp (by decide +kernel)⟩

/-- Two characters are lost behind a name with two letters that are not of ASCII. -/
theorem text_boundText_lost :
    let literal := Literal.ofText "SELECT * FROM t WHERE a = :größe AND b = 1"
    Native literal.text ∧
      literal.boundText.text = "SELECT * FROM t WHERE a = :größeND b = 1".toList ∧
      literal.boundText.text ≠ literal.text := by
  decide +kernel

end Host

end SchemaDrift
