import SchemaDrift.Proofs.Host.Interpolation
import SchemaDrift.Proofs.Text.Division

namespace SchemaDrift.Host

open Text

/-- A placeholder is bound to the argument at its position, the argument of its name, or the expression
with its number. -/
inductive Binds (literal : Literal) : String → String → Prop where
  | position {index : Nat} {expression : String} (positive : 0 < index)
      (known : literal.arguments.positional[index - 1]? = some expression) :
      Binds literal (String.ofList (Binding.numbered index)) expression
  | name {name : List Char} {expression : String}
      (known : literal.arguments.named.get? (String.ofList name) = some expression) :
      Binds literal (String.ofList (':' :: name)) expression
  | expression {digits : List Char} {expression : String} (filled : digits ≠ [])
      (decimal : ∀ c ∈ digits, isAsciiDigit c = true)
      (known : literal.interpolations[digitsValue digits]? = some expression) :
      Binds literal (String.ofList (interpolationLead ++ digits)) expression

/-- A placeholder as a literal writes it: one for the next argument by position, one for an argument by
name between what stands before and behind the name, the mark of an expression, and the percent sign,
which is written twice. -/
inductive Placeholder where
  | next (conversion : List Char)
  | named (lead name tail : List Char)
  | expression (digits : List Char)
  | percent
  deriving DecidableEq

/-- What is known in front of a placeholder: the quote that stands open, and the last character. -/
structure Surroundings where
  quote : Option Char
  before : Option Char

namespace Placeholder

/-- The characters of a placeholder. -/
def source : Placeholder → List Char
  | next conversion => conversion
  | named lead name tail => lead ++ name ++ tail
  | expression digits => mark :: digits ++ [mark]
  | percent => ['%', '%']

/-- A placeholder in the one style, with the number that it gets if it is one by position. -/
def written (index : Nat) : Placeholder → List Char
  | next _ => Binding.numbered index
  | named _ name _ => ':' :: name
  | expression digits => interpolationLead ++ digits
  | percent => ['%']

/-- A placeholder stands in front of a text. Marks and doubled percent signs count in quotes too. -/
inductive Stands (known : Surroundings) : Placeholder → List Char → Prop where
  | next {conversion rest : List Char} (unquoted : known.quote = none)
      (conversions : conversion ∈ [['%', 's'], ['%', 'd'], ['?']]) :
      Stands known (.next conversion) rest
  | bracketed {name tail rest : List Char} (unquoted : known.quote = none) (absent : ')' ∉ name)
      (tails : tail ∈ [[')', 's'], [')', 'd']]) :
      Stands known (.named ['%', '('] name tail) rest
  | led {lead : Char} {name rest : List Char} (unquoted : known.quote = none)
      (leads : lead = ':' ∨ lead = '@') (single : known.before ≠ some ':') (named : StartsName name)
      (parts : ∀ c ∈ name, isNamePart c = true) (ends : ∀ c ∈ rest.head?, isNamePart c = false) :
      Stands known (.named [lead] name []) rest
  | expression {digits rest : List Char} (filled : digits ≠ [])
      (decimal : ∀ c ∈ digits, isAsciiDigit c = true) : Stands known (.expression digits) rest
  | percent {rest : List Char} : Stands known .percent rest

/-- The placeholder that a text starts with, if it starts with one. -/
def ofText : List Char → Placeholder
  | '%' :: '%' :: _ => .percent
  | '%' :: '(' :: rest =>
    .named ['%', '('] (rest.takeWhile (· != ')')) ((rest.dropWhile (· != ')')).take 2)
  | '%' :: c :: _ => .next ['%', c]
  | '?' :: _ => .next ['?']
  | c :: rest =>
    if c == mark then .expression (rest.takeWhile isAsciiDigit)
    else .named [c] (rest.takeWhile isNamePart) []
  | [] => .percent

/-- A literal's text as a text with placeholders. -/
def markup : Markup Surroundings Placeholder where
  source := source
  starts := Stands
  behind known placeholder := ⟨known.quote, placeholder.source.getLast?⟩
  after known c := ⟨quoteAfter known.quote c, some c⟩

/-- The characters of a placeholder in a literal's text. -/
@[simp]
theorem source_markup : markup.source = source := rfl

/-- A fragment of a literal's text is a placeholder by position. -/
def isNext : Fragment Placeholder → Bool
  | .part (next _) => true
  | _ => false

/-- A fragment of a literal's text in the one style of placeholders. -/
def fragmentText (index : Nat) : Fragment Placeholder → List Char
  | .part placeholder => placeholder.written index
  | .character c => [c]

/-- The fragments of a literal's text in the one style, where so many placeholders by position have
been counted before. -/
def numberedText (counted : Nat) : List (Fragment Placeholder) → List Char
  | [] => []
  | fragment :: rest =>
    fragmentText (counted + 1) fragment ++ numberedText (counted + [fragment].countP isNext) rest

variable {known : Surroundings} {placeholder : Placeholder} {c : Char} {rest left : List Char}

theorem Stands.ofText_eq (stands : Stands known placeholder rest) :
    ofText (placeholder.source ++ rest) = placeholder := by
  cases stands with
  | next unquoted conversions =>
      simp only [List.mem_cons, List.not_mem_nil, or_false] at conversions
      rcases conversions with rfl | rfl | rfl <;> rfl
  | @bracketed name tail _ unquoted absent tails =>
      simp only [List.mem_cons, List.not_mem_nil, or_false] at tails
      have cut : ∀ behind : List Char, (name ++ ')' :: behind).takeWhile (· != ')') = name ∧
          (name ++ ')' :: behind).dropWhile (· != ')') = ')' :: behind := fun behind =>
        span_append (fun c present => bne_iff_ne.mpr fun same => absent (same ▸ present))
          (by simp)
      rcases tails with rfl | rfl
      · simp [source, ofText, cut]
      · simp [source, ofText, cut]
  | @led lead name _ unquoted leads single named parts ends =>
      have cut := (span_append parts ends).1
      rcases leads with rfl | rfl
      · simp [source, ofText, cut, mark]
      · simp [source, ofText, cut, mark]
  | @expression digits _ filled decimal =>
      have ends : ∀ c ∈ (mark :: rest).head?, isAsciiDigit c = false := by rintro c ⟨⟩; decide
      have cut := (span_append decimal ends).1
      simp [source, ofText, cut, mark] at cut ⊢
  | percent => rfl

/-- The characters that placeholders start with. -/
def leads : List Char := ['%', '?', ':', '@', mark]

/-- A placeholder starts with one of a few characters. -/
theorem Stands.head (stands : Stands known placeholder rest) :
    ∃ d ∈ leads, ∃ tail, placeholder.source = d :: tail := by
  cases stands with
  | next unquoted conversions =>
      simp only [List.mem_cons, List.not_mem_nil, or_false] at conversions
      rcases conversions with rfl | rfl | rfl
      · exact ⟨'%', by decide, _, rfl⟩
      · exact ⟨'%', by decide, _, rfl⟩
      · exact ⟨'?', by decide, _, rfl⟩
  | bracketed => exact ⟨'%', by decide, _, rfl⟩
  | led unquoted leads => rcases leads with rfl | rfl <;> exact ⟨_, by decide, _, rfl⟩
  | expression => exact ⟨mark, by decide, _, rfl⟩
  | percent => exact ⟨'%', by decide, _, rfl⟩

/-- No two placeholders start one text. -/
theorem sharp_markup : markup.Sharp where
  solid stands := by
    obtain ⟨d, -, tail, shape⟩ := Stands.head stands
    rw [source_markup, shape]
    exact List.cons_ne_nil d tail
  single first second same := by
    rw [← Stands.ofText_eq first, ← Stands.ofText_eq second]
    exact congrArg ofText same

/-- Characters that no placeholder starts with start none. -/
theorem bare_of_notMem (plain : c ∉ leads) (known : Surroundings) (rest : List Char) :
    markup.Bare known (c :: rest) := by
  intro placeholder left stands same
  obtain ⟨d, among, tail, shape⟩ := Stands.head stands
  rw [source_markup, shape] at same
  exact plain ((List.cons.inj same).1 ▸ among)

/-- Characters that start no placeholder are written as they are. -/
theorem numberedText_characters (counted : Nat) (text : List Char) :
    numberedText counted (text.map .character) = text := by
  induction text generalizing counted with
  | nil => rfl
  | cons c text inductionHypothesis =>
      rw [List.map_cons, numberedText, inductionHypothesis]
      rfl

theorem countP_characters (text : List Char) :
    (text.map (@Fragment.character Placeholder)).countP isNext = 0 := by
  rw [List.countP_eq_zero]
  simp [isNext]

/-- Of two runs of fragments the second is numbered on from the first. -/
theorem numberedText_append (counted : Nat) (first second : List (Fragment Placeholder)) :
    numberedText counted (first ++ second) =
      numberedText counted first ++ numberedText (counted + first.countP isNext) second := by
  induction first generalizing counted with
  | nil => rfl
  | cons fragment first inductionHypothesis =>
      rw [List.cons_append, numberedText, numberedText, inductionHypothesis, List.append_assoc,
        Nat.add_assoc, ← List.countP_append, List.singleton_append]

end Placeholder

namespace Binding

open Placeholder

variable {state : Binding} {literal : Literal} {before : Option Char} {placeholder : Placeholder}
  {c : Char} {rest left : List Char}

/-- The text with a placeholder of the literal written. -/
def resolve (state : Binding) (literal : Literal) : Placeholder → Binding
  | .next _ => state.writeNext literal
  | .named _ name _ => state.writeNamed literal name
  | .expression digits =>
    (state.bind (interpolationLead ++ digits)
      (do literal.interpolations[(← boundedNat? wordLimit digits)]?)).write (interpolationLead ++ digits)
  | .percent => state.write ['%']

/-- Outside quotes the step is the plain one where no mark and no doubled percent sign stands. -/
theorem step_eq_plainStep (literal : Literal) (before : Option Char) (unquoted : state.quote = none)
    (unmarked : c ≠ mark) (single : ¬(c = '%' ∧ rest.head? = some '%')) :
    state.step literal before c rest = state.plainStep literal before c rest := by
  have sign : (c == '%' && rest.head? == some '%') = false := by simpa using single
  simp [step, unmarkedStep, unmarked, unquoted, sign]

/-- A name in brackets that is written in ASCII is taken with its brackets. -/
theorem percentName?_of_name (literal : Literal) {name : List Char} {conversion : Char}
    (absent : ')' ∉ name) (bytes : utf8Length name = name.length)
    (converts : conversion = 's' ∨ conversion = 'd') :
    percentName? state literal ('(' :: (name ++ ')' :: conversion :: left)) =
      some ⟨state.writeNamed literal name, name.length + 3⟩ := by
  have cut : (('(' :: (name ++ ')' :: conversion :: left)).drop 1).takeWhile (· != ')') = name := by
    rw [List.drop_one, List.tail_cons, takeWhile_bne_append absent]
  have first : ('(' :: (name ++ ')' :: conversion :: left))[1 + name.length]? = some ')' := by
    simp [Nat.add_comm 1]
  have second : ('(' :: (name ++ ')' :: conversion :: left))[1 + name.length + 1]? =
      some conversion := by
    simp [Nat.add_comm 1]
  simp only [percentName?, cut, bytes, first, second]
  rcases converts with rfl | rfl <;> simp [Nat.add_comm 1]

/-- Where a placeholder stands in a text of ASCII, the step takes it and writes it. -/
theorem step_of_stands (literal : Literal)
    (stands : Stands ⟨state.quote, before⟩ placeholder left)
    (split : placeholder.source ++ left = c :: rest) (ascii : ∀ d ∈ c :: rest, d.toNat < 128) :
    state.step literal before c rest =
      ⟨state.resolve literal placeholder, placeholder.source.length - 1⟩ := by
  have bytes : ∀ {name : List Char}, name ⊆ placeholder.source → utf8Length name = name.length := by
    intro name within
    refine (utf8Length_eq_length_iff name).mpr fun d present => ascii d ?_
    exact split ▸ List.mem_append_left left (within present)
  cases stands with
  | next unquoted conversions =>
      simp only [List.mem_cons, List.not_mem_nil, or_false] at conversions
      rcases conversions with rfl | rfl | rfl
      all_goals
        cases split
        rw [step_eq_plainStep literal before unquoted (by decide) (by simp)]
        simp [plainStep, resolve, source]
  | @bracketed name tail _ unquoted absent tails =>
      have length : utf8Length name = name.length :=
        bytes fun d present => by simp [source, present]
      simp only [List.mem_cons, List.not_mem_nil, or_false] at tails
      obtain ⟨conversion, converts, rfl⟩ :
          ∃ conversion, (conversion = 's' ∨ conversion = 'd') ∧ tail = [')', conversion] := by
        rcases tails with rfl | rfl
        · exact ⟨'s', .inl rfl, rfl⟩
        · exact ⟨'d', .inr rfl, rfl⟩
      obtain ⟨rfl, rfl⟩ : c = '%' ∧ rest = '(' :: (name ++ ')' :: conversion :: left) := by
        simpa [source, eq_comm] using split
      rw [step_eq_plainStep literal before unquoted (by decide) (by simp)]
      simp [plainStep, percentName?_of_name literal absent length converts, resolve, source]
  | @led lead name _ unquoted leads single named parts ends =>
      have length : utf8Length name = name.length :=
        bytes fun d present => by simp [source, present]
      have cut := (span_append parts ends).1
      obtain ⟨rfl, rfl⟩ : c = lead ∧ rest = name ++ left := by
        simpa [source, eq_comm] using split
      have starts : (name.head?.or left.head?).any (fun d => isAlphabetic d || d == '_') = true := by
        cases name with
        | nil => cases named
        | cons d name => exact named
      have other : c ≠ mark ∧ c ≠ '%' ∧ c ≠ '\'' ∧ c ≠ '"' ∧ c ≠ '?' ∧ c ≠ '$' := by
        rcases leads with rfl | rfl <;> decide
      rw [step_eq_plainStep literal before unquoted other.1 (by simp [other])]
      simp [plainStep, other, leads, starts, single, cut, length, resolve, source]
  | @expression digits _ filled decimal =>
      obtain ⟨rfl, rfl⟩ : c = mark ∧ rest = digits ++ mark :: left := by
        simpa [source, eq_comm] using split
      have ends : ∀ c ∈ (mark :: left).head?, isAsciiDigit c = false := by rintro c ⟨⟩; decide
      have cut := (span_append decimal ends).1
      simp [step, markStep?, cut, filled, resolve, source]
  | percent =>
      cases split
      rfl

/-- A step with what it takes divided into fragments, and these written with their numbers. -/
structure Step.Covers (step : Step) (state : Binding) (before : Option Char) (c : Char)
    (rest : List Char) (fragments : List (Fragment Placeholder)) : Prop where
  divides : ∀ {others}, markup.Divides ⟨step.state.quote, (c :: rest)[step.more]?⟩
    (rest.drop step.more) others → markup.Divides ⟨state.quote, before⟩ (c :: rest) (fragments ++ others)
  output : step.state.output = state.output ++ numberedText state.counted fragments
  counted : step.state.counted = state.counted + fragments.countP isNext

@[simp]
theorem counted_bind (state : Binding) (placeholder : List Char) (expression : Option String) :
    (state.bind placeholder expression).counted = state.counted := by
  cases expression <;> rfl

/-- A placeholder is written with the next number. -/
theorem resolve_spec (state : Binding) (literal : Literal) (placeholder : Placeholder) :
    (state.resolve literal placeholder).output =
        state.output ++ numberedText state.counted [.part placeholder] ∧
      (state.resolve literal placeholder).counted =
        state.counted + [Fragment.part placeholder].countP isNext ∧
      (state.resolve literal placeholder).quote = state.quote := by
  cases placeholder <;>
    simp [resolve, writeNext, writeNamed, bindPosition, write, numberedText, fragmentText, written, isNext]

theorem covers_of_stands (literal : Literal) (stands : Stands ⟨state.quote, before⟩ placeholder left)
    (split : placeholder.source ++ left = c :: rest) (ascii : ∀ d ∈ c :: rest, d.toNat < 128) :
    (state.step literal before c rest).Covers state before c rest [.part placeholder] := by
  obtain ⟨output, counted, quote⟩ := resolve_spec state literal placeholder
  rw [step_of_stands literal stands split ascii]
  refine ⟨fun {others} divides => ?_, output, counted⟩
  obtain ⟨d, -, tail, shape⟩ := Stands.head stands
  have length : placeholder.source.length - 1 = tail.length := by
    rw [shape, List.length_cons, Nat.add_sub_cancel]
  have joined := split
  rw [shape, List.cons_append] at joined
  obtain ⟨rfl, rfl⟩ := List.cons.inj joined
  have last : (d :: (tail ++ left))[tail.length]? = placeholder.source.getLast? := by
    rw [getElem?_cons_append, shape, List.getLast?_cons]
    cases tail.getLast? <;> rfl
  simp only [quote, length, last, List.drop_left] at divides
  exact .of_eq split stands divides

/-- A step that writes characters of which none starts a placeholder covers them. -/
theorem covers_run {other : Binding} (run : List Char) (same : other.output = state.output)
    (counted : other.counted = state.counted)
    (bare : markup.Bare ⟨state.quote, before⟩ (c :: (run ++ left)))
    (divided : ∀ {others}, markup.Divides ⟨other.quote, run.getLast?.or (some c)⟩ left others →
      markup.Divides ⟨quoteAfter state.quote c, some c⟩ (run ++ left) (run.map .character ++ others)) :
    Step.Covers ⟨other.write (c :: run), run.length⟩ state before c (run ++ left)
      ((c :: run).map .character) := by
  refine ⟨fun {others} divides => ?_, ?_, ?_⟩
  · simp only [write, getElem?_cons_append, List.drop_left] at divides
    exact .character bare (divided divides)
  · rw [numberedText_characters, write, same]
  · rw [countP_characters, write, counted, Nat.add_zero]

/-- A step that writes a character which starts no placeholder covers it. -/
theorem covers_character {other : Binding} (same : other.output = state.output)
    (counted : other.counted = state.counted) (quote : other.quote = quoteAfter state.quote c)
    (bare : markup.Bare ⟨state.quote, before⟩ (c :: rest)) :
    Step.Covers ⟨other.write [c], 0⟩ state before c rest [.character c] :=
  covers_run [] same counted bare fun divides => quote ▸ divides

/-- What is known behind characters is the quote that stands open and the last of them. -/
theorem foldl_after (known : Surroundings) (run : List Char) :
    run.foldl markup.after known = ⟨run.foldl quoteAfter known.quote, run.getLast?.or known.before⟩ := by
  induction run generalizing known with
  | nil => rfl
  | cons c run inductionHypothesis =>
      rw [List.foldl_cons, inductionHypothesis, List.foldl_cons, List.getLast?_cons]
      cases run.getLast? <;> rfl

/-- No placeholder starts at a colon behind a colon. -/
theorem bare_colon (quote : Option Char) (rest : List Char) :
    markup.Bare ⟨quote, some ':'⟩ (':' :: rest) := by
  intro placeholder left stands same
  rw [source_markup] at same
  cases stands with
  | next _ conversions =>
      simp only [List.mem_cons, List.not_mem_nil, or_false] at conversions
      rcases conversions with rfl | rfl | rfl <;> cases same
  | bracketed => cases same
  | led _ _ single => exact single rfl
  | expression => cases same
  | percent => cases same

/-- A digit starts no placeholder and opens no quote. -/
theorem plain_of_digit {d : Char} (digit : isAsciiDigit d = true) :
    d ∉ leads ∧ quoteAfter none d = none := by
  have quotes := plain_of_isNamePart (isNamePart_of_isAsciiDigit digit)
  refine ⟨fun among => ?_, by simp [quoteAfter, quotes]⟩
  simp only [leads, List.mem_cons, List.not_mem_nil, or_false] at among
  rcases among with rfl | rfl | rfl | rfl | rfl <;> exact absurd digit (by decide)

/-- A text that starts a name starts the name that it starts with. -/
theorem startsName_takeWhile (named : StartsName rest) : StartsName (rest.takeWhile isNamePart) := by
  cases rest with
  | nil => exact named
  | cons d rest =>
      have part : isNamePart d = true := by
        simp only [StartsName, List.head?_cons, Option.any_some, Bool.or_eq_true, beq_iff_eq] at named
        rcases named with letter | rfl
        · simp [isNamePart, isAlphanumeric, letter]
        · decide
      rw [List.takeWhile_cons_of_pos part]
      exact named

/-- Where a step takes a name in brackets that is written in ASCII, it stands there. -/
theorem exists_name_of_percentName? {step : Step} (bracket : rest.head? = some '(')
    (ascii : ∀ d ∈ rest, d.toNat < 128) (found : percentName? state literal rest = some step) :
    ∃ name conversion left, ')' ∉ name ∧ (conversion = 's' ∨ conversion = 'd') ∧
      rest = '(' :: (name ++ ')' :: conversion :: left) := by
  obtain ⟨inner, rfl⟩ : ∃ inner, rest = '(' :: inner := by
    cases rest with
    | nil => cases bracket
    | cons d inner => exact ⟨inner, by rw [Option.some.inj bracket]⟩
  unfold percentName? at found
  simp only [List.drop_one, List.tail_cons] at found
  have split : inner.takeWhile (· != ')') ++ inner.dropWhile (· != ')') = inner :=
    List.takeWhile_append_dropWhile
  have absent : ')' ∉ inner.takeWhile (· != ')') := fun present => by
    simpa using List.mem_takeWhile_imp present
  generalize inner.takeWhile (· != ')') = name at found split absent
  generalize inner.dropWhile (· != ')') = behind at split
  subst split
  have bytes : utf8Length name = name.length := by
    rw [List.forall_mem_cons] at ascii
    exact (utf8Length_eq_length_iff name).mpr fun d present =>
      ascii.2 d (List.mem_append_left behind present)
  split at found
  · rename_i closes
    simp only [bytes, Bool.and_eq_true, Bool.or_eq_true, beq_iff_eq, Nat.add_comm 1,
      List.getElem?_cons_succ] at closes
    have first : behind[0]? = some ')' := by
      have close := closes.1
      rwa [List.getElem?_append_right (Nat.le_refl _), Nat.sub_self] at close
    have second : behind[1]? = some 's' ∨ behind[1]? = some 'd' := by
      simpa [List.getElem?_append_right] using closes.2
    match behind, first, second with
    | close :: conversion :: left, first, second =>
        obtain rfl : close = ')' := Option.some.inj first
        exact ⟨name, conversion, left, absent, by simpa using second, rfl⟩
  · cases found

/-- A dollar sign with a number behind it is covered by its characters. -/
theorem covers_digits {other : Binding} (unquoted : state.quote = none)
    (output : other.output = state.output) (counted : other.counted = state.counted)
    (quote : other.quote = none) (bare : markup.Bare ⟨state.quote, before⟩ ('$' :: rest)) :
    Step.Covers ⟨other.write ('$' :: rest.takeWhile isAsciiDigit), (rest.takeWhile isAsciiDigit).length⟩
      state before '$' rest (('$' :: rest.takeWhile isAsciiDigit).map .character) := by
  have plain : ∀ d ∈ rest.takeWhile isAsciiDigit, d ∉ leads ∧ quoteAfter none d = none :=
    fun d present => plain_of_digit (List.mem_takeWhile_imp present)
  have still : (rest.takeWhile isAsciiDigit).foldl quoteAfter none = none :=
    List.foldlRecOn (motive := (· = none)) _ _ rfl fun _ closed d present =>
      closed ▸ (plain d present).2
  have split : rest.takeWhile isAsciiDigit ++ rest.dropWhile isAsciiDigit = rest :=
    List.takeWhile_append_dropWhile
  rw [← split] at bare
  have covers := covers_run _ output counted bare fun {others} divides => by
    refine .run (fun d present => bare_of_notMem (plain d present).1) ?_
    rw [foldl_after, unquoted, show quoteAfter none '$' = none from rfl, still]
    exact quote ▸ divides
  rwa [split] at covers

/-- Outside quotes, a plain step where no placeholder stands covers the characters that it takes. -/
theorem covers_plainStep (literal : Literal) (unquoted : state.quote = none)
    (ascii : ∀ d ∈ c :: rest, d.toNat < 128) (bare : markup.Bare ⟨state.quote, before⟩ (c :: rest)) :
    ∃ fragments, (state.plainStep literal before c rest).Covers state before c rest fragments := by
  have stands : ∀ {placeholder left}, Stands ⟨state.quote, before⟩ placeholder left →
      placeholder.source ++ left = c :: rest → False := fun stands same => bare _ _ stands same
  have spec := plainStep_spec state literal before c rest
  generalize state.plainStep literal before c rest = step at spec ⊢
  cases spec with
  | quote opens =>
      refine ⟨_, covers_character rfl rfl ?_ bare⟩
      rw [unquoted]
      rcases opens with rfl | rfl <;> rfl
  | percent isPercent conversion =>
      cases rest with
      | nil => simp at conversion
      | cons d left =>
          refine (stands (@Stands.next _ [c, d] _ unquoted ?_) rfl).elim
          simp only [List.head?_cons, Option.some.injEq] at conversion
          rcases conversion with rfl | rfl <;> simp [isPercent]
  | question isQuestion =>
      exact (stands (@Stands.next _ [c] _ unquoted (by simp [isQuestion])) rfl).elim
  | percentName isPercent bracket found =>
      rw [List.forall_mem_cons] at ascii
      obtain ⟨name, conversion, left, absent, converts, rfl⟩ :=
        exists_name_of_percentName? bracket ascii.2 found
      refine (stands (@Stands.bracketed _ _ [')', conversion] left unquoted absent ?_) ?_).elim
      · rcases converts with rfl | rfl <;> simp
      · simp [source, isPercent]
  | @numbered dollar other known =>
      obtain ⟨output, counted, quote⟩ : other.output = state.output ∧ other.counted = state.counted ∧
          other.quote = none := by
        rcases known with rfl | ⟨index, rfl⟩
        · exact ⟨rfl, rfl, unquoted⟩
        · exact ⟨output_bind .., counted_bind .., (quote_bind ..).trans unquoted⟩
      subst dollar
      exact ⟨_, covers_digits unquoted output counted quote bare⟩
  | named lead fresh named =>
      have split : rest.takeWhile isNamePart ++ rest.dropWhile isNamePart = rest :=
        List.takeWhile_append_dropWhile
      refine (stands (@Stands.led _ _ _ (rest.dropWhile isNamePart) unquoted lead fresh
        (startsName_takeWhile named) (fun d present => List.mem_takeWhile_imp present) ?_) ?_).elim
      · intro d first
        have := List.head?_dropWhile_not isNamePart rest
        simp_all
      · simp [source, split]
  | cast colon second =>
      obtain ⟨left, rfl⟩ : ∃ left, rest = ':' :: left := by
        cases rest <;> simp_all
      subst colon
      refine ⟨_, covers_run [':'] rfl rfl bare fun divides => ?_⟩
      refine .character (bare_colon _ _) ?_
      rw [unquoted]
      rw [unquoted] at divides
      exact divides
  | copy unquotedChar unnamed =>
      refine ⟨_, covers_character rfl rfl ?_ bare⟩
      rw [unquoted]
      simp [quoteAfter, unquotedChar]

/-- A step that starts at a mark takes a number and the mark behind it. -/
theorem exists_digits_of_markStep? {step : Step}
    (marked : (if c == mark then state.markStep? literal rest else none) = some step) :
    ∃ digits left, digits ≠ [] ∧ (∀ d ∈ digits, isAsciiDigit d = true) ∧ c = mark ∧
      rest = digits ++ mark :: left ∧ step.state = state.resolve literal (.expression digits) := by
  split at marked
  · rename_i same
    unfold markStep? at marked
    simp only at marked
    split at marked
    · rename_i closed
      have decimal : ∀ d ∈ rest.takeWhile isAsciiDigit, isAsciiDigit d = true :=
        fun d present => List.mem_takeWhile_imp present
      have split : rest.takeWhile isAsciiDigit ++ rest.dropWhile isAsciiDigit = rest :=
        List.takeWhile_append_dropWhile
      generalize rest.takeWhile isAsciiDigit = digits at marked closed decimal split
      generalize rest.dropWhile isAsciiDigit = behind at split
      subst split
      simp only [Bool.and_eq_true, Bool.not_eq_true', List.isEmpty_eq_false_iff, beq_iff_eq] at closed same
      obtain ⟨filled, close⟩ := closed
      rw [List.getElem?_append_right (Nat.le_refl _), Nat.sub_self] at close
      match behind, close with
      | close :: left, found =>
          obtain rfl : close = mark := Option.some.inj found
          exact ⟨digits, left, filled, decimal, same, rfl, (Option.some.inj marked) ▸ rfl⟩
    · cases marked
  · cases marked

/-- Every step in a text of ASCII covers fragments of it. -/
theorem exists_covers (state : Binding) (literal : Literal) (before : Option Char)
    (ascii : ∀ d ∈ c :: rest, d.toNat < 128) :
    ∃ fragments, (state.step literal before c rest).Covers state before c rest fragments := by
  by_cases started : ∃ placeholder left, Stands ⟨state.quote, before⟩ placeholder left ∧
      placeholder.source ++ left = c :: rest
  · obtain ⟨placeholder, left, stands, split⟩ := started
    exact ⟨_, covers_of_stands literal stands split ascii⟩
  have bare : markup.Bare ⟨state.quote, before⟩ (c :: rest) :=
    fun placeholder left stands same => started ⟨placeholder, left, stands, same⟩
  rw [step]
  split
  · rename_i taken marked
    obtain ⟨digits, left, filled, decimal, rfl, rfl, -⟩ := exists_digits_of_markStep? marked
    exact absurd (by simp [source]) (bare (.expression digits) left (.expression filled decimal))
  · rw [unmarkedStep]
    split
    · rename_i doubled
      obtain ⟨left, rfl, rfl⟩ : ∃ left, c = '%' ∧ rest = '%' :: left := by
        cases rest <;> simp_all
      exact absurd rfl (bare .percent left .percent)
    · cases quoted : state.quote with
      | some q => exact ⟨_, covers_character rfl rfl (by rw [quoted]; rfl) bare⟩
      | none => exact covers_plainStep literal quoted ascii bare

/-- The rewriting of a text of ASCII divides it into fragments, and writes these with the numbers that
come next. -/
theorem exists_divides_run (literal : Literal) (state : Binding) (before : Option Char)
    {text : List Char} (ascii : ∀ d ∈ text, d.toNat < 128) :
    ∃ fragments, markup.Divides ⟨state.quote, before⟩ text fragments ∧
      (run literal state before text).output = state.output ++ numberedText state.counted fragments ∧
      (run literal state before text).counted = state.counted + fragments.countP isNext := by
  fun_induction run literal state before text with
  | case1 state before => exact ⟨[], .done, by simp [numberedText], rfl⟩
  | case2 state before c rest step inductionHypothesis =>
      obtain ⟨first, covers⟩ := exists_covers state literal before ascii
      obtain ⟨others, divides, output, counted⟩ :=
        inductionHypothesis fun d present => ascii d (List.mem_cons_of_mem c (List.mem_of_mem_drop present))
      refine ⟨first ++ others, covers.divides divides, ?_, ?_⟩
      · rw [output, covers.output, covers.counted, numberedText_append, List.append_assoc]
      · rw [counted, covers.counted, List.countP_append, Nat.add_assoc]

/-- What a step binds, and whether it counts a placeholder. -/
inductive Noted (literal : Literal) (state : Binding) : Binding → Prop where
  | nothing {other : Binding} (bound : other.bound = state.bound)
      (counted : other.counted = state.counted) : Noted literal state other
  | next {other : Binding} (bound : other.bound = (state.bindPosition literal (state.counted + 1)).bound)
      (counted : other.counted = state.counted + 1) : Noted literal state other
  | position {other : Binding} {index : Nat} (positive : 0 < index)
      (bound : other.bound = (state.bindPosition literal index).bound)
      (counted : other.counted = state.counted) : Noted literal state other
  | name {other : Binding} {name : List Char}
      (bound : other.bound =
        (state.bind (':' :: name) (literal.arguments.named.get? (String.ofList name))).bound)
      (counted : other.counted = state.counted) : Noted literal state other
  | expression {other : Binding} {digits : List Char} (filled : digits ≠ [])
      (decimal : ∀ c ∈ digits, isAsciiDigit c = true)
      (bound : other.bound = (state.bind (interpolationLead ++ digits)
        (do literal.interpolations[(← boundedNat? wordLimit digits)]?)).bound)
      (counted : other.counted = state.counted) : Noted literal state other

/-- The next placeholder is bound to the next argument. -/
theorem noted_writeNext (state : Binding) (literal : Literal) :
    Noted literal state (state.writeNext literal) := by
  refine .next ?_ (counted_bind ..)
  simp only [writeNext, write, bindPosition]
  cases literal.arguments.positional[state.counted + 1 - 1]? <;> rfl

theorem noted_step (state : Binding) (literal : Literal) (before : Option Char) (c : Char)
    (rest : List Char) : Noted literal state (state.step literal before c rest).state := by
  rw [step]
  split
  · rename_i taken marked
    obtain ⟨digits, left, filled, decimal, -, -, same⟩ := exists_digits_of_markStep? marked
    rw [same]
    exact .expression filled decimal rfl (counted_bind ..)
  · rw [unmarkedStep]
    split
    · exact .nothing rfl rfl
    · split
      · exact .nothing rfl rfl
      · unfold plainStep
        simp only
        split
        · exact .nothing rfl rfl
        split
        · exact noted_writeNext state literal
        split
        · cases found : percentName? state literal rest with
          | none => exact .nothing rfl rfl
          | some step =>
              unfold percentName? at found
              simp only at found
              split at found
              · cases found
                exact .name rfl (counted_bind ..)
              · cases found
        split
        · exact noted_writeNext state literal
        split
        · split
          · split
            · rename_i positive
              exact .position positive rfl (counted_bind ..)
            · exact .nothing rfl rfl
          · exact .nothing rfl rfl
        split
        · exact .name rfl (counted_bind ..)
        split
        · exact .nothing rfl rfl
        · exact .nothing rfl rfl

/-- Everything that is bound is bound to what it names. -/
def Sound (literal : Literal) (state : Binding) : Prop :=
  ∀ placeholder expression, (placeholder, expression) ∈ state.bound →
    Binds literal placeholder expression

/-- Every placeholder by position that has been counted is bound if there is an argument for it. -/
def Complete (literal : Literal) (state : Binding) : Prop :=
  ∀ index < state.counted, ∀ expression, literal.arguments.positional[index]? = some expression →
    state.bound.get? (String.ofList (numbered (index + 1))) = some expression

/-- What is bound stays sound when a placeholder is bound to what it names. -/
theorem Sound.bind (sound : Sound literal state) {other : Binding} {placeholder : List Char}
    {expression : Option String} (bound : other.bound = (state.bind placeholder expression).bound)
    (known : ∀ value, expression = some value → Binds literal (String.ofList placeholder) value) :
    Sound literal other := by
  intro name value present
  rw [bound] at present
  cases expression with
  | none => exact sound name value present
  | some expression =>
      rcases Keyed.mem_insert present with same | earlier
      · obtain ⟨rfl, rfl⟩ := Prod.mk.inj same
        exact known _ rfl
      · exact sound name value earlier

/-- What is bound stays sound in a step. -/
theorem Sound.noted (sound : Sound literal state) {other : Binding}
    (noted : Noted literal state other) : Sound literal other := by
  cases noted with
  | nothing bound => exact fun name value present => sound name value (bound ▸ present)
  | next bound => exact sound.bind bound fun value known => .position (Nat.succ_pos _) known
  | position positive bound => exact sound.bind bound fun value known => .position positive known
  | name bound => exact sound.bind bound fun value known => .name known
  | expression filled decimal bound =>
      refine sound.bind bound fun value known => ?_
      obtain ⟨index, number, found⟩ := Option.bind_eq_some_iff.mp known
      obtain rfl := eq_digitsValue_of_boundedNat? decimal number
      exact .expression filled decimal found

/-- The numbers of two placeholders are those of their texts. -/
theorem numbered_injective {first second : Nat}
    (same : String.ofList (numbered first) = String.ofList (numbered second)) : first = second := by
  have digits := (List.cons.inj (String.ofList_inj.mp same)).2
  rw [toList_toString, toList_toString] at digits
  rw [← digitsValue_toDigits first, digits, digitsValue_toDigits]

/-- A placeholder by position is bound to a value if it is what a step binds, or was bound before. -/
theorem get?_of_bind {other : Binding} {placeholder : List Char} {expression : Option String}
    {index : Nat} {value : String} (bound : other.bound = (state.bind placeholder expression).bound)
    (known : placeholder = numbered index → expression = some value)
    (earlier : placeholder ≠ numbered index →
      state.bound.get? (String.ofList (numbered index)) = some value) :
    other.bound.get? (String.ofList (numbered index)) = some value := by
  rw [bound]
  by_cases same : placeholder = numbered index
  · rw [known same, same, get?_bind_self]
  · rw [get?_bind_of_ne same, earlier same]

/-- All placeholders that are counted stay bound in a step. -/
theorem Complete.noted (complete : Complete literal state) {other : Binding}
    (noted : Noted literal state other) : Complete literal other := by
  intro index below value known
  cases noted with
  | nothing bound counted => exact bound ▸ complete index (counted ▸ below) value known
  | next bound counted =>
      refine get?_of_bind bound (fun same => ?_) fun different => complete index ?_ value known
      · rw [numbered_injective (congrArg String.ofList same), Nat.add_sub_cancel, known]
      · have : index ≠ state.counted := by
          rintro rfl
          exact different rfl
        omega
  | position positive bound counted =>
      refine get?_of_bind bound (fun same => ?_) fun _ => complete index (counted ▸ below) value known
      rw [numbered_injective (congrArg String.ofList same), Nat.add_sub_cancel, known]
  | name bound counted =>
      refine get?_of_bind bound (fun same => ?_) fun _ => complete index (counted ▸ below) value known
      cases (List.cons.inj same).1
  | expression filled decimal bound counted =>
      refine get?_of_bind bound (fun same => ?_) fun _ => complete index (counted ▸ below) value known
      cases (List.cons.inj same).1

/-- After the rewriting everything is bound to what it names, and every placeholder by position that has
been counted is bound if it can be. -/
theorem sound_run (literal : Literal) (state : Binding) (before : Option Char) (text : List Char)
    (sound : Sound literal state) (complete : Complete literal state) :
    Sound literal (run literal state before text) ∧ Complete literal (run literal state before text) := by
  fun_induction run literal state before text with
  | case1 state before => exact ⟨sound, complete⟩
  | case2 state before c rest step inductionHypothesis =>
      have noted := noted_step state literal before c rest
      exact inductionHypothesis (sound.noted noted) (complete.noted noted)

/-- A placeholder by position is bound to nothing but the argument at its position. -/
theorem Sound.position (sound : Sound literal state) {index : Nat} {value : String}
    (bound : state.bound.get? (String.ofList (numbered (index + 1))) = some value) :
    literal.arguments.positional[index]? = some value := by
  have binds := sound _ _ (Keyed.mem_of_get? bound)
  generalize placeholder : String.ofList (numbered (index + 1)) = name at binds
  cases binds with
  | position positive known => rwa [← numbered_injective placeholder, Nat.add_sub_cancel] at known
  | name => cases (List.cons.inj (String.ofList_inj.mp placeholder)).1
  | expression => cases (List.cons.inj (String.ofList_inj.mp placeholder)).1

end Binding

open Placeholder

/-- Every placeholder that is bound is bound to what it names: one with a number to the argument at
that position, one with a name to the argument of that name, one of an expression to the expression
with its number. A text written in ASCII is divided in one way into placeholders where they stand and
characters where none does; it comes out with those by position numbered from left to right, of which
each is bound exactly when there is an argument at its position. -/
theorem boundText_binds (literal : Literal) :
    (∀ placeholder expression, (placeholder, expression) ∈ literal.boundText.bindings →
      Binds literal placeholder expression) ∧
    ((∀ c ∈ literal.text, c.toNat < 128) →
      ∃ fragments, (∀ others, markup.Divides ⟨none, none⟩ literal.text others ↔ others = fragments) ∧
        literal.boundText.text = numberedText 0 fragments ∧
        ∀ index < fragments.countP isNext,
          literal.boundText.bindings.get? (String.ofList (Binding.numbered (index + 1))) =
            literal.arguments.positional[index]?) := by
  obtain ⟨sound, complete⟩ := Binding.sound_run literal .empty none literal.text nofun nofun
  refine ⟨sound, fun ascii => ?_⟩
  obtain ⟨fragments, divides, output, counted⟩ :=
    Binding.exists_divides_run literal .empty none ascii
  refine ⟨fragments, fun others => ⟨fun other => sharp_markup.divides_unique other divides, ?_⟩,
    output, fun index below => ?_⟩
  · rintro rfl
    exact divides
  · cases known : literal.arguments.positional[index]? with
    | some expression =>
        refine complete index ?_ expression known
        rwa [counted, Binding.empty, Nat.zero_add]
    | none =>
        refine Option.eq_none_iff_forall_ne_some.mpr fun value bound => ?_
        rw [sound.position bound] at known
        cases known

/-- Placeholders by position beside a doubled percent sign and one in quotes, an argument by name and a
number, with one argument by position for the three that are counted. -/
theorem boundText_binds_mixed :
    let literal : Literal :=
      ⟨"a = %s OR b = '%%?' OR c IN (?, %(uid)s, %d)".toList, 1, [], ⟨["x"], [("uid", "7")]⟩⟩
    (∀ c ∈ literal.text, c.toNat < 128) ∧
      (∃ fragments, markup.Divides ⟨none, none⟩ literal.text fragments ∧
        literal.boundText.text = numberedText 0 fragments) ∧
      literal.boundText.text =
        "a = $1 OR b = '%?' OR c IN ($2, :uid, $3)".toList ∧
      literal.boundText.bindings = [("$1", "x"), (":uid", "7")] := by
  intro literal
  have checked : literal.text.all (·.toNat < 128) = true := by decide +kernel
  have ascii : ∀ c ∈ literal.text, c.toNat < 128 :=
    fun c present => of_decide_eq_true (List.all_eq_true.mp checked c present)
  obtain ⟨fragments, divides, output, -⟩ := (boundText_binds literal).2 ascii
  exact ⟨ascii, ⟨fragments, (divides fragments).mpr rfl, output⟩, by decide +kernel, by decide +kernel⟩

end SchemaDrift.Host
