import SchemaDrift.Proofs.Sql.Regions

namespace SchemaDrift.Sql.Script

open Text

/-- A fragment as it becomes part of a statement. -/
def spelled (measure : Measure) : Fragment (List Char) → List Char
  | .part region => written measure region
  | .character c => [c]

/-- The part of a fragment in which line ends are counted. -/
def counted : Fragment (List Char) → List Char
  | .part region => inside region
  | .character c => [c]

def blank : Fragment (List Char) → Bool
  | .part _ => false
  | .character c => isBlank c

/-- The trimmed texts, those that are blank left out. -/
def kept (texts : List (List Char)) : List (List Char) :=
  (texts.map trim).filter fun text => !text.isEmpty

/-- The texts of the statements between the semicolons that are no part of a region. -/
def cut (measure : Measure) (fragments : List (Fragment (List Char))) : List (List Char) :=
  kept ((fragments.splitOn (.character ';')).map fun piece => piece.flatMap (spelled measure))

def Reading.take (state : Reading) : Fragment (List Char) → Reading
  | .part region => { state with
      current := state.current ++ written .taken region
      start := state.start.or (some state.line)
      line := state.line + lineEnds (inside region) }
  | .character c => (state.meet c).passChar c

theorem kept_append (texts others : List (List Char)) : kept (texts ++ others) = kept texts ++ kept others := by
  rw [kept, List.map_append, List.filter_append]
  rfl

variable {measure : Measure} {known : Unit} {content region rest : List Char}
  {fragments : List (Fragment (List Char))}

/-- A region starts with a character that is not blank. -/
theorem Protects.exists_head (protects : Protects measure region rest) :
    ∃ c more, region = c :: more ∧ isBlank c = false := by
  cases protects with
  | quoted quotes => rcases quotes with rfl | rfl <;> exact ⟨_, _, rfl, by decide⟩
  | line => exact ⟨_, _, rfl, by decide⟩
  | comment => exact ⟨_, _, rfl, by decide⟩
  | body => exact ⟨_, _, rfl, by decide⟩

/-- No region starts where none is read. -/
theorem region?_of_bare {c : Char} (bare : (regions .taken).Bare () (c :: rest)) :
    region? (c :: rest) = none := by
  cases read : region? (c :: rest) with
  | none => rfl
  | some found =>
      obtain ⟨region, left, split, protects⟩ := exists_protects read
      exact absurd split (bare region left protects)

/-- The reading of a file goes over its fragments. -/
theorem run_eq_foldl (division : (regions .taken).Divides known content fragments) (state : Reading) :
    state.run content = (fragments.foldl Reading.take state).finish := by
  induction division generalizing state with
  | done => rw [Reading.run]; rfl
  | @part _ region rest _ starts _ inductionHypothesis =>
      obtain ⟨found, read, span, left, text, lines⟩ := Protects.isRead starts
      obtain ⟨c, more, rfl, solid⟩ := Protects.exists_head starts
      have passed : (state.meet c).pass found = state.take (.part (c :: more)) := by
        cases started : state.start <;>
          simp [Reading.meet, Reading.pass, Reading.take, started, solid, text, lines]
      have remaining : (more ++ rest).drop (found.span - 1) = rest := by
        rw [← Nat.sub_add_cancel span] at left
        exact left
      rw [List.foldl_cons, ← passed, ← inductionHypothesis]
      change state.run (c :: (more ++ rest)) = _
      rw [Reading.run, show region? (c :: (more ++ rest)) = some found from read]
      exact congrArg _ remaining
  | @character _ c rest _ bare _ inductionHypothesis =>
      rw [Reading.run, region?_of_bare bare]
      exact inductionHypothesis _

namespace Reading

variable {state : Reading}

/-- Before a statement starts, only blanks are kept for it. -/
def Waiting (state : Reading) : Prop := state.start = none → ∀ c ∈ state.current, isBlank c = true

/-- At the end of a statement its text is taken, trimmed, unless it is blank. -/
theorem finish_spec (waiting : state.Waiting) :
    state.finish.done.map Prod.snd = state.done.map Prod.snd ++ kept [state.current] ∧
      state.finish.current = [] ∧ state.finish.start = none := by
  cases started : state.start with
  | none => simp [finish, started, kept, trim_of_blank (waiting started)]
  | some line => by_cases blank : trim state.current = [] <;> simp [finish, started, kept, blank]

/-- A semicolon outside all regions ends a statement. -/
theorem take_end (waiting : state.Waiting) : state.take (.character ';') = state.finish := by
  have met : state.take (.character ';') = (state.meet ';').finish := rfl
  cases started : state.start with
  | none =>
      have solid : isBlank ';' = false := by decide
      simp [met, meet, finish, started, solid, trim_of_blank (waiting started)]
  | some line => simp [met, meet, started]

/-- A character starts a statement if none has started, unless it is blank. -/
theorem meet_eq (state : Reading) (c : Char) : state.meet c =
    { state with start := state.start.or (if isBlank c then none else some state.line) } := by
  obtain ⟨current, start, line, done⟩ := state
  cases start <;> cases solid : isBlank c <;> simp [meet, solid]

/-- Any other fragment becomes part of a statement, and starts one if it is not blank. -/
theorem take_inside (state : Reading) {fragment : Fragment (List Char)}
    (inside : fragment ≠ .character ';') :
    state.take fragment = { state with
      current := state.current ++ spelled .taken fragment
      start := state.start.or (if blank fragment then none else some state.line)
      line := state.line + lineEnds (counted fragment) } := by
  cases fragment with
  | part region => rfl
  | character c =>
      have other : (c == ';') = false := beq_false_of_ne fun same => inside (congrArg _ same)
      have advanced : (if c == '\n' then state.line + 1 else state.line) = state.line + lineEnds [c] := by
        rw [lineEnds, List.count_singleton]
        split <;> rfl
      rw [take, passChar, other, meet_eq]
      simp only [spelled, counted, blank, advanced]
      rfl

/-- A fragment that ends no statement leaves blanks only where none has started. -/
theorem Waiting.inside (waiting : state.Waiting) {fragment : Fragment (List Char)}
    (inside : fragment ≠ .character ';') : (state.take fragment).Waiting := by
  rw [take_inside state inside]
  intro missing
  obtain ⟨before, unstarted⟩ := Option.or_eq_none_iff.mp missing
  cases fragment with
  | part => cases unstarted
  | character c =>
      have solid : isBlank c = true := by
        by_contra solid
        rw [blank, if_neg solid] at unstarted
        cases unstarted
      exact List.forall_mem_append.mpr ⟨waiting before, List.forall_mem_singleton.mpr solid⟩

/-- The texts of the statements of a file are those between the semicolons outside all regions. -/
theorem texts_foldl (fragments : List (Fragment (List Char))) (waiting : state.Waiting) :
    (fragments.foldl take state).finish.done.map Prod.snd = state.done.map Prod.snd ++
      kept (((fragments.splitOn (.character ';')).map (·.flatMap (spelled .taken))).modifyHead
        (state.current ++ ·)) := by
  induction fragments generalizing state with
  | nil =>
      rw [List.foldl_nil, (finish_spec waiting).1]
      simp [List.splitOn_nil]
  | cons fragment fragments inductionHypothesis =>
      rw [List.foldl_cons, List.splitOn_cons_eq_if_modifyHead]
      obtain ⟨piece, pieces, split⟩ :=
        List.exists_cons_of_ne_nil (List.splitOn_ne_nil (.character ';') fragments)
      rw [split] at inductionHypothesis ⊢
      by_cases ends : fragment = .character ';'
      · obtain ⟨done, current, -⟩ := finish_spec waiting
        rw [ends, take_end waiting, inductionHypothesis fun _ => by simp [current], done, current,
          if_pos (beq_self_eq_true _), List.append_assoc, ← kept_append]
        simp
      · rw [inductionHypothesis (waiting.inside ends), take_inside state ends]
        simp [ends]

end Reading

/-- The texts of the statements of a file are those between the semicolons that are no part of a
region that the reading takes. -/
theorem texts_statements (division : (regions .taken).Divides known content fragments) :
    (statements content).map Prod.snd = cut .taken fragments := by
  have waiting : Reading.empty.Waiting := fun _ _ present => absurd present List.not_mem_nil
  rw [statements, run_eq_foldl division, Reading.texts_foldl fragments waiting, cut]
  exact congrArg kept (congrFun List.modifyHead_id _)

section Measures

/-- The start of a text has one measure: no comment there has its end within its opening, and no tag
with more bytes than characters stands in front of a dollar sign, by its characters or its bytes. -/
def Fair (text : List Char) : Prop :=
  ¬['/', '*', '/'] <+: text ∧
    (text.head? = some '$' → utf8Length (tagOf text.tail) = (tagOf text.tail).length ∨
      text.tail[(tagOf text.tail).length]? ≠ some '$' ∧
        text.tail[utf8Length (tagOf text.tail)]? ≠ some '$')

instance (text : List Char) : Decidable (Fair text) := inferInstanceAs (Decidable (_ ∧ _))

/-- The text has one measure wherever a fragment starts. -/
def Regular : List (Fragment (List Char)) → Prop
  | [] => True
  | fragment :: fragments =>
    Fair ((fragment :: fragments).flatMap (regions .meant).sourceOf) ∧ Regular fragments

instance decidableRegular : DecidablePred Regular
  | [] => .isTrue trivial
  | _ :: fragments =>
    have := decidableRegular fragments
    inferInstanceAs (Decidable (_ ∧ _))

/-- A tag with as many bytes as characters has one length, and what must not start it is a digit. -/
theorem measures_of_single {tag : List Char} (single : utf8Length tag = tag.length) :
    Measure.meant.tag tag = Measure.taken.tag tag ∧
      tag.head?.any Measure.meant.digit = tag.head?.any Measure.taken.digit := by
  refine ⟨single.symm, ?_⟩
  cases tag with
  | nil => rfl
  | cons c tag =>
      exact forall_ascii (fun c => isNumeric c = isAsciiDigit c) (by decide)
        ((utf8Length_eq_length_iff _).mp single c List.mem_cons_self)

/-- A comment that does not have its end within its opening goes on up to the same end. -/
theorem closes_comment_iff {taken : List Char} (apart : ¬['/', '*', '/'] <+: '/' :: '*' :: (taken ++ rest)) :
    Closes ['*', '/'] taken rest ↔ Closes ['*', '/'] ('*' :: taken) rest := by
  have absent : ¬['*', '/'] <+: '*' :: (taken ++ rest) := fun starts =>
    apart (List.cons_prefix_cons.mpr ⟨rfl, starts⟩)
  refine ⟨.later absent, fun closes => ?_⟩
  generalize again : '*' :: taken = text at closes
  cases closes with
  | here => exact absurd ⟨rest, congrArg (· ++ rest) again.symm⟩ absent
  | never => cases again
  | later _ others =>
      obtain ⟨-, rfl⟩ := List.cons.inj again
      exact others

/-- A tag in front of a dollar sign has as many bytes as characters. -/
theorem tag_of_fair {tag left : List Char} (fair : Fair ('$' :: (tag ++ '$' :: left)))
    (measured : tag.length = (tagOf (tag ++ '$' :: left)).length ∨
      tag.length = utf8Length (tagOf (tag ++ '$' :: left))) :
    utf8Length (tagOf (tag ++ '$' :: left)) = (tagOf (tag ++ '$' :: left)).length := by
  have closed : (tag ++ '$' :: left)[tag.length]? = some '$' :=
    (getElem?_eq_some_iff_append _ _ _).mpr ⟨tag, left, rfl, rfl⟩
  rcases fair.2 rfl with single | ⟨first, second⟩
  · exact single
  · rcases measured with same | same
    · exact absurd (same ▸ closed) first
    · exact absurd (same ▸ closed) second

/-- Where the text has one measure, the regions that are meant are those that are taken. -/
theorem protects_iff_of_fair (fair : Fair (region ++ rest)) :
    Protects .meant region rest ↔ Protects .taken region rest := by
  have whole : ∀ tag taken : List Char, '$' :: (tag ++ '$' :: taken) ++ rest =
      '$' :: (tag ++ '$' :: (taken ++ rest)) := by simp
  constructor
  · intro protects
    cases protects with
    | quoted quotes closes => exact .quoted quotes closes
    | line within ends => exact .line within ends
    | comment closes => exact .comment ((closes_comment_iff fair.1).mp closes)
    | body measured named closes =>
        rw [whole] at fair
        obtain ⟨same, digits⟩ := measures_of_single (tag_of_fair fair (.inl measured))
        exact .body (measured.trans same) (digits ▸ named) closes
  · intro protects
    cases protects with
    | quoted quotes closes => exact .quoted quotes closes
    | line within ends => exact .line within ends
    | comment closes => exact .comment ((closes_comment_iff fair.1).mpr closes)
    | body measured named closes =>
        rw [whole] at fair
        obtain ⟨same, digits⟩ := measures_of_single (tag_of_fair fair (.inr measured))
        exact .body (measured.trans same.symm) (digits ▸ named) closes

/-- Where the text has one measure, the division that is meant is the one that is taken. -/
theorem divides_of_regular (division : (regions .meant).Divides known content fragments)
    (regular : Regular fragments) : (regions .taken).Divides known content fragments := by
  induction division with
  | done => exact .done
  | part starts others inductionHypothesis =>
      have fair := regular.1
      rw [List.flatMap_cons, others.flatMap_sourceOf] at fair
      exact .part ((protects_iff_of_fair fair).mp starts) (inductionHypothesis regular.2)
  | character bare others inductionHypothesis =>
      have fair := regular.1
      rw [List.flatMap_cons, others.flatMap_sourceOf] at fair
      refine .character (fun region rest starts same => ?_) (inductionHypothesis regular.2)
      exact bare region rest ((protects_iff_of_fair (same ▸ fair)).mpr starts) same

/-- Where the text has one measure, a comment has no end by both measures or by none. -/
theorem unclosed_iff_of_fair (fair : Fair (region ++ rest)) :
    Unclosed .meant region ↔ Unclosed .taken region := by
  refine and_congr_right fun starts => not_congr ?_
  obtain ⟨taken, rfl⟩ := starts
  have apart : ['*', '/'] ≠ '*' :: taken := fun same => fair.1 <| by
    rw [← (List.cons.inj same).2]
    exact List.prefix_append ['/', '*', '/'] rest
  exact (List.suffix_cons_iff.trans (or_iff_right apart)).symm

/-- Where the text has one measure, the fragments are written in one way. -/
theorem spelled_of_regular (regular : Regular fragments) :
    ∀ fragment ∈ fragments, spelled .meant fragment = spelled .taken fragment := by
  induction fragments with
  | nil => exact fun _ present => absurd present List.not_mem_nil
  | cons fragment fragments inductionHypothesis =>
      refine List.forall_mem_cons.mpr ⟨?_, inductionHypothesis regular.2⟩
      cases fragment with
      | part region =>
          have fair := regular.1
          rw [List.flatMap_cons] at fair
          have unclosed : Unclosed .meant region ↔ Unclosed .taken region :=
            unclosed_iff_of_fair fair
          simp only [spelled, written, unclosed]
      | character c => rfl

/-- What stands between two semicolons stands in the file. -/
theorem mem_of_mem_splitOn {separator : Fragment (List Char)} {piece : List (Fragment (List Char))}
    (within : piece ∈ fragments.splitOn separator) : ∀ fragment ∈ piece, fragment ∈ fragments := by
  induction fragments generalizing piece with
  | nil =>
      obtain rfl := List.mem_singleton.mp within
      exact fun _ present => present
  | cons first fragments inductionHypothesis =>
      obtain ⟨start, pieces, split⟩ :=
        List.exists_cons_of_ne_nil (List.splitOn_ne_nil separator fragments)
      rw [List.splitOn_cons_eq_if_modifyHead, split] at within
      rw [split] at inductionHypothesis
      by_cases ends : (first == separator) = true
      · rw [if_pos ends] at within
        rcases List.mem_cons.mp within with rfl | later
        · exact fun _ present => absurd present List.not_mem_nil
        · exact fun fragment present => List.mem_cons_of_mem _ (inductionHypothesis later fragment present)
      · rw [if_neg ends, List.modifyHead_cons] at within
        rcases List.mem_cons.mp within with rfl | later
        · exact List.forall_mem_cons.mpr ⟨List.mem_cons_self, fun fragment present =>
            List.mem_cons_of_mem _ (inductionHypothesis List.mem_cons_self fragment present)⟩
        · exact fun fragment present => List.mem_cons_of_mem _
            (inductionHypothesis (List.mem_cons_of_mem _ later) fragment present)

/-- Where the text has one measure, the texts between the semicolons are the same. -/
theorem cut_of_regular (regular : Regular fragments) : cut .meant fragments = cut .taken fragments := by
  unfold cut
  refine congrArg kept (List.map_congr_left fun piece within => ?_)
  rw [List.flatMap_def, List.flatMap_def]
  exact congrArg List.flatten (List.map_congr_left fun fragment present =>
    spelled_of_regular regular fragment (mem_of_mem_splitOn within fragment present))

end Measures

/-- The characters that may start a region. -/
def openings : List Char := ['\'', '"', '-', '/', '$']

/-- No region starts with another character. -/
theorem bare_of_plain {c : Char} (plain : c ∉ openings) (known : Unit) (rest : List Char) :
    (regions measure).Bare known (c :: rest) := by
  intro region left protects same
  refine plain ?_
  cases (protects : Protects measure region left) with
  | quoted quotes => rcases quotes with rfl | rfl <;> exact (List.cons.inj same).1 ▸ by decide
  | line => exact (List.cons.inj same).1 ▸ by decide
  | comment => exact (List.cons.inj same).1 ▸ by decide
  | body => exact (List.cons.inj same).1 ▸ by decide

/-- Such a character stands for itself. -/
theorem divides_plain {c : Char} (plain : c ∉ openings)
    (others : (regions measure).Divides known rest fragments) :
    (regions measure).Divides known (c :: rest) (.character c :: fragments) :=
  .character (bare_of_plain plain known rest) others

/-- The texts of the statements of a file are those between the semicolons outside all regions: the
regions that the reading takes and, where the text has one measure, the regions that are meant. The
file has one division into regions of either kind. -/
theorem statements_cut (content : List Char) :
    (∃ fragments, (∀ others, (regions .taken).Divides () content others ↔ others = fragments) ∧
        (statements content).map Prod.snd = cut .taken fragments) ∧
      ∃ fragments, (∀ others, (regions .meant).Divides () content others ↔ others = fragments) ∧
        (Regular fragments → (statements content).map Prod.snd = cut .meant fragments) := by
  obtain ⟨taken, onlyTaken⟩ := (sharp_regions .taken).existsUnique_divides () content
  obtain ⟨meant, onlyMeant⟩ := (sharp_regions .meant).existsUnique_divides () content
  refine ⟨⟨taken, onlyTaken, texts_statements ((onlyTaken taken).mpr rfl)⟩,
    ⟨meant, onlyMeant, fun regular => ?_⟩⟩
  rw [texts_statements (divides_of_regular ((onlyMeant meant).mpr rfl) regular), cut_of_regular regular]

/-- Semicolons in a quoted part, two comments and a body do not split a statement; one behind them
does. -/
theorem statements_cut_mixed :
    let content := "';' /*;*/ $a$;$a$ --;\n;X".toList
    ∃ fragments, (∀ others, (regions .meant).Divides () content others ↔ others = fragments) ∧
      Regular fragments ∧ cut .meant fragments = ["';' /*;*/ $a$;$a$ --;".toList, "X".toList] ∧
      (statements content).map Prod.snd = cut .meant fragments := by
  intro content
  obtain ⟨-, fragments, only, texts⟩ := statements_cut content
  have division : (regions .meant).Divides () content
      [.part ['\'', ';', '\''], .character ' ', .part ['/', '*', ';', '*', '/'], .character ' ',
        .part ['$', 'a', '$', ';', '$', 'a', '$'], .character ' ', .part ['-', '-', ';'],
        .character '\n', .character ';', .character 'X'] := by
    have same : content = ['\'', ';', '\'', ' ', '/', '*', ';', '*', '/', ' ', '$', 'a', '$', ';', '$',
      'a', '$', ' ', '-', '-', ';', '\n', ';', 'X'] := by decide +kernel
    rw [same]
    refine .of_eq rfl (.quoted (.inl rfl) (.later (by decide) .here)) ?_
    refine divides_plain (by decide) (.of_eq rfl (.comment (.later (by decide) .here)) ?_)
    refine divides_plain (by decide) (.of_eq rfl (@Protects.body .meant ['a'] [';', '$', 'a', '$'] _ (by decide)
      (by decide) (.later (by decide) .here)) ?_)
    refine divides_plain (by decide) (.of_eq rfl (.line (by decide) fun c first => (Option.some.inj first).symm) ?_)
    exact divides_plain (by decide) (divides_plain (by decide) (divides_plain (by decide) .done))
  obtain rfl := (only _).mp division
  exact ⟨_, only, by decide +kernel, by decide +kernel, texts (by decide +kernel)⟩

/-- The end of a comment that starts within its opening, and a tag with more bytes than characters, let
semicolons split a statement that stand in a comment or a body. -/
theorem statements_cut_otherwise :
    (let content := "/*/;*/ SELECT 1".toList
      ∃ fragments, (regions .meant).Divides () content fragments ∧
        cut .meant fragments = ["/*/;*/ SELECT 1".toList] ∧
        (statements content).map Prod.snd = ["/*/".toList, "*/ SELECT 1".toList]) ∧
      let content := "DO $é$;$é$".toList
      ∃ fragments, (regions .meant).Divides () content fragments ∧
        cut .meant fragments = ["DO $é$;$é$".toList] ∧
        (statements content).map Prod.snd = ["DO $é$".toList, "$é$".toList] := by
  refine ⟨⟨.part ['/', '*', '/', ';', '*', '/'] :: [' ', 'S', 'E', 'L', 'E', 'C', 'T', ' ', '1'].map
    .character, ?_, by decide +kernel, by decide +kernel⟩,
    ⟨.character 'D' :: .character 'O' :: .character ' ' ::
      [.part ['$', 'é', '$', ';', '$', 'é', '$']], ?_, by decide +kernel, by decide +kernel⟩⟩
  · have same : "/*/;*/ SELECT 1".toList = ['/', '*', '/', ';', '*', '/'] ++
        ([' ', 'S', 'E', 'L', 'E', 'C', 'T', ' ', '1'] ++ []) := by decide +kernel
    rw [same, ← List.append_nil (List.map _ _)]
    refine .of_eq rfl (.comment (.later (by decide) (.later (by decide) .here))) ?_
    refine .run (fun c present => bare_of_plain ?_) .done
    have outside : [' ', 'S', 'E', 'L', 'E', 'C', 'T', ' ', '1'].all (!openings.contains ·) = true := by
      decide
    simpa using List.all_eq_true.mp outside c present
  · have same : "DO $é$;$é$".toList = ['D', 'O', ' ', '$', 'é', '$', ';', '$', 'é', '$'] := by
      decide +kernel
    rw [same]
    refine divides_plain (by decide) (divides_plain (by decide) (divides_plain (by decide) ?_))
    exact .of_eq rfl (@Protects.body .meant ['é'] [';', '$', 'é', '$'] [] (by decide +kernel)
      (by decide +kernel) (.later (by decide) .here)) .done

end SchemaDrift.Sql.Script
