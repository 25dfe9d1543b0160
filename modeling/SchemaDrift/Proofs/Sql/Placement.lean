import SchemaDrift.Proofs.Sql.Splitting

namespace SchemaDrift.Sql.Script

open Text

/-- Nothing but blanks and semicolons. -/
def Separates (gap : List Char) : Prop := ∀ c ∈ gap, isBlank c = true ∨ c = ';'

/-- A file is laid out as texts with separators before, between and behind them; each text comes with
all that stands in front of it. -/
inductive Laid : List (List Char × List Char) → List Char → Prop where
  | empty {gap : List Char} (separates : Separates gap) : Laid [] gap
  | text {places : List (List Char × List Char)} {front text gap : List Char}
      (before : Laid places front) (filled : text ≠ []) (trimmed : trim text = text)
      (separates : Separates gap) : Laid (places ++ [(front, text)]) (front ++ text ++ gap)

/-- A file does not end within a comment between asterisks. -/
def Closed (measure : Measure) (fragments : List (Fragment (List Char))) : Prop :=
  ∀ region, fragments.getLast? = some (.part region) → ¬Unclosed measure region

/-- The characters of a fragment. -/
abbrev source : Fragment (List Char) → List Char := (regions .taken).sourceOf

/-- The line behind some fragments, as it is counted. -/
def lineBehind (fragments : List (Fragment (List Char))) : Nat := 1 + lineEnds (fragments.flatMap counted)

/-- A place in a file is the fragments in front of it, with the text that stands there. -/
abbrev Place := List (Fragment (List Char)) × List Char

/-- The characters in front of a place, with its text. -/
def Place.fronted (place : Place) : List Char × List Char := (place.1.flatMap source, place.2)

/-- The line of a place, with its text. -/
def Place.located (place : Place) : Nat × List Char := (lineBehind place.1, place.2)

variable {measure : Measure} {known : Unit} {content region rest front settled : List Char}
  {fragments passed : List (Fragment (List Char))} {fragment : Fragment (List Char)}
  {places : List (List Char × List Char)} {found : List Place} {state : Reading} {line : Nat}

/-- Separators behind a file that is laid out belong to it. -/
theorem Laid.append (laid : Laid places front) {gap : List Char}
    (separates : Separates gap) : Laid places (front ++ gap) := by
  cases laid with
  | empty earlier => exact .empty (List.forall_mem_append.mpr ⟨earlier, separates⟩)
  | text before filled trimmed earlier =>
      rw [List.append_assoc]
      exact .text before filled trimmed (List.forall_mem_append.mpr ⟨earlier, separates⟩)

/-- A file that does not end with a separator ends with its last text. -/
theorem Laid.eq_of_getLast? {place : List Char × List Char} {c : Char}
    (laid : Laid (places ++ [place]) content) (last : content.getLast? = some c)
    (solid : ¬(isBlank c = true ∨ c = ';')) : content = place.1 ++ place.2 := by
  generalize same : places ++ [place] = all at laid
  cases laid with
  | empty => simp at same
  | @text _ front text gap before filled trimmed separates =>
      obtain ⟨rfl, whole⟩ := List.append_inj' same rfl
      obtain rfl := List.singleton_inj.mp whole
      cases gap with
      | nil => exact List.append_nil _
      | cons d gap =>
          have filled := List.cons_ne_nil d gap
          rw [List.getLast?_append, List.getLast?_eq_some_getLast filled, Option.some_or] at last
          have behind := separates _ (List.getLast_mem filled)
          exact absurd (Option.some.inj last ▸ behind) solid

/-- The statement that is read starts behind some fragments and blanks, at a character that is not
blank. -/
def Begun (passed : List (Fragment (List Char))) (settled current : List Char) (line : Nat) : Prop :=
  ∃ begun lead c more, begun <+: passed ∧ line = lineBehind begun ∧
    begun.flatMap source = settled ++ lead ∧ (∀ d ∈ lead, isBlank d = true) ∧
    current = lead ++ c :: more ∧ isBlank c = false

/-- What is known while a file is read: the fragments that are passed over are the settled text, laid
out as the statements that are done, and the text of the statement that is read. -/
structure Tracks (passed : List (Fragment (List Char))) (state : Reading) (found : List Place)
    (settled : List Char) : Prop where
  laid : Laid (found.map Place.fronted) settled
  whole : settled ++ state.current = passed.flatMap source
  within : ∀ place ∈ found, place.1 <+: passed
  done : state.done = found.map Place.located
  line : state.line = lineBehind passed
  waiting : state.Waiting
  begun : ∀ line, state.start = some line → Begun passed settled state.current line

/-- The statement that is read goes on behind where it starts. -/
theorem Begun.append {current : List Char} (begun : Begun passed settled current line)
    (others : List (Fragment (List Char))) (further : List Char) :
    Begun (passed ++ others) settled (current ++ further) line := by
  obtain ⟨begun, lead, c, more, earlier, known, fronted, blank, rfl, solid⟩ := begun
  refine ⟨begun, lead, c, more ++ further, earlier.trans (List.prefix_append _ _), known, fronted, blank,
    ?_, solid⟩
  rw [List.append_assoc, List.cons_append]

theorem lineBehind_append (passed fragments : List (Fragment (List Char))) :
    lineBehind (passed ++ fragments) = lineBehind passed + lineEnds (fragments.flatMap counted) := by
  rw [lineBehind, List.flatMap_append, lineEnds, List.count_append, ← Nat.add_assoc]
  rfl

/-- A statement that ends is done, unless it is blank, and all that was read is settled. -/
theorem Tracks.finish (tracks : Tracks passed state found settled) :
    ∃ found, Tracks passed state.finish found (passed.flatMap source) ∧ state.finish.current = [] ∧
      state.finish.start = none := by
  cases started : state.start with
  | none =>
      have finished : state.finish = { state with current := [] } := by
        rw [Reading.finish, started]
      have gap : Separates state.current := fun c present => .inl (tracks.waiting started c present)
      rw [finished]
      refine ⟨found, ⟨tracks.whole ▸ tracks.laid.append gap, List.append_nil _, tracks.within, tracks.done,
        tracks.line, fun _ _ present => absurd present List.not_mem_nil, fun line begins => ?_⟩, rfl,
        started⟩
      rw [started] at begins
      exact absurd begins.symm (Option.some_ne_none line)
  | some line =>
      obtain ⟨begun, lead, c, more, earlier, known, fronted, blank, current, solid⟩ :=
        tracks.begun line started
      obtain ⟨text, tail, trimmed, split, filled, again, trailing⟩ := exists_trim solid blank more
      have finished : state.finish =
          { state with current := [], start := none, done := state.done ++ [(line, text)] } := by
        rw [Reading.finish, started, current, trimmed]
        simp [filled]
      have before : Laid (found.map Place.fronted) (begun.flatMap source) :=
        fronted ▸ tracks.laid.append fun c present => .inl (blank c present)
      have whole : begun.flatMap source ++ text ++ tail = passed.flatMap source := by
        rw [← tracks.whole, current, split, fronted]
        simp only [List.append_assoc]
      rw [finished]
      refine ⟨found ++ [(begun, text)], ⟨?_, List.append_nil _, ?_, ?_, tracks.line,
        fun _ _ present => absurd present List.not_mem_nil,
        fun line begins => absurd begins.symm (Option.some_ne_none line)⟩, rfl, rfl⟩
      · rw [List.map_append, ← whole]
        exact .text before filled again fun c present => .inl (trailing c present)
      · exact List.forall_mem_append.mpr ⟨tracks.within, List.forall_mem_singleton.mpr earlier⟩
      · rw [List.map_append, tracks.done, known]
        rfl

/-- A semicolon behind the end of a statement is settled. -/
theorem Tracks.settle (tracks : Tracks passed state found settled) (current : state.current = [])
    (start : state.start = none) :
    Tracks (passed ++ [Fragment.character ';']) state found (settled ++ [';']) := by
  refine ⟨tracks.laid.append (List.forall_mem_singleton.mpr (.inr rfl)), ?_,
    fun place present => (tracks.within place present).trans (List.prefix_append _ _), tracks.done, ?_,
    tracks.waiting, fun line begun => ?_⟩
  · have whole := tracks.whole
    rw [current, List.append_nil] at whole
    rw [current, List.append_nil, whole, List.flatMap_append]
    rfl
  · rw [tracks.line, lineBehind_append]
    rfl
  · rw [start] at begun
    cases begun

/-- A fragment that ends no statement becomes part of one. -/
theorem Tracks.inside (tracks : Tracks passed state found settled)
    (inside : fragment ≠ .character ';') (faithful : spelled .taken fragment = source fragment)
    (solid : blank fragment = false → ∃ c more, source fragment = c :: more ∧ isBlank c = false) :
    Tracks (passed ++ [fragment]) (state.take fragment) found settled := by
  have whole : settled ++ (state.current ++ spelled .taken fragment) =
      (passed ++ [fragment]).flatMap source := by
    rw [List.flatMap_append, ← tracks.whole, faithful, List.append_assoc, List.flatMap_singleton]
  have taken := Reading.take_inside state inside
  refine ⟨tracks.laid, taken ▸ whole,
    fun place present => (tracks.within place present).trans (List.prefix_append _ _), taken ▸ tracks.done,
    ?_, tracks.waiting.inside inside, ?_⟩
  · rw [taken, lineBehind_append, ← tracks.line, List.flatMap_singleton]
  · rw [taken]
    intro line begins
    cases started : state.start with
    | some first =>
        rw [started, Option.some_or] at begins
        obtain rfl := Option.some.inj begins
        exact (tracks.begun _ started).append _ _
    | none =>
        rw [started, Option.none_or, Option.ite_none_left_eq_some] at begins
        obtain ⟨c, more, split, unblank⟩ := solid (by simpa using begins.1)
        rw [faithful, split]
        exact ⟨passed, state.current, c, more, List.prefix_append _ _,
          (Option.some.inj begins.2).symm.trans tracks.line, tracks.whole.symm, tracks.waiting started, rfl,
          unblank⟩

/-- What is known stays known while more of a file is read. -/
theorem Tracks.foldl (tracks : Tracks passed state found settled)
    (firm : ∀ fragment ∈ fragments, spelled .taken fragment = source fragment ∧
      (blank fragment = false → ∃ c more, source fragment = c :: more ∧ isBlank c = false)) :
    ∃ found settled, Tracks (passed ++ fragments) (fragments.foldl Reading.take state) found settled := by
  induction fragments generalizing passed state found settled with
  | nil => exact ⟨found, settled, by rwa [List.append_nil]⟩
  | cons fragment fragments inductionHypothesis =>
      rw [List.forall_mem_cons] at firm
      rw [List.append_cons, List.foldl_cons]
      by_cases ends : fragment = .character ';'
      · subst ends
        obtain ⟨found, finished, current, start⟩ := tracks.finish
        rw [Reading.take_end tracks.waiting]
        exact inductionHypothesis (finished.settle current start) firm.2
      · exact inductionHypothesis (tracks.inside ends firm.1.1 firm.1.2) firm.2

/-- The end of a file is the end of what is left of it. -/
theorem Closed.tail (closed : Closed measure (fragment :: fragments)) : Closed measure fragments := by
  intro region last
  refine closed region ?_
  rw [List.getLast?_cons, last]
  rfl

/-- A comment without end goes on to the end of the file. -/
theorem Protects.rest_of_unclosed (protects : Protects .taken region rest)
    (unclosed : Unclosed .taken region) : rest = [] := by
  obtain ⟨⟨taken, rfl⟩, unended⟩ := unclosed
  generalize same : ['/', '*'] ++ taken = region at protects
  cases protects with
  | quoted quotes => rcases quotes with rfl | rfl <;> cases same
  | line => cases same
  | comment closes =>
      obtain rfl := (List.cons.inj (List.cons.inj same).2).2
      exact closes.ends.resolve_left unended
  | body => cases same

/-- Where a file does not end within a comment, every fragment becomes part of a statement as it
stands. -/
theorem firm_of_closed (division : (regions .taken).Divides known content fragments)
    (closed : Closed .taken fragments) :
    ∀ fragment ∈ fragments, spelled .taken fragment = source fragment ∧
      (blank fragment = false → ∃ c more, source fragment = c :: more ∧ isBlank c = false) := by
  induction division with
  | done => exact fun _ present => absurd present List.not_mem_nil
  | @part known region rest fragments starts others inductionHypothesis =>
      have ended : ¬Unclosed .taken region := by
        intro unclosed
        obtain rfl := Protects.rest_of_unclosed starts unclosed
        obtain rfl := (sharp_regions .taken).divides_unique others .done
        exact closed region rfl unclosed
      refine List.forall_mem_cons.mpr ⟨⟨if_neg ended, fun _ => Protects.exists_head starts⟩, ?_⟩
      exact inductionHypothesis closed.tail
  | @character known c rest fragments _ _ inductionHypothesis =>
      refine List.forall_mem_cons.mpr ⟨⟨rfl, fun solid => ⟨c, [], rfl, solid⟩⟩, ?_⟩
      exact inductionHypothesis closed.tail

/-- The statements of a file that does not end within a comment are laid out in it, each at its line. -/
theorem exists_places (division : (regions .taken).Divides known content fragments)
    (closed : Closed .taken fragments) :
    ∃ found : List Place, Laid (found.map Place.fronted) content ∧
      (∀ place ∈ found, place.1 <+: fragments) ∧ statements content = found.map Place.located := by
  have begins : Tracks [] .empty [] [] := ⟨.empty nofun, rfl, nofun, rfl, rfl, fun _ => nofun, nofun⟩
  obtain ⟨found, settled, tracks⟩ := begins.foldl (firm_of_closed division closed)
  obtain ⟨found, finished, -⟩ := tracks.finish
  rw [List.nil_append, division.flatMap_sourceOf] at finished
  refine ⟨found, finished.laid, finished.within, ?_⟩
  rw [statements, run_eq_foldl division, finished.done]

section Measures

/-- A delimiter holds no line end where the text has one measure, so the line ends of a body are those
between its delimiters. -/
theorem lineEnds_body {tag taken : List Char} (fair : Fair ('$' :: (tag ++ '$' :: (taken ++ rest))))
    (measured : tag.length = utf8Length (tagOf tag))
    (named : (tagOf tag).head?.any isAsciiDigit = false)
    (closes : Closes ('$' :: (tag ++ ['$'])) taken rest) :
    lineEnds (inside ('$' :: (tag ++ '$' :: taken))) = lineEnds ('$' :: (tag ++ '$' :: taken)) := by
  have single := tag_of_fair fair (.inr (by rwa [tagOf_append]))
  rw [tagOf_append] at single
  have whole : tagOf tag = tag :=
    (List.takeWhile_sublist _).eq_of_length (single.symm.trans measured.symm)
  have absent : tag.count '\n' = 0 := by
    refine List.count_eq_zero_of_not_mem fun present => ?_
    rw [← whole] at present
    exact absurd (List.mem_takeWhile_imp present) (by decide)
  have split : '$' :: (tag ++ '$' :: taken) = '$' :: (tag ++ ['$']) ++ taken := by simp
  rw [inside_body (bodyDelimiter?_of_tag measured named taken) split]
  obtain ⟨-, ends⟩ := untilPart_of_closes (List.cons_ne_nil _ _) closes
  generalize untilPart ('$' :: (tag ++ ['$'])) taken = body at ends
  rcases ends with rfl | ⟨rfl, -, -⟩ <;> simp [lineEnds, absent]

/-- Where the text has one measure, all line ends of a region are counted. -/
theorem lineEnds_inside (fair : Fair (region ++ rest)) (starts : Protects .taken region rest) :
    lineEnds (inside region) = lineEnds region := by
  cases starts with
  | quoted quotes => rcases quotes with rfl | rfl <;> rfl
  | line => rfl
  | comment => rfl
  | body measured named closes =>
      rw [tagOf_append] at measured named
      refine lineEnds_body ?_ measured named closes
      simpa using fair

/-- Where the text has one measure, all line ends of a fragment are counted. -/
theorem lineEnds_counted (division : (regions .taken).Divides known content fragments)
    (regular : Regular fragments) :
    ∀ fragment ∈ fragments, lineEnds (counted fragment) = lineEnds (source fragment) := by
  induction division with
  | done => exact fun _ present => absurd present List.not_mem_nil
  | @part _ region _ fragments starts others inductionHypothesis =>
      have fair : Fair (region ++ fragments.flatMap source) := regular.1
      rw [others.flatMap_sourceOf] at fair
      exact List.forall_mem_cons.mpr ⟨lineEnds_inside fair starts, inductionHypothesis regular.2⟩
  | character _ _ inductionHypothesis =>
      exact List.forall_mem_cons.mpr ⟨rfl, inductionHypothesis regular.2⟩

/-- Where the text has one measure, the line behind some fragments is one more than the line ends in
front of it. -/
theorem lineBehind_of_regular
    (same : ∀ fragment ∈ fragments, lineEnds (counted fragment) = lineEnds (source fragment)) :
    lineBehind fragments = 1 + lineEnds (fragments.flatMap source) := by
  induction fragments with
  | nil => rfl
  | cons fragment fragments inductionHypothesis =>
      obtain ⟨first, others⟩ := List.forall_mem_cons.mp same
      have := inductionHypothesis others
      simp only [lineBehind, lineEnds, List.flatMap_cons, List.count_append] at first this ⊢
      omega

/-- The text has one measure behind fragments, too. -/
theorem Regular.of_append (regular : Regular (passed ++ fragments)) : Regular fragments := by
  induction passed with
  | nil => exact regular
  | cons _ _ inductionHypothesis => exact inductionHypothesis regular.2

/-- Where the text has one measure, a file ends within a comment by both measures or by none. -/
theorem closed_of_regular (regular : Regular fragments) (closed : Closed .meant fragments) :
    Closed .taken fragments := by
  intro region last unclosed
  obtain ⟨passed, rfl⟩ := List.getLast?_eq_some_iff.mp last
  have fair : Fair (region ++ []) := regular.of_append.1
  exact closed region last ((unclosed_iff_of_fair fair).mpr unclosed)

end Measures

/-- A file that does not end within a comment is laid out as its statements with blanks and semicolons
before, between and behind them, and the line of a statement is one more than the line ends in front of
it that are counted. Where the text has one measure, all of them are. -/
theorem statements_laid (content : List Char) :
    (∃ fragments, (∀ others, (regions .taken).Divides () content others ↔ others = fragments) ∧
      (Closed .taken fragments → ∃ found : List Place, Laid (found.map Place.fronted) content ∧
        (∀ place ∈ found, place.1 <+: fragments) ∧ statements content = found.map Place.located)) ∧
    ∃ fragments, (∀ others, (regions .meant).Divides () content others ↔ others = fragments) ∧
      (Regular fragments → Closed .meant fragments → ∃ places, Laid places content ∧
        statements content = places.map fun place => (1 + lineEnds place.1, place.2)) := by
  obtain ⟨taken, onlyTaken⟩ := (sharp_regions .taken).existsUnique_divides () content
  obtain ⟨meant, onlyMeant⟩ := (sharp_regions .meant).existsUnique_divides () content
  refine ⟨⟨taken, onlyTaken, exists_places ((onlyTaken taken).mpr rfl)⟩,
    ⟨meant, onlyMeant, fun regular closed => ?_⟩⟩
  have division := divides_of_regular ((onlyMeant meant).mpr rfl) regular
  obtain ⟨found, laid, within, lines⟩ := exists_places division (closed_of_regular regular closed)
  refine ⟨found.map Place.fronted, laid, ?_⟩
  rw [lines, List.map_map]
  refine List.map_congr_left fun place present => ?_
  have same := lineBehind_of_regular fun fragment inside =>
    lineEnds_counted division regular fragment ((within place present).subset inside)
  exact congrArg (·, place.2) same

/-- Three statements on the lines where they start, one of them with a line end and a semicolon in
quotes. -/
theorem statements_laid_mixed :
    let content := "a;\n'x\n;'\n;b".toList
    statements content = [(1, "a".toList), (2, "'x\n;'".toList), (4, "b".toList)] ∧
      ∃ fragments, (regions .meant).Divides () content fragments ∧ Regular fragments ∧
        Closed .meant fragments ∧ ∃ places, Laid places content ∧
          statements content = places.map fun place => (1 + lineEnds place.1, place.2) := by
  intro content
  obtain ⟨-, fragments, only, laid⟩ := statements_laid content
  have division : (regions .meant).Divides () content
      [.character 'a', .character ';', .character '\n', .part ['\'', 'x', '\n', ';', '\''],
        .character '\n', .character ';', .character 'b'] := by
    have same : content = ['a', ';', '\n', '\'', 'x', '\n', ';', '\'', '\n', ';', 'b'] := by
      decide +kernel
    rw [same]
    refine divides_plain (by decide) (divides_plain (by decide) (divides_plain (by decide) ?_))
    refine .of_eq rfl (.quoted (.inl rfl)
      (.later (by decide) (.later (by decide) (.later (by decide) .here)))) ?_
    exact divides_plain (by decide) (divides_plain (by decide) (divides_plain (by decide) .done))
  obtain rfl := (only _).mp division
  have placed := laid (by decide +kernel) fun region last => by cases last
  refine ⟨by decide +kernel, _, division, by decide +kernel, fun region last => ?_, placed⟩
  cases last

/-- Line ends in a delimiter are not counted, and a comment that is taken to begin within a quoted part
is closed behind the end of the file. -/
theorem statements_laid_otherwise :
    (let content := "SELECT $é\n$ a $é\n$;\nSELECT 2".toList;
      '/' ∉ content ∧ ∀ places, Laid places content →
        statements content ≠ places.map fun place => (1 + lineEnds place.1, place.2)) ∧
    let content := "/*/ ' */ ' /*'".toList
    (∃ fragments, (regions .meant).Divides () content fragments ∧ Closed .meant fragments) ∧
      ∀ places, Laid places content →
        statements content ≠ places.map fun place => (1 + lineEnds place.1, place.2) := by
  refine ⟨⟨by decide +kernel, fun places laid lines => ?_⟩, ?_, fun places laid lines => ?_⟩
  · have read : statements "SELECT $é\n$ a $é\n$;\nSELECT 2".toList =
        [(1, "SELECT $é\n$ a $é\n$".toList), (2, "SELECT 2".toList)] := by decide +kernel
    rw [read] at lines
    obtain ⟨first, others, rfl, -, lines⟩ := List.map_eq_cons_iff.mp lines.symm
    obtain ⟨last, others, rfl, found, none⟩ := List.map_eq_cons_iff.mp lines
    obtain rfl := List.map_eq_nil_iff.mp none
    obtain ⟨before, text⟩ := Prod.mk.inj found
    have split := Laid.eq_of_getLast? (show Laid ([first] ++ [last]) _ from laid)
      (show _ = some '2' by decide +kernel) (by decide)
    -- All three line ends stand in front of the second text.
    have ends : lineEnds ("SELECT $é\n$ a $é\n$;\nSELECT 2".toList) = 3 := by decide +kernel
    have within : "SELECT 2".toList.count '\n' = 0 := by decide +kernel
    rw [split, text, lineEnds, List.count_append, within] at ends
    unfold lineEnds at before
    omega
  · have same : "/*/ ' */ ' /*'".toList =
        ['/', '*', '/', ' ', '\'', ' ', '*', '/', ' ', '\'', ' ', '/', '*', '\''] := by decide +kernel
    refine ⟨[.part ['/', '*', '/', ' ', '\'', ' ', '*', '/'], .character ' ',
      .part ['\'', ' ', '/', '*', '\'']], ?_, fun region last => ?_⟩
    · rw [same]
      refine .of_eq rfl (.comment (.later (by decide) (.later (by decide) (.later (by decide)
        (.later (by decide) .here))))) (divides_plain (by decide) ?_)
      exact .of_eq rfl (.quoted (.inl rfl) (.later (by decide) (.later (by decide)
        (.later (by decide) .here)))) .done
    · obtain rfl : ['\'', ' ', '/', '*', '\''] = region := by simpa using last
      decide
  · have read : statements "/*/ ' */ ' /*'".toList = [(1, "/*/ ' */ ' /*'*/".toList)] := by
      decide +kernel
    rw [read] at lines
    obtain ⟨last, others, rfl, found, none⟩ := List.map_eq_cons_iff.mp lines.symm
    obtain rfl := List.map_eq_nil_iff.mp none
    have split := Laid.eq_of_getLast? (show Laid ([] ++ [last]) _ from laid)
      (show _ = some '\'' by decide +kernel) (by decide)
    have short : ("/*/ ' */ ' /*'".toList).length = 14 := by decide +kernel
    have long : ("/*/ ' */ ' /*'*/".toList).length = 16 := by decide +kernel
    rw [split, (Prod.mk.inj found).2, List.length_append, long] at short
    omega

end SchemaDrift.Sql.Script
