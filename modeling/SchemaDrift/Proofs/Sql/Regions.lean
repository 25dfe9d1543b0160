import SchemaDrift.Sql.Script
import SchemaDrift.Proofs.Text.Chars
import SchemaDrift.Proofs.Text.Division
import SchemaDrift.Proofs.Text.Utf8

/-
This file holds the regions of a file of statements in which semicolons do not count: quoted parts,
comments and dollar-quoted bodies. The reading of a file finds the regions that stand there, but for
two of its measures: the end of a comment between asterisks may start within its opening, and the tag
of a body is as long as its name characters have bytes.
-/

namespace SchemaDrift.Sql.Script

open Text

/-- How regions are measured: how many characters of a comment between asterisks are over before its
end may start, how long the tag with some name characters is, and what a tag must not start with. -/
structure Measure where
  opening : Nat
  tag : List Char → Nat
  digit : Char → Bool

/-- The end of a comment starts behind its two opening characters, and a tag is made of the name
characters. -/
def Measure.meant : Measure := ⟨2, List.length, isNumeric⟩

/-- The measures of the reading. -/
def Measure.taken : Measure := ⟨1, utf8Length, isAsciiDigit⟩

/-- A text goes on up to and with the first closing part, or to the end where none stands, and
something else follows. -/
inductive Closes (closing : List Char) : List Char → List Char → Prop where
  | here {rest : List Char} : Closes closing closing rest
  | never : Closes closing [] []
  | later {c : Char} {taken rest : List Char} (absent : ¬closing <+: c :: (taken ++ rest))
      (others : Closes closing taken rest) : Closes closing (c :: taken) rest

/-- The name characters at the start of a text. -/
def tagOf (text : List Char) : List Char := text.takeWhile isNamePart

/-- A region with what follows it: a part between quotes of one kind, a comment up to the end of the
line, a comment between asterisks, or a body between two tags in dollar signs. -/
inductive Protects (measure : Measure) : List Char → List Char → Prop where
  | quoted {quote : Char} {taken rest : List Char} (quotes : quote = '\'' ∨ quote = '"')
      (closes : Closes [quote] taken rest) : Protects measure (quote :: taken) rest
  | line {taken rest : List Char} (within : '\n' ∉ taken) (ends : ∀ c ∈ rest.head?, c = '\n') :
      Protects measure ('-' :: '-' :: taken) rest
  | comment {taken rest : List Char}
      (closes : Closes ['*', '/'] (['/', '*'].drop measure.opening ++ taken) rest) :
      Protects measure ('/' :: '*' :: taken) rest
  | body {tag taken rest : List Char}
      (measured : tag.length = measure.tag (tagOf (tag ++ '$' :: (taken ++ rest))))
      (named : (tagOf (tag ++ '$' :: (taken ++ rest))).head?.any measure.digit = false)
      (closes : Closes ('$' :: (tag ++ ['$'])) taken rest) :
      Protects measure ('$' :: (tag ++ '$' :: taken)) rest

/-- A file as a text with regions. -/
def regions (measure : Measure) : Markup Unit (List Char) where
  source := id
  starts _ := Protects measure
  behind _ _ := ()
  after _ _ := ()

/-- A comment between asterisks has no end. -/
def Unclosed (measure : Measure) (region : List Char) : Prop :=
  ['/', '*'] <+: region ∧ ¬['*', '/'] <:+ region.drop measure.opening

instance (measure : Measure) (region : List Char) : Decidable (Unclosed measure region) :=
  inferInstanceAs (Decidable (_ ∧ _))

/-- A region as it becomes part of a statement: a comment without end is closed. -/
def written (measure : Measure) (region : List Char) : List Char :=
  if Unclosed measure region then region ++ ['*', '/'] else region

/-- A region without the delimiters of a body. -/
def inside (region : List Char) : List Char :=
  if region.head? = some '$' then
    match bodyDelimiter? region with
    | some delimiter => untilPart delimiter (region.drop delimiter.length)
    | none => region
  else region

variable {measure : Measure} {closing taken rest region : List Char}

/-- What goes on up to a closing part does so in one way. -/
theorem Closes.unique (solid : closing ≠ []) {other left : List Char} (first : Closes closing taken rest)
    (second : Closes closing other left) (same : taken ++ rest = other ++ left) : taken = other := by
  induction first generalizing other with
  | here =>
      cases second with
      | here => rfl
      | never => exact absurd (List.append_eq_nil_iff.mp same).1 solid
      | later absent => exact absurd ⟨_, same⟩ absent
  | never =>
      cases second with
      | here => exact absurd (List.append_eq_nil_iff.mp same.symm).1 solid
      | never => rfl
      | later => cases same
  | later absent _ inductionHypothesis =>
      cases second with
      | here => exact absurd ⟨_, same.symm⟩ absent
      | never => cases same
      | later _ others =>
          obtain ⟨rfl, tails⟩ := List.cons.inj same
          rw [inductionHypothesis others tails]

/-- What goes on up to a closing part ends with it, or does not hold it and is all there is. -/
theorem Closes.ends (closes : Closes closing taken rest) :
    closing <:+ taken ∨ rest = [] := by
  induction closes with
  | here => exact .inl (List.suffix_refl closing)
  | never => exact .inr rfl
  | later _ _ inductionHypothesis => exact inductionHypothesis.imp_left (·.trans (List.suffix_cons _ _))

/-- What goes on up to a closing part has characters where the text has. -/
theorem Closes.ne_nil (solid : closing ≠ []) (closes : Closes closing taken rest)
    (filled : taken ++ rest ≠ []) : taken ≠ [] := by
  cases closes with
  | here => exact solid
  | never => exact filled
  | later => exact List.cons_ne_nil _ _

/-- Every region has characters. -/
theorem Protects.ne_nil (protects : Protects measure region rest) : region ≠ [] := by
  cases protects <;> exact List.cons_ne_nil _ _

/-- A body's tag is known by what follows the first dollar sign. -/
theorem tag_unique {tag other left right : List Char}
    (first : tag.length = measure.tag (tagOf (tag ++ left)))
    (second : other.length = measure.tag (tagOf (other ++ right)))
    (same : tag ++ left = other ++ right) : tag = other := by
  rw [same, ← second] at first
  exact (List.append_inj same first).1

/-- Two regions that start one text are the same. -/
theorem Protects.unique {other left : List Char} (first : Protects measure region rest)
    (second : Protects measure other left) (same : region ++ rest = other ++ left) : region = other := by
  cases first with
  | quoted quotes closes =>
      cases second with
      | quoted _ others =>
          obtain ⟨rfl, tails⟩ := List.cons.inj same
          rw [closes.unique (List.cons_ne_nil _ _) others tails]
      | line => rcases quotes with rfl | rfl <;> cases same
      | comment => rcases quotes with rfl | rfl <;> cases same
      | body => rcases quotes with rfl | rfl <;> cases same
  | @line taken _ within ends =>
      cases second with
      | quoted quotes => rcases quotes with rfl | rfl <;> cases same
      | @line other _ others finish =>
          have tails : taken ++ rest = other ++ left := (List.cons.inj (List.cons.inj same).2).2
          rw [← takeWhile_bne_of_head within ends, tails, takeWhile_bne_of_head others finish]
      | comment => cases same
      | body => cases same
  | @comment taken _ closes =>
      cases second with
      | quoted quotes => rcases quotes with rfl | rfl <;> cases same
      | line => cases same
      | @comment other _ others =>
          have tails : taken ++ rest = other ++ left := (List.cons.inj (List.cons.inj same).2).2
          have whole := closes.unique (List.cons_ne_nil _ _) others
            (by rw [List.append_assoc, tails, List.append_assoc])
          rw [List.append_cancel_left whole]
      | body => cases same
  | @body tag taken _ measured named closes =>
      cases second with
      | quoted quotes => rcases quotes with rfl | rfl <;> cases same
      | line => cases same
      | comment => cases same
      | @body again other _ others _ ending =>
          have tails : tag ++ '$' :: (taken ++ rest) = again ++ '$' :: (other ++ left) := by
            simpa using same
          obtain rfl := tag_unique measured others tails
          have bodies := (List.cons.inj (List.append_cancel_left tails)).2
          rw [closes.unique (List.cons_ne_nil _ _) ending bodies]

/-- No two regions start one text. -/
theorem sharp_regions (measure : Measure) : (regions measure).Sharp :=
  ⟨Protects.ne_nil, Protects.unique⟩

section Reading

/-- Every text goes on up to a closing part. -/
theorem exists_closes (closing text : List Char) :
    ∃ taken rest, taken ++ rest = text ∧ Closes closing taken rest := by
  induction text with
  | nil => exact ⟨[], [], rfl, .never⟩
  | cons c text inductionHypothesis =>
      by_cases starts : closing <+: c :: text
      · obtain ⟨rest, split⟩ := starts
        exact ⟨closing, rest, split, .here⟩
      · obtain ⟨taken, rest, rfl, closes⟩ := inductionHypothesis
        exact ⟨c :: taken, rest, rfl, .later starts closes⟩

/-- A quoted part goes on up to the same quote. -/
theorem quotedRest_of_closes {quote : Char} (closes : Closes [quote] taken rest) :
    quotedRest quote (taken ++ rest) = taken := by
  generalize single : [quote] = closing at closes
  induction closes with
  | here => simp [← single, quotedRest]
  | never => rfl
  | @later c _ _ absent _ inductionHypothesis =>
      have different : c ≠ quote := by
        rintro rfl
        exact absent (single ▸ ⟨_, rfl⟩)
      rw [List.cons_append, quotedRest, beq_false_of_ne different, inductionHypothesis]
      rfl

/-- What stands in front of the closing part is the same without what follows it. -/
theorem untilPart_of_closes (solid : closing ≠ []) (closes : Closes closing taken rest) :
    untilPart closing (taken ++ rest) = untilPart closing taken ∧
      (taken = untilPart closing taken ++ closing ∨
        taken = untilPart closing taken ∧ rest = [] ∧ ¬closing <:+ taken) := by
  induction closes with
  | here =>
      have stops : ∀ left : List Char, untilPart closing (closing ++ left) = [] := by
        intro left
        cases closing with
        | nil => exact absurd rfl solid
        | cons c closing =>
            exact if_pos ((startsWith_eq_true_iff _ _).mpr (List.prefix_append _ _))
      have alone := stops []
      rw [List.append_nil] at alone
      rw [stops, alone]
      exact ⟨rfl, .inl rfl⟩
  | never => exact ⟨rfl, .inr ⟨rfl, rfl, fun suffix => solid (List.suffix_nil.mp suffix)⟩⟩
  | @later c taken rest absent _ inductionHypothesis =>
      have short : ¬closing <+: c :: taken :=
        fun starts => absent (starts.trans (List.prefix_append (c :: taken) rest))
      have passes : ∀ text, ¬closing <+: c :: text →
          untilPart closing (c :: text) = c :: untilPart closing text :=
        fun text starts => if_neg fun found => starts ((startsWith_eq_true_iff _ _).mp found)
      obtain ⟨same, ends⟩ := inductionHypothesis
      rw [List.cons_append, passes _ absent, passes _ short, same]
      refine ⟨rfl, ends.imp (fun closed => ?_) fun ⟨whole, finished, unclosed⟩ => ?_⟩
      · rw [List.cons_append, ← closed]
      · refine ⟨by rw [← whole], finished, fun suffix => ?_⟩
        rcases List.suffix_cons_iff.mp suffix with all | later
        · exact short (all ▸ List.prefix_refl _)
        · exact unclosed later

/-- The name characters of a tag end at the dollar sign behind it. -/
theorem tagOf_append (tag left : List Char) : tagOf (tag ++ '$' :: left) = tagOf tag := by
  induction tag with
  | nil => exact List.takeWhile_cons_of_neg (by decide)
  | cons c tag inductionHypothesis =>
      unfold tagOf at inductionHypothesis ⊢
      rw [List.cons_append, List.takeWhile_cons, List.takeWhile_cons, inductionHypothesis]

/-- A character stands behind so many others. -/
theorem getElem?_eq_some_iff_append (text : List Char) (count : Nat) (c : Char) :
    text[count]? = some c ↔ ∃ left right, text = left ++ c :: right ∧ left.length = count := by
  constructor
  · intro found
    obtain ⟨within, rfl⟩ := List.getElem?_eq_some_iff.mp found
    refine ⟨text.take count, text.drop (count + 1), ?_, List.length_take_of_le (Nat.le_of_lt within)⟩
    rw [List.getElem_cons_drop, List.take_append_drop]
  · rintro ⟨left, right, rfl, rfl⟩
    rw [List.getElem?_append_right (Nat.le_refl _), Nat.sub_self, List.getElem?_cons_zero]

/-- A delimiter is read where as many characters as the name characters have bytes stand between two
dollar signs, unless these start with a digit. -/
theorem bodyDelimiter?_eq_some_iff (behind delimiter : List Char) :
    bodyDelimiter? ('$' :: behind) = some delimiter ↔
      ∃ tag left, behind = tag ++ '$' :: left ∧ delimiter = '$' :: (tag ++ ['$']) ∧
        tag.length = utf8Length (tagOf behind) ∧ (tagOf behind).head?.any isAsciiDigit = false := by
  have read : bodyDelimiter? ('$' :: behind) =
      if behind[utf8Length (tagOf behind)]? == some '$' && !(tagOf behind).head?.any isAsciiDigit then
        some ('$' :: behind.take (utf8Length (tagOf behind) + 1)) else none := by
    simp only [bodyDelimiter?, List.drop_one, List.tail_cons, Nat.add_comm 1,
      List.getElem?_cons_succ, List.take_succ_cons, tagOf]
    rfl
  rw [read]
  constructor
  · intro found
    split at found
    · rename_i closes
      rw [Bool.and_eq_true, beq_iff_eq, Bool.not_eq_true'] at closes
      obtain ⟨tag, left, split, length⟩ := (getElem?_eq_some_iff_append _ _ _).mp closes.1
      refine ⟨tag, left, split, ?_, length, closes.2⟩
      rw [← Option.some.inj found, ← length]
      rw [show behind.take (tag.length + 1) = tag ++ ['$'] by
        rw [split, List.take_length_add_append]; rfl]
    · cases found
  · rintro ⟨tag, left, split, rfl, length, digit⟩
    have closes := (getElem?_eq_some_iff_append _ _ _).mpr ⟨tag, left, split, length⟩
    rw [if_pos (by rw [Bool.and_eq_true, beq_iff_eq, Bool.not_eq_true']; exact ⟨closes, digit⟩), ← length, split,
      List.take_length_add_append]
    rfl

/-- A tag between two dollar signs is read as a delimiter, whatever follows. -/
theorem bodyDelimiter?_of_tag {tag : List Char} (measured : tag.length = utf8Length (tagOf tag))
    (named : (tagOf tag).head?.any isAsciiDigit = false) (left : List Char) :
    bodyDelimiter? ('$' :: (tag ++ '$' :: left)) = some ('$' :: (tag ++ ['$'])) :=
  (bodyDelimiter?_eq_some_iff _ _).mpr
    ⟨tag, left, rfl, rfl, by rwa [tagOf_append], by rwa [tagOf_append]⟩

theorem exists_protects {text : List Char} {found : Region} (read : region? text = some found) :
    ∃ region rest, region ++ rest = text ∧ Protects .taken region rest := by
  unfold region? at read
  split at read
  · cases read
  · rename_i c rest
    split at read
    · rename_i quotes
      obtain ⟨taken, left, rfl, closes⟩ := exists_closes [c] rest
      exact ⟨c :: taken, left, rfl, .quoted (by simpa using quotes) closes⟩
    split at read
    · rename_i lead
      obtain ⟨rest, rfl, rfl⟩ : ∃ left, c = '-' ∧ rest = '-' :: left := by
        cases rest <;> simp_all
      refine ⟨'-' :: '-' :: rest.takeWhile (· != '\n'), rest.dropWhile (· != '\n'), ?_, .line ?_ ?_⟩
      · rw [List.cons_append, List.cons_append, List.takeWhile_append_dropWhile]
      · exact fun present => by simpa using List.mem_takeWhile_imp present
      · intro d first
        have := List.head?_dropWhile_not (· != '\n') rest
        simp_all
    split at read
    · rename_i lead
      obtain ⟨rest, rfl, rfl⟩ : ∃ left, c = '/' ∧ rest = '*' :: left := by
        cases rest <;> simp_all
      obtain ⟨taken, left, split, closes⟩ := exists_closes ['*', '/'] ('*' :: rest)
      have filled := closes.ne_nil (List.cons_ne_nil _ _) (split ▸ List.cons_ne_nil _ _)
      obtain ⟨d, taken, rfl⟩ := List.exists_cons_of_ne_nil filled
      obtain ⟨rfl, rfl⟩ := List.cons.inj split
      exact ⟨'/' :: '*' :: taken, left, rfl, .comment closes⟩
    split at read
    · rename_i dollar
      obtain rfl : c = '$' := by simpa using dollar
      obtain ⟨delimiter, delimits, -⟩ := Option.bind_eq_some_iff.mp read
      obtain ⟨tag, behind, rfl, rfl, length, digit⟩ := (bodyDelimiter?_eq_some_iff _ _).mp delimits
      obtain ⟨taken, left, rfl, closes⟩ := exists_closes ('$' :: (tag ++ ['$'])) behind
      exact ⟨'$' :: (tag ++ '$' :: taken), left, by simp, .body length digit closes⟩
    · cases read

/-- A comment between asterisks is read up to the end that stands behind its first character. -/
theorem region?_comment (text : List Char) :
    region? ('/' :: '*' :: text) =
      some ⟨'/' :: untilPart ['*', '/'] ('*' :: text) ++ ['*', '/'],
        (untilPart ['*', '/'] ('*' :: text)).length + 3,
        lineEnds (untilPart ['*', '/'] ('*' :: text))⟩ := by
  have passes : untilPart ['*', '/'] ('/' :: '*' :: text) =
      '/' :: untilPart ['*', '/'] ('*' :: text) := rfl
  have read : region? ('/' :: '*' :: text) =
      some ⟨untilPart ['*', '/'] ('/' :: '*' :: text) ++ ['*', '/'],
        (untilPart ['*', '/'] ('/' :: '*' :: text)).length + 2,
        lineEnds (untilPart ['*', '/'] ('/' :: '*' :: text))⟩ := rfl
  rw [read, passes, lineEnds, List.count_cons_of_ne (by decide)]
  rfl

/-- A body is read up to the next delimiter and with it, or to the end of the text. -/
theorem region?_body {behind delimiter : List Char}
    (delimits : bodyDelimiter? ('$' :: behind) = some delimiter)
    (split : '$' :: behind = delimiter ++ (taken ++ rest)) (closes : Closes delimiter taken rest) :
    region? ('$' :: behind) =
      some ⟨delimiter ++ taken, (delimiter ++ taken).length, lineEnds (untilPart delimiter taken)⟩ := by
  have solid : delimiter ≠ [] := by
    rintro rfl
    obtain ⟨_, _, -, filled, -⟩ := (bodyDelimiter?_eq_some_iff _ _).mp delimits
    cases filled
  obtain ⟨same, ends⟩ := untilPart_of_closes solid closes
  have read : region? ('$' :: behind) = (bodyDelimiter? ('$' :: behind)).bind fun delimiter =>
      some (let text := ('$' :: behind).drop delimiter.length
        let body := untilPart delimiter text
        let closing := if body.length < text.length then delimiter else []
        ⟨delimiter ++ body ++ closing, delimiter.length + body.length + closing.length,
          lineEnds body⟩) := by
    unfold region?
    simp
  rw [read, delimits, Option.bind_some, split, List.drop_left]
  simp only [same]
  generalize untilPart delimiter taken = body at ends
  rcases ends with rfl | ⟨rfl, rfl, -⟩
  · have shorter : body.length < (body ++ delimiter ++ rest).length := by
      have := List.length_pos_iff.mpr solid
      simp only [List.length_append]
      omega
    simp only [if_pos shorter]
    simp [Nat.add_assoc]
  · simp

/-- Inside of a body is what stands up to the next delimiter. -/
theorem inside_body {behind delimiter text : List Char}
    (delimits : bodyDelimiter? ('$' :: behind) = some delimiter)
    (split : '$' :: behind = delimiter ++ text) :
    inside ('$' :: behind) = untilPart delimiter text := by
  rw [inside, if_pos List.head?_cons, delimits, split]
  exact congrArg _ List.drop_left

/-- A region is read in front of what follows it: all of it is passed over and becomes part of a
statement, and the line ends between the delimiters of a body, or in all of another region, are
counted. -/
def IsRead (region rest : List Char) : Prop :=
  ∃ found, region? (region ++ rest) = some found ∧ 0 < found.span ∧
    (region ++ rest).drop found.span = rest ∧ found.text = written .taken region ∧
    found.lines = lineEnds (inside region)

theorem isRead_quoted {quote : Char} (quotes : quote = '\'' ∨ quote = '"')
    (closes : Closes [quote] taken rest) : IsRead (quote :: taken) rest := by
  have found : region? (quote :: taken ++ rest) =
      some ⟨quote :: taken, 1 + taken.length, lineEnds taken⟩ := by
    rw [List.cons_append, region?, quotedRest_of_closes closes, if_pos (by simpa using quotes)]
  have plain : ¬Unclosed .taken (quote :: taken) := by
    rcases quotes with rfl | rfl <;> simp [Unclosed]
  refine ⟨_, found, Nat.lt_add_right _ Nat.one_pos, ?_, (if_neg plain).symm, ?_⟩
  · rw [List.cons_append, Nat.add_comm, List.drop_succ_cons, List.drop_left]
  · rcases quotes with rfl | rfl <;> simp [inside, lineEnds]

theorem isRead_line (within : '\n' ∉ taken) (ends : ∀ c ∈ rest.head?, c = '\n') :
    IsRead ('-' :: '-' :: taken) rest := by
  have comment : ('-' :: '-' :: taken ++ rest).takeWhile (· != '\n') = '-' :: '-' :: taken :=
    takeWhile_bne_of_head (by simpa using within) ends
  have found : region? ('-' :: '-' :: taken ++ rest) =
      some ⟨'-' :: '-' :: taken, taken.length + 2, 0⟩ := by
    have read : region? ('-' :: '-' :: taken ++ rest) =
        some ⟨('-' :: '-' :: taken ++ rest).takeWhile (· != '\n'),
          (('-' :: '-' :: taken ++ rest).takeWhile (· != '\n')).length, 0⟩ := rfl
    rw [read, comment]
    rfl
  refine ⟨_, found, Nat.succ_pos _, ?_, (if_neg ?_).symm, ?_⟩
  · exact @List.drop_left _ ('-' :: '-' :: taken) rest
  · simp [Unclosed]
  · simp [inside, lineEnds, List.count_eq_zero_of_not_mem within]

/-- A comment between asterisks is read, and closed where it has no end. -/
theorem isRead_comment (closes : Closes ['*', '/'] ('*' :: taken) rest) :
    IsRead ('/' :: '*' :: taken) rest := by
  obtain ⟨same, ends⟩ := untilPart_of_closes (List.cons_ne_nil _ _) closes
  have found := region?_comment (taken ++ rest)
  rw [List.cons_append] at same
  rw [same] at found
  have unclosed : Unclosed .taken ('/' :: '*' :: taken) ↔ ¬['*', '/'] <:+ '*' :: taken := by
    simp [Unclosed, Measure.taken]
  have outside : lineEnds (inside ('/' :: '*' :: taken)) = lineEnds ('*' :: taken) :=
    List.count_cons_of_ne (by decide)
  refine ⟨_, found, Nat.succ_pos _, ?_⟩
  generalize untilPart ['*', '/'] ('*' :: taken) = comment at ends
  simp only [written, unclosed, outside]
  rcases ends with closed | ⟨whole, rfl, absent⟩
  · rw [if_neg (not_not_intro ⟨_, closed.symm⟩), closed]
    refine ⟨?_, rfl, ?_⟩
    · exact List.drop_left' (by simp)
    · simp [lineEnds]
  · rw [if_pos absent, ← whole]
    exact ⟨List.drop_eq_nil_of_le (by simp), rfl, rfl⟩

theorem isRead_body {tag : List Char}
    (delimits : ∀ left, bodyDelimiter? ('$' :: (tag ++ '$' :: left)) = some ('$' :: (tag ++ ['$'])))
    (closes : Closes ('$' :: (tag ++ ['$'])) taken rest) :
    IsRead ('$' :: (tag ++ '$' :: taken)) rest := by
  have split : ∀ left, '$' :: (tag ++ '$' :: left) = '$' :: (tag ++ ['$']) ++ left := by simp
  have found := region?_body (delimits (taken ++ rest)) (split _) closes
  have within := inside_body (delimits taken) (split _)
  have plain : ¬Unclosed .taken ('$' :: (tag ++ '$' :: taken)) := by simp [Unclosed]
  rw [← split] at found
  have whole : '$' :: (tag ++ '$' :: (taken ++ rest)) = '$' :: (tag ++ '$' :: taken) ++ rest := by simp
  rw [whole] at found
  exact ⟨_, found, Nat.succ_pos _, List.drop_left, (if_neg plain).symm, congrArg lineEnds within.symm⟩

/-- A region that starts a text is read. -/
theorem Protects.isRead (protects : Protects .taken region rest) : IsRead region rest := by
  cases protects with
  | quoted quotes closes => exact isRead_quoted quotes closes
  | line within ends => exact isRead_line within ends
  | comment closes => exact isRead_comment closes
  | body measured named closes =>
      rw [tagOf_append] at measured named
      exact isRead_body (bodyDelimiter?_of_tag measured named) closes

end Reading

end SchemaDrift.Sql.Script
