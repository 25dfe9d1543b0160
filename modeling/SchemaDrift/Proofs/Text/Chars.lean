import Mathlib.Data.List.TakeWhile
import SchemaDrift.Text.Chars

namespace SchemaDrift.Text

/-- What holds of the first 128 characters holds of every character of ASCII. -/
theorem forall_ascii (property : Char → Prop) (checked : ∀ n < 128, property (Char.ofNat n))
    {c : Char} (ascii : c.toNat < 128) : property c := by
  have same := checked c.toNat ascii
  rwa [Char.ofNat_toNat] at same

/-- A run of characters goes on to the first that is no part of it. -/
theorem span_append {part : Char → Bool} {run rest : List Char}
    (parts : ∀ c ∈ run, part c = true) (ends : ∀ c ∈ rest.head?, part c = false) :
    (run ++ rest).takeWhile part = run ∧ (run ++ rest).dropWhile part = rest := by
  have stopped : rest.takeWhile part = [] ∧ rest.dropWhile part = rest := by
    cases rest with
    | nil => exact ⟨rfl, rfl⟩
    | cons c rest => simp [ends c rfl]
  rw [List.takeWhile_append_of_pos parts, List.dropWhile_append_of_pos parts, stopped.1, stopped.2,
    List.append_nil]
  exact ⟨rfl, rfl⟩

/-- Something follows a lead exactly where the lead stands in front of it. -/
theorem dropLead?_eq_some_iff (lead cs rest : List Char) :
    dropLead? lead cs = some rest ↔ cs = lead ++ rest := by
  induction lead generalizing cs with
  | nil => simp [dropLead?]
  | cons first lead inductionHypothesis =>
      cases cs with
      | nil => simp [dropLead?]
      | cons c cs =>
          by_cases same : first = c
          · simp [dropLead?, same, inductionHypothesis]
          · simp [dropLead?, same, Ne.symm same]

/-- A text starts with a lead when something, possibly nothing, follows the lead in it. -/
theorem startsWith_iff (lead cs : List Char) :
    startsWith lead cs = true ↔ ∃ rest, cs = lead ++ rest := by
  simp [startsWith, Option.isSome_iff_exists, dropLead?_eq_some_iff]

/-- A text starts with a lead when the lead is a first part of it. -/
theorem startsWith_eq_true_iff (lead cs : List Char) : startsWith lead cs = true ↔ lead <+: cs := by
  rw [startsWith_iff]
  exact exists_congr fun rest => eq_comm

/-- Something precedes a tail exactly where the tail stands behind it. -/
theorem dropTail?_eq_some_iff (tail cs rest : List Char) :
    dropTail? tail cs = some rest ↔ cs = rest ++ tail := by
  simp only [dropTail?, Option.map_eq_some_iff, dropLead?_eq_some_iff]
  constructor
  · rintro ⟨reversed, split, rfl⟩
    rw [← List.reverse_inj, split]
    simp
  · rintro rfl
    exact ⟨rest.reverse, by simp, by simp⟩

/-- A text without blanks at its ends is trimmed already. -/
theorem trim_eq_self {cs : List Char} (front : ∀ c ∈ cs.head?, isBlank c = false)
    (back : ∀ c ∈ cs.getLast?, isBlank c = false) : trim cs = cs := by
  have dropped : ∀ {text : List Char}, (∀ c ∈ text.head?, isBlank c = false) →
      text.dropWhile isBlank = text := by
    intro text first
    cases text with
    | nil => rfl
    | cons c rest => rw [List.dropWhile_cons_of_neg (by simp [first c rfl])]
  rw [trim, trimStart, dropped front, trimEnd, dropWhileEnd, dropped, List.reverse_reverse]
  intro c last
  exact back c (by rwa [← List.head?_reverse])

/-- Trimming makes no text longer. -/
theorem length_trim_le (text : List Char) : (trim text).length ≤ text.length := by
  have front := List.length_dropWhile_le isBlank text
  have back := List.length_dropWhile_le isBlank (trimStart text).reverse
  rw [List.length_reverse] at back
  rw [trim, trimEnd, dropWhileEnd, List.length_reverse]
  exact back.trans front

theorem ends_of_trim {cs : List Char} (trimmed : trim cs = cs) :
    (∀ c ∈ cs.head?, isBlank c = false) ∧ ∀ c ∈ cs.getLast?, isBlank c = false := by
  constructor
  · intro c first
    by_contra blank
    rw [Bool.not_eq_false] at blank
    obtain ⟨rest, rfl⟩ := List.head?_eq_some_iff.mp first
    have passed : trim (c :: rest) = trim rest := by
      rw [trim, trimStart, List.dropWhile_cons_of_pos blank]
      rfl
    have longer := length_trim_le rest
    rw [← passed, trimmed] at longer
    exact Nat.not_succ_le_self _ longer
  · intro c last
    have solid := List.head?_dropWhile_not isBlank (trimStart cs).reverse
    rw [← trimmed, trim, trimEnd, dropWhileEnd, List.getLast?_reverse, Option.mem_def] at last
    rwa [last] at solid

/-- Blanks around a text are trimmed away with its own. -/
theorem trim_surrounded {before behind : List Char} (leading : ∀ c ∈ before, isBlank c = true)
    (trailing : ∀ c ∈ behind, isBlank c = true) (text : List Char) :
    trim (before ++ text ++ behind) = trim text := by
  have started : trimStart (before ++ text ++ behind) = trimStart (text ++ behind) := by
    rw [trimStart, List.append_assoc, List.dropWhile_append_of_pos leading]
    rfl
  have ended : ∀ cs, trimEnd (cs ++ behind) = trimEnd cs := by
    intro cs
    have passed : ∀ c ∈ behind.reverse, isBlank c = true :=
      fun c present => trailing c (List.mem_reverse.mp present)
    rw [trimEnd, dropWhileEnd, List.reverse_append, List.dropWhile_append_of_pos passed]
    rfl
  rw [trim, started, trimStart, List.dropWhile_append]
  split
  · rename_i blank
    rw [List.isEmpty_iff] at blank
    rw [List.dropWhile_eq_nil_iff.mpr trailing, trim, trimStart, blank]
  · exact ended _

/-- A text of blanks is trimmed away. -/
theorem trim_of_blank {cs : List Char} (blank : ∀ c ∈ cs, isBlank c = true) : trim cs = [] := by
  rw [trim, trimStart, List.dropWhile_eq_nil_iff.mpr blank]
  rfl

/-- Of a text that does not start with a blank, the blanks at the end are trimmed away. -/
theorem exists_trim {c : Char} (solid : isBlank c = false) {lead : List Char}
    (blank : ∀ d ∈ lead, isBlank d = true) (more : List Char) :
    ∃ text tail, trim (lead ++ c :: more) = text ∧ c :: more = text ++ tail ∧ text ≠ [] ∧
      trim text = text ∧ ∀ d ∈ tail, isBlank d = true := by
  have started : trim (lead ++ c :: more) = trimEnd (c :: more) := by
    rw [trim, trimStart, List.dropWhile_append_of_pos blank, List.dropWhile_cons_of_neg (by simp [solid])]
  have split : c :: more = trimEnd (c :: more) ++ ((c :: more).reverse.takeWhile isBlank).reverse := by
    rw [trimEnd, dropWhileEnd, ← List.reverse_append, List.takeWhile_append_dropWhile,
      List.reverse_reverse]
  have trailing : ∀ d ∈ ((c :: more).reverse.takeWhile isBlank).reverse, isBlank d = true :=
    fun d present => List.mem_takeWhile_imp (List.mem_reverse.mp present)
  have finished : ∀ d ∈ (trimEnd (c :: more)).getLast?, isBlank d = false := by
    intro d last
    have := List.head?_dropWhile_not isBlank (c :: more).reverse
    rw [trimEnd, dropWhileEnd, List.getLast?_reverse, Option.mem_def] at last
    rwa [last] at this
  refine ⟨_, _, started, split, fun empty => ?_, trim_eq_self (fun d first => ?_) finished, trailing⟩
  · rw [empty, List.nil_append] at split
    have := trailing c (split ▸ List.mem_cons_self)
    simp [solid] at this
  · cases trimmed : trimEnd (c :: more) with
    | nil => simp [trimmed] at first
    | cons e text =>
        rw [trimmed] at split first
        obtain ⟨rfl, -⟩ := List.cons.inj split
        exact Option.some.inj first ▸ solid

/-- A character that stands in a text stands in it for a last time. -/
theorem exists_append_of_mem {c : Char} {text : List Char} (present : c ∈ text) :
    ∃ front last, text = front ++ c :: last ∧ c ∉ last := by
  obtain ⟨last, front, split, absent⟩ := List.eq_append_cons_of_mem (List.mem_reverse.mpr present)
  refine ⟨front.reverse, last.reverse, ?_, fun within => absent (List.mem_reverse.mp within)⟩
  rw [← List.reverse_reverse text, split, List.reverse_append, List.reverse_cons, List.append_assoc]
  rfl

/-- Two texts joined with a separator are two others joined with it when they are the same texts, or
when one of the left texts goes on over a further separator. -/
theorem append_separator_eq_iff {separator : Char} {left right other more : List Char} :
    left ++ separator :: right = other ++ separator :: more ↔
      (left = other ∧ right = more) ∨
        (∃ middle, other = left ++ separator :: middle ∧ right = middle ++ separator :: more) ∨
          ∃ middle, left = other ++ separator :: middle ∧ more = middle ++ separator :: right := by
  constructor
  · intro same
    rcases List.append_eq_append_iff.mp same with ⟨between, split, tail⟩ | ⟨between, split, tail⟩
    · cases between with
      | nil =>
          rw [List.append_nil] at split
          exact .inl ⟨split.symm, (List.cons.inj tail).2⟩
      | cons c middle =>
          obtain ⟨rfl, shape⟩ := List.cons.inj tail
          exact .inr (.inl ⟨middle, split, shape⟩)
    · cases between with
      | nil =>
          rw [List.append_nil] at split
          exact .inl ⟨split, (List.cons.inj tail).2.symm⟩
      | cons c middle =>
          obtain ⟨rfl, shape⟩ := List.cons.inj tail
          exact .inr (.inr ⟨middle, split, shape⟩)
  · rintro (⟨rfl, rfl⟩ | ⟨middle, rfl, rfl⟩ | ⟨middle, rfl, rfl⟩)
    · rfl
    · simp
    · simp

theorem splitOnce_append {separator : Char} {left : List Char} (absent : separator ∉ left)
    (right : List Char) : splitOnce separator (left ++ separator :: right) = some (left, right) := by
  induction left with
  | nil => simp [splitOnce]
  | cons c left inductionHypothesis =>
      rw [List.mem_cons, not_or] at absent
      simp [splitOnce, Ne.symm absent.1, inductionHypothesis absent.2]

/-- A text without the separator is its only part. -/
theorem splitOn_of_notMem {separator : Char} {text : List Char} (absent : separator ∉ text) :
    splitOn separator text = [text] := by
  induction text with
  | nil => rfl
  | cons c text inductionHypothesis =>
      rw [List.mem_cons, not_or] at absent
      simp [splitOn, Ne.symm absent.1, inductionHypothesis absent.2]

/-- The first part of a text ends at the first separator. -/
theorem splitOn_append {separator : Char} {left : List Char} (absent : separator ∉ left)
    (right : List Char) :
    splitOn separator (left ++ separator :: right) = left :: splitOn separator right := by
  induction left with
  | nil => simp [splitOn]
  | cons c left inductionHypothesis =>
      rw [List.mem_cons, not_or] at absent
      simp [splitOn, Ne.symm absent.1, inductionHypothesis absent.2]

/-- What is taken up to a character is all of a text without it, where nothing else follows. -/
theorem takeWhile_bne_of_head {stop : Char} {left rest : List Char} (absent : stop ∉ left)
    (ends : ∀ c ∈ rest.head?, c = stop) : (left ++ rest).takeWhile (· != stop) = left := by
  have before : ∀ c ∈ left, (c != stop) = true :=
    fun c present => bne_iff_ne.mpr fun same => absent (same ▸ present)
  refine (span_append before fun c first => ?_).1
  rw [ends c first]
  exact bne_self_eq_false stop

/-- What is taken up to a character ends where it first stands. -/
theorem takeWhile_bne_append {stop : Char} {left : List Char} (absent : stop ∉ left)
    (right : List Char) : (left ++ stop :: right).takeWhile (· != stop) = left :=
  takeWhile_bne_of_head absent fun _ first => (Option.some.inj first).symm

/-- What is taken up to a character that does not stand in a text is all of it. -/
theorem takeWhile_bne_of_notMem {stop : Char} {text : List Char} (absent : stop ∉ text) :
    text.takeWhile (· != stop) = text := by
  rw [List.takeWhile_eq_self_iff]
  intro c present
  exact bne_iff_ne.mpr fun same => absent (same ▸ present)

theorem isAsciiDigit_of_mem_toDigits {n : Nat} {c : Char} (present : c ∈ Nat.toDigits 10 n) :
    isAsciiDigit c = true := by
  have digit := Nat.isDigit_of_mem_toDigits (by decide) (by decide) present
  simpa [Char.isDigit, isAsciiDigit, Char.le_def] using digit

/-- A digit is neither a blank nor one of the marks between numbers. -/
theorem digit_plain {c : Char} (digit : isAsciiDigit c = true) :
    isBlank c = false ∧ c ≠ '(' ∧ c ≠ ')' ∧ c ≠ ',' ∧ c ≠ '+' ∧ lowerAscii c = c ∧ c.toNat < 128 := by
  have bounds : '0' ≤ c ∧ c ≤ '9' := by simpa [isAsciiDigit] using digit
  have ascii : c.toNat < 128 := Nat.lt_of_le_of_lt (Char.le_def.mp bounds.2) (by decide)
  revert digit
  exact forall_ascii (fun c => isAsciiDigit c = true → isBlank c = false ∧ c ≠ '(' ∧
    c ≠ ')' ∧ c ≠ ',' ∧ c ≠ '+' ∧ lowerAscii c = c ∧ c.toNat < 128) (by decide) ascii

/-- The value of the digits of a number is the number. -/
theorem digitsValue_toDigits (n : Nat) : digitsValue (Nat.toDigits 10 n) = n := by
  have same : ∀ (cs : List Char) (value : Nat), cs.foldl (fun value c =>
      value * 10 + (c.toNat - '0'.toNat)) value = Nat.ofDigitChars 10 cs value := by
    intro cs
    induction cs with
    | nil => simp
    | cons c cs inductionHypothesis =>
        intro value
        rw [List.foldl_cons, inductionHypothesis, Nat.ofDigitChars_cons, Nat.mul_comm]
  rw [digitsValue, same, Nat.ofDigitChars_ten_toDigits]

/-- The digits of a number within a bound are read back. -/
theorem boundedNat?_toDigits {bound n : Nat} (within : n ≤ bound) :
    boundedNat? bound (Nat.toDigits 10 n) = some n := by
  have digits : ∀ c ∈ Nat.toDigits 10 n, isAsciiDigit c = true :=
    fun c present => isAsciiDigit_of_mem_toDigits present
  have nonempty : (Nat.toDigits 10 n).isEmpty = false :=
    List.isEmpty_eq_false_iff.mpr Nat.toDigits_ne_nil
  rw [boundedNat?]
  · simp [nonempty, List.all_eq_true.mpr digits, digitsValue_toDigits, within]
  · intro rest same
    have plus := digits '+' (same ▸ List.mem_cons_self)
    exact absurd plus (by decide)

theorem eq_digitsValue_of_boundedNat? {bound n : Nat} {cs : List Char}
    (digits : ∀ c ∈ cs, isAsciiDigit c = true) (read : boundedNat? bound cs = some n) :
    n = digitsValue cs := by
  have unsigned : ∀ rest, cs = '+' :: rest → False := by
    rintro rest rfl
    exact absurd (digits '+' List.mem_cons_self) (by decide)
  rw [boundedNat?] at read
  · split at read
    · cases read
    · split at read
      · exact (Option.some.inj read).symm
      · cases read
  · exact unsigned

/-- The digits of a number have no blanks to trim. -/
theorem trim_toDigits (n : Nat) : trim (Nat.toDigits 10 n) = Nat.toDigits 10 n := by
  have plain : ∀ c ∈ Nat.toDigits 10 n, isBlank c = false :=
    fun c present => (digit_plain (isAsciiDigit_of_mem_toDigits present)).1
  exact trim_eq_self (fun c first => plain c (List.mem_of_mem_head? first))
    (fun c last => plain c (List.mem_of_mem_getLast? last))

/-- The lower-case form of a text of ASCII is that of its characters. -/
theorem lower_of_ascii {cs : List Char} (ascii : ∀ c ∈ cs, c.toNat < 128) :
    lower cs = cs.map lowerAscii := by
  rw [lower, if_pos]
  simpa [List.all_eq_true] using ascii

end SchemaDrift.Text
