import SchemaDrift.Text.Utf8

namespace SchemaDrift.Text

/-- A character has at least one byte. -/
theorem one_le_utf8Width (c : Char) : 1 ≤ utf8Width c := by
  unfold utf8Width
  repeat' split
  all_goals omega

/-- A text has at least as many bytes as characters. -/
theorem length_le_utf8Length (cs : List Char) : cs.length ≤ utf8Length cs := by
  induction cs with
  | nil => exact Nat.le_refl _
  | cons c cs inductionHypothesis =>
      have width := one_le_utf8Width c
      rw [utf8Length] at inductionHypothesis ⊢
      rw [List.length_cons, List.foldr_cons]
      omega

/-- A text has as many bytes as characters exactly when it is written in ASCII. -/
theorem utf8Length_eq_length_iff (cs : List Char) :
    utf8Length cs = cs.length ↔ ∀ c ∈ cs, c.toNat < 128 := by
  induction cs with
  | nil => simp [utf8Length]
  | cons c cs inductionHypothesis =>
      have width : utf8Width c = 1 ↔ c.toNat < 128 := by
        unfold utf8Width
        repeat' split
        all_goals omega
      have least := one_le_utf8Width c
      have rest := length_le_utf8Length cs
      have same : utf8Length (c :: cs) = utf8Width c + utf8Length cs := rfl
      rw [List.forall_mem_cons, ← inductionHypothesis, ← width, same, List.length_cons]
      omega

/-- A continuation byte within its range adds six bits to the value. -/
theorem readContinuation_cons {more low high value byte : Nat} (above : low ≤ byte)
    (below : byte ≤ high) (rest : List Nat) :
    readContinuation (more + 1) low high value (byte :: rest) =
      readContinuation more 0x80 0xBF (value * 64 + byte % 64) rest := by
  rw [readContinuation]
  simp [above, below]

/-- Nothing is read when no continuation byte is wanted any more. -/
theorem readContinuation_zero (low high value : Nat) (rest : List Nat) :
    readContinuation 0 low high value rest = (value, 0, rest) := by
  cases rest <;> rfl

/-- A first byte with the continuation bytes that it asks for is one character. -/
theorem decodeUtf8_of_continuation {first count low high mask : Nat} {bytes rest : List Nat}
    {c : Char} (large : 0x80 ≤ first) (wanted : continuation first = some (count, low, high))
    (masked : mask = if count == 1 then 0x20 else if count == 2 then 0x10 else 0x08)
    (read : readContinuation count low high (first % mask) (bytes ++ rest) = (c.toNat, 0, rest)) :
    decodeUtf8 (first :: (bytes ++ rest)) = c :: decodeUtf8 rest := by
  subst masked
  rw [decodeUtf8, if_neg (Nat.not_lt.mpr large)]
  simp only [wanted, read]
  rw [if_pos (by decide), Char.ofNat_toNat]

/-- The first of two bytes asks for one more. -/
theorem continuation_two {n : Nat} (least : 0x80 ≤ n) (below : n < 0x800) :
    continuation (0xC0 + n / 64) = some (1, 0x80, 0xBF) := by
  rw [continuation, if_pos]
  rw [Bool.and_eq_true, decide_eq_true_eq, decide_eq_true_eq]
  omega

/-- The first of three bytes asks for two more, and allows the first of them. -/
theorem continuation_three {n : Nat} (least : 0x800 ≤ n) (below : n < 0x10000)
    (valid : n < 0xD800 ∨ 0xDFFF < n) :
    ∃ low high, continuation (0xE0 + n / 4096) = some (2, low, high) ∧
      low ≤ 0x80 + n / 64 % 64 ∧ 0x80 + n / 64 % 64 ≤ high := by
  unfold continuation
  simp only [Bool.and_eq_true, decide_eq_true_eq, beq_iff_eq]
  rw [if_neg (by omega)]
  split
  · exact ⟨_, _, rfl, by omega, by omega⟩
  · split
    · exact ⟨_, _, rfl, by omega, by omega⟩
    · rw [if_pos (by omega)]
      exact ⟨_, _, rfl, by omega, by omega⟩

/-- The first of four bytes asks for three more, and allows the first of them. -/
theorem continuation_four {n : Nat} (least : 0x10000 ≤ n) (below : n < 0x110000) :
    ∃ low high, continuation (0xF0 + n / 262144) = some (3, low, high) ∧
      low ≤ 0x80 + n / 4096 % 64 ∧ 0x80 + n / 4096 % 64 ≤ high := by
  unfold continuation
  simp only [Bool.and_eq_true, decide_eq_true_eq, beq_iff_eq]
  rw [if_neg (by omega), if_neg (by omega), if_neg (by omega), if_neg (by omega)]
  split
  · exact ⟨_, _, rfl, by omega, by omega⟩
  · split
    · exact ⟨_, _, rfl, by omega, by omega⟩
    · rw [if_pos (by omega)]
      exact ⟨_, _, rfl, by omega, by omega⟩

/-- A character is read from its bytes, before all that follows them. -/
theorem decodeUtf8_utf8Bytes (c : Char) (rest : List Nat) :
    decodeUtf8 (utf8Bytes c ++ rest) = c :: decodeUtf8 rest := by
  have valid : c.toNat < 0xD800 ∨ 0xDFFF < c.toNat ∧ c.toNat < 0x110000 := c.valid
  unfold utf8Bytes
  simp only
  split
  · rename_i one
    rw [List.singleton_append, decodeUtf8, if_pos one, Char.ofNat_toNat]
  · split
    · refine decodeUtf8_of_continuation (by omega) (continuation_two (by omega) (by omega)) rfl ?_
      rw [List.singleton_append, readContinuation_cons (by omega) (by omega), readContinuation_zero]
      exact Prod.ext (by simp; omega) rfl
    · split
      · obtain ⟨low, high, wanted, above, below⟩ :=
          continuation_three (n := c.toNat) (by omega) (by omega) (by omega)
        refine decodeUtf8_of_continuation (by omega) wanted rfl ?_
        rw [List.cons_append, readContinuation_cons above below, List.singleton_append,
          readContinuation_cons (by omega) (by omega), readContinuation_zero]
        exact Prod.ext (by simp; omega) rfl
      · obtain ⟨low, high, wanted, above, below⟩ :=
          continuation_four (n := c.toNat) (by omega) (by omega)
        refine decodeUtf8_of_continuation (by omega) wanted rfl ?_
        rw [List.cons_append, readContinuation_cons above below, List.cons_append,
          readContinuation_cons (by omega) (by omega), List.singleton_append,
          readContinuation_cons (by omega) (by omega), readContinuation_zero]
        exact Prod.ext (by simp; omega) rfl

/-- A text is read from its bytes. -/
theorem decodeUtf8_encodeUtf8 (cs : List Char) : decodeUtf8 (encodeUtf8 cs) = cs := by
  rw [encodeUtf8]
  induction cs with
  | nil => rw [List.flatMap_nil, decodeUtf8]
  | cons c cs inductionHypothesis =>
      rw [List.flatMap_cons, decodeUtf8_utf8Bytes, inductionHypothesis]

/-- The bytes of a text are well formed, and are the text. -/
theorem decodeUtf8?_encodeUtf8 (cs : List Char) : decodeUtf8? (encodeUtf8 cs) = some cs := by
  rw [decodeUtf8?, decodeUtf8_encodeUtf8]
  simp

/-- Two texts have the same bytes only when they are the same. -/
theorem encodeUtf8_inj {first second : List Char} :
    encodeUtf8 first = encodeUtf8 second ↔ first = second := by
  constructor
  · intro same
    have decoded := congrArg decodeUtf8 same
    rwa [decodeUtf8_encodeUtf8, decodeUtf8_encodeUtf8] at decoded
  · rintro rfl
    rfl

end SchemaDrift.Text
