import SchemaDrift.Text.Chars

/-
This file holds the byte side of text: the length of a text in UTF-8, and the reading of bytes that
need not be well formed, where each maximal ill-formed part becomes one replacement character.
-/

namespace SchemaDrift.Text

/-- The number of bytes of a character in UTF-8. -/
def utf8Width (c : Char) : Nat :=
  if c.toNat < 0x80 then 1 else if c.toNat < 0x800 then 2 else if c.toNat < 0x10000 then 3 else 4

/-- The number of bytes of a text in UTF-8. -/
def utf8Length (cs : List Char) : Nat := cs.foldr (fun c length => utf8Width c + length) 0

def utf8Bytes (c : Char) : List Nat :=
  let n := c.toNat
  if n < 0x80 then [n]
  else if n < 0x800 then [0xC0 + n / 64, 0x80 + n % 64]
  else if n < 0x10000 then [0xE0 + n / 4096, 0x80 + n / 64 % 64, 0x80 + n % 64]
  else [0xF0 + n / 262144, 0x80 + n / 4096 % 64, 0x80 + n / 64 % 64, 0x80 + n % 64]

def encodeUtf8 (cs : List Char) : List Nat := cs.flatMap utf8Bytes

/-- The character that stands for bytes that encode none. -/
def replacement : Char := Char.ofNat 0xFFFD

/-- The continuation bytes that may follow a first byte: how many, and the range of the first. -/
def continuation (first : Nat) : Option (Nat × Nat × Nat) :=
  if 0xC2 ≤ first && first ≤ 0xDF then some (1, 0x80, 0xBF)
  else if first == 0xE0 then some (2, 0xA0, 0xBF)
  else if first == 0xED then some (2, 0x80, 0x9F)
  else if 0xE1 ≤ first && first ≤ 0xEF then some (2, 0x80, 0xBF)
  else if first == 0xF0 then some (3, 0x90, 0xBF)
  else if 0xF1 ≤ first && first ≤ 0xF3 then some (3, 0x80, 0xBF)
  else if first == 0xF4 then some (3, 0x80, 0x8F)
  else none

/-- Reads up to `wanted` continuation bytes, the first of them between `low` and `high`; the answer
is the value so far, the number of bytes still wanted, and the rest. -/
def readContinuation (wanted low high value : Nat) : List Nat → Nat × Nat × List Nat
  | [] => (value, wanted, [])
  | byte :: rest =>
    match wanted with
    | 0 => (value, 0, byte :: rest)
    | more + 1 =>
      if low ≤ byte && byte ≤ high then
        readContinuation more 0x80 0xBF (value * 64 + byte % 64) rest
      else (value, more + 1, byte :: rest)

/-- What is left after a run of continuation bytes is no longer than before. -/
theorem readContinuation_length_le (wanted low high value : Nat) (bytes : List Nat) :
    (readContinuation wanted low high value bytes).2.2.length ≤ bytes.length := by
  induction bytes generalizing wanted low high value with
  | nil => simp [readContinuation]
  | cons byte rest inductionHypothesis =>
    cases wanted with
    | zero => simp [readContinuation]
    | succ more =>
      simp only [readContinuation]
      split
      · exact Nat.le_succ_of_le (inductionHypothesis _ _ _ _)
      · simp

/-- The text that a sequence of bytes encodes; ill-formed parts become replacement characters. -/
def decodeUtf8 (bytes : List Nat) : List Char :=
  match bytes with
  | [] => []
  | byte :: rest =>
    if byte < 0x80 then Char.ofNat byte :: decodeUtf8 rest
    else match continuation byte with
      | none => replacement :: decodeUtf8 rest
      | some (count, low, high) =>
        let mask := if count == 1 then 0x20 else if count == 2 then 0x10 else 0x08
        let read := readContinuation count low high (byte % mask) rest
        if read.2.1 == 0 then Char.ofNat read.1 :: decodeUtf8 read.2.2
        else replacement :: decodeUtf8 read.2.2
termination_by bytes.length
decreasing_by
  · exact Nat.lt_succ_self _
  · exact Nat.lt_succ_self _
  · exact Nat.lt_succ_of_le (readContinuation_length_le _ _ _ _ _)
  · exact Nat.lt_succ_of_le (readContinuation_length_le _ _ _ _ _)

/-- The text that a sequence of bytes encodes, if all of it is well formed. -/
def decodeUtf8? (bytes : List Nat) : Option (List Char) :=
  let text := decodeUtf8 bytes
  if encodeUtf8 text == bytes then some text else none

/-- The bytes that pairs of hexadecimal digits write; what is no pair is passed over. -/
def bytesOfHex : List Char → List Nat
  | high :: low :: rest =>
    match hexDigit? high, hexDigit? low with
    | some high, some low => (high * 16 + low) :: bytesOfHex rest
    | _, _ => bytesOfHex rest
  | _ => []

end SchemaDrift.Text
