import SchemaDrift.Proofs.Text.Words
import SchemaDrift.Settings.Basic

namespace SchemaDrift

open Text

def address (scheme user password remainder : List Char) : List Char :=
  scheme ++ [':', '/', '/'] ++ (user ++ ':' :: (password ++ '@' :: remainder))

def pairs (left key value right : List Char) : List Char := left ++ (key ++ '=' :: (value ++ right))

variable {scheme user password remainder : List Char}

/-- What stands in front of the last at sign is known by it. -/
theorem dropWhile_reverse_append {front last : List Char} (absent : '@' ∉ last) :
    (front ++ '@' :: last).reverse.dropWhile (· != '@') = '@' :: front.reverse := by
  have passed : ∀ c ∈ last.reverse, (c != '@') = true := by
    intro c present
    exact bne_iff_ne.mpr fun same => absent (same ▸ List.mem_reverse.mp present)
  rw [List.reverse_append, List.reverse_cons, List.append_assoc, List.dropWhile_append_of_pos passed]
  rfl

/-- What stands between the first colon and the last at sign of the authority is hidden. -/
theorem redactUrl_of_user {secret last path : List Char} (named : ':' ∉ scheme) (short : ':' ∉ user)
    (front : '/' ∉ user ++ ':' :: secret) (host : '@' ∉ last ∧ '/' ∉ last)
    (behind : ∀ c ∈ path.head?, c = '/') :
    redactUrl (String.ofList (scheme ++ [':', '/', '/'] ++
        (user ++ ':' :: secret ++ '@' :: last ++ path))) =
      String.ofList (scheme ++ [':', '/', '/'] ++ user ++ [':', '*', '*', '*'] ++ ('@' :: last ++ path)) := by
  have split : splitOncePart "://".toList (scheme ++ [':', '/', '/'] ++
      (user ++ ':' :: secret ++ '@' :: last ++ path)) =
        some (scheme, user ++ ':' :: secret ++ '@' :: last ++ path) :=
    splitOncePart_append named ['/', '/'] _
  have authority : (user ++ ':' :: secret ++ '@' :: last ++ path).takeWhile (· != '/') =
      user ++ ':' :: secret ++ '@' :: last := by
    refine takeWhile_bne_of_head ?_ behind
    simp only [List.mem_append, List.mem_cons, not_or] at front ⊢
    exact ⟨front, by decide, host.2⟩
  have dropped : (user ++ ':' :: secret ++ '@' :: last ++ path).drop (user ++ ':' :: secret).length =
      '@' :: last ++ path := by
    rw [List.append_assoc, List.drop_left]
  unfold redactUrl
  simp only [String.toList_ofList, split, authority, dropWhile_reverse_append host.1, List.reverse_reverse,
    splitOnce_append short, dropped]
  rfl

/-- An address without an at sign in its authority stays as it is. -/
theorem redactUrl_of_notMem {authority path : List Char} (named : ':' ∉ scheme)
    (absent : '@' ∉ authority ∧ '/' ∉ authority) (behind : ∀ c ∈ path.head?, c = '/') :
    redactUrl (String.ofList (scheme ++ [':', '/', '/'] ++ (authority ++ path))) =
      String.ofList (scheme ++ [':', '/', '/'] ++ (authority ++ path)) := by
  have split : splitOncePart "://".toList (scheme ++ [':', '/', '/'] ++ (authority ++ path)) =
      some (scheme, authority ++ path) := splitOncePart_append named ['/', '/'] _
  have none : authority.reverse.dropWhile (· != '@') = [] := by
    refine List.dropWhile_eq_nil_iff.mpr fun c present => bne_iff_ne.mpr fun same => ?_
    exact absent.1 (same ▸ List.mem_reverse.mp present)
  unfold redactUrl
  simp only [String.toList_ofList, split, takeWhile_bne_of_head absent.2 behind, none]

/-- A user and a password without a slash stand within the authority. -/
theorem notMem_credentials {secret : List Char} (plain : '/' ∉ user) (slashless : '/' ∉ secret) :
    '/' ∉ user ++ ':' :: secret := by
  simp only [List.mem_append, List.mem_cons, not_or]
  exact ⟨plain, by decide, slashless⟩

/-- What is shown of an address without a slash in its password is known without the password. -/
theorem exists_redacted (named : ':' ∉ scheme) (short : ':' ∉ user) (plain : '/' ∉ user)
    (remainder : List Char) :
    ∃ shown, shown.length ≤ remainder.length ∧ ∀ password, '/' ∉ password →
      redactUrl (String.ofList (address scheme user password remainder)) =
        String.ofList (scheme ++ [':', '/', '/'] ++ user ++ [':', '*', '*', '*'] ++ '@' :: shown) := by
  have behind : ∀ c ∈ (remainder.dropWhile (· != '/')).head?, c = '/' := by
    intro c first
    have := List.head?_dropWhile_not (· != '/') remainder
    rw [Option.mem_def.mp first] at this
    simpa using this
  have host : '/' ∉ remainder.takeWhile (· != '/') := fun present => by
    simpa using List.mem_takeWhile_imp present
  have split := @List.takeWhile_append_dropWhile _ (· != '/') remainder
  generalize remainder.takeWhile (· != '/') = authority at host split
  generalize remainder.dropWhile (· != '/') = path at behind split
  -- The last at sign is the one in front of the remainder or one within its part of the authority.
  obtain ⟨front, last, cut, absent⟩ := exists_append_of_mem (List.mem_cons_self : '@' ∈ '@' :: authority)
  have outside : '/' ∉ '@' :: authority := by simpa using host
  rw [cut, List.mem_append, List.mem_cons, not_or, not_or] at outside
  refine ⟨last ++ path, ?_, fun password slashless => ?_⟩
  · have longer := congrArg List.length cut
    rw [← split]
    simp only [List.length_append, List.length_cons] at longer ⊢
    omega
  · have onward : '@' :: (authority ++ path) = front ++ '@' :: last ++ path := by
      rw [← cut, List.cons_append]
    have whole : user ++ ':' :: (password ++ '@' :: remainder) =
        user ++ ':' :: (password ++ front) ++ '@' :: last ++ path := by
      rw [← split, onward]
      simp only [List.append_assoc, List.cons_append]
    have within : '/' ∉ password ++ front :=
      fun present => (List.mem_append.mp present).elim slashless outside.1
    rw [address, whole,
      redactUrl_of_user named short (notMem_credentials plain within) ⟨absent, outside.2.2⟩ behind]
    rfl

/-- An address with a slash in its password is shown with a part of the password or with all of it. -/
theorem redactUrl_of_slash (named : ':' ∉ scheme) (short : ':' ∉ user) (plain : '/' ∉ user)
    (signless : '@' ∉ user) (slash : '/' ∈ password) {shown : List Char}
    (within : shown.length ≤ remainder.length) :
    redactUrl (String.ofList (address scheme user password remainder)) ≠
      String.ofList (scheme ++ [':', '/', '/'] ++ user ++ [':', '*', '*', '*'] ++ '@' :: shown) := by
  obtain ⟨before, behind, rfl, absent⟩ := List.eq_append_cons_of_mem slash
  have path : ∀ c ∈ ('/' :: (behind ++ '@' :: remainder)).head?, c = '/' :=
    fun c first => (Option.some.inj first).symm
  intro same
  by_cases sign : '@' ∈ before
  · -- What follows the last at sign in front of the slash is shown, and all that follows the slash.
    obtain ⟨secret, last, rfl, once⟩ := exists_append_of_mem sign
    simp only [List.mem_append, List.mem_cons, not_or] at absent
    have whole : user ++ ':' :: (secret ++ '@' :: last ++ '/' :: behind ++ '@' :: remainder) =
        user ++ ':' :: secret ++ '@' :: last ++ '/' :: (behind ++ '@' :: remainder) := by simp
    rw [address, whole, redactUrl_of_user named short (notMem_credentials plain absent.1)
      ⟨once, absent.2.2⟩ path, String.ofList_inj] at same
    have length := congrArg List.length (List.append_cancel_left same)
    simp only [List.length_append, List.length_cons] at length
    omega
  · -- Nothing is hidden, so a password with a slash would have to be three stars.
    have whole : user ++ ':' :: (before ++ '/' :: behind ++ '@' :: remainder) =
        user ++ ':' :: before ++ '/' :: (behind ++ '@' :: remainder) := by simp
    have unsigned : '@' ∉ user ++ ':' :: before := by
      simp only [List.mem_append, List.mem_cons, not_or]
      exact ⟨signless, by decide, sign⟩
    rw [address, whole, redactUrl_of_notMem named ⟨unsigned, notMem_credentials plain absent⟩ path,
      String.ofList_inj] at same
    have stars : before ++ '/' :: (behind ++ '@' :: remainder) = ['*', '*', '*'] ++ '@' :: shown := by
      simpa using same
    rcases List.append_eq_append_iff.mp stars with ⟨more, three, rest⟩ | ⟨more, three, rest⟩
    · cases more with
      | nil => cases rest
      | cons c more =>
          obtain ⟨rfl, -⟩ := List.cons.inj rest
          have : '/' ∈ ['*', '*', '*'] := three ▸ by simp
          exact absurd this (by decide)
    · cases more with
      | nil => cases rest
      | cons c more =>
          obtain ⟨rfl, -⟩ := List.cons.inj rest
          exact sign (three ▸ by simp)

/-- In an address the passwords without a slash are hidden, and no others. -/
theorem redactUrl_address (named : ':' ∉ scheme) (short : ':' ∉ user) (plain : '/' ∉ user)
    (signless : '@' ∉ user) :
    redactUrl (String.ofList (address scheme user password remainder)) =
        redactUrl (String.ofList (address scheme user [] remainder)) ↔ '/' ∉ password := by
  obtain ⟨shown, within, redacted⟩ := exists_redacted named short plain remainder
  rw [redacted [] List.not_mem_nil]
  refine ⟨fun same slash => ?_, redacted password⟩
  exact redactUrl_of_slash named short plain signless slash within same

/-- A pair with its value hidden, if its key is that of the password. -/
def hidePair (pair : List Char) : List Char :=
  match splitOnce '=' pair with
  | some (key, _) => if eqIgnoringAsciiCase key "password".toList then key ++ "=***".toList else pair
  | none => pair

variable {left key value right : List Char}

/-- The pairs of a text that is no address are hidden one by one. -/
theorem redactUrl_of_words {text : List Char} (list : ¬[':', '/', '/'] <:+: text) :
    redactUrl (String.ofList text) = String.ofList (joinWith [' '] ((words text).map hidePair)) := by
  have none : splitOncePart "://".toList text = none := splitOncePart_eq_none list
  unfold redactUrl
  simp only [String.toList_ofList, none]
  rfl

/-- What has a lower-case form in ASCII is a character of ASCII. -/
theorem ascii_of_lowerAscii {c : Char} (ascii : (lowerAscii c).toNat < 128) : c.toNat < 128 := by
  rw [lowerAscii] at ascii
  split at ascii
  · rename_i upper
    have last : c.toNat ≤ 'Z'.toNat := by simp_all [Char.le_def, UInt32.le_iff_toNat_le]
    exact Nat.lt_of_le_of_lt last (by decide)
  · exact ascii

/-- The key of a password holds neither blanks nor the sign of equality. -/
theorem password_plain (named : eqIgnoringAsciiCase key "password".toList = true) :
    ∀ c ∈ key, isBlank c = false ∧ c ≠ '=' := by
  intro c present
  have same : key.map lowerAscii = ['p', 'a', 's', 's', 'w', 'o', 'r', 'd'] := by
    rw [eqIgnoringAsciiCase, beq_iff_eq] at named
    rw [named]
    decide
  have lowered : lowerAscii c ∈ ['p', 'a', 's', 's', 'w', 'o', 'r', 'd'] :=
    same ▸ List.mem_map_of_mem present
  have small : ['p', 'a', 's', 's', 'w', 'o', 'r', 'd'].all (·.toNat < 128) = true := by decide
  have ascii := ascii_of_lowerAscii (of_decide_eq_true (List.all_eq_true.mp small _ lowered))
  exact forall_ascii (fun c => lowerAscii c ∈ ['p', 'a', 's', 's', 'w', 'o', 'r', 'd'] →
    isBlank c = false ∧ c ≠ '=') (by decide) ascii lowered

/-- The words of a list of pairs: those in front of a pair, the pair up to the first blank in its value,
and those behind it. -/
theorem words_pairs (named : eqIgnoringAsciiCase key "password".toList = true)
    (before : ∀ c ∈ left.getLast?, isBlank c = true) (behind : ∀ c ∈ right.head?, isBlank c = true) :
    words (pairs left key value right) =
      words left ++ [key ++ '=' :: value.takeWhile (!isBlank ·)] ++
        words (value.dropWhile (!isBlank ·)) ++ words right := by
  have solid : ∀ c ∈ key ++ '=' :: value.takeWhile (!isBlank ·), isBlank c = false := by
    refine List.forall_mem_append.mpr ⟨fun c present => (password_plain named c present).1, ?_⟩
    refine List.forall_mem_cons.mpr ⟨by decide, fun c present => ?_⟩
    simpa using List.mem_takeWhile_imp present
  have starts : ∀ c ∈ (value.dropWhile (!isBlank ·)).head?, isBlank c = true := by
    intro c first
    have := List.head?_dropWhile_not (!isBlank ·) value
    rw [Option.mem_def.mp first] at this
    simpa using this
  have whole : pairs left key value right = left ++ (key ++ '=' :: value.takeWhile (!isBlank ·) ++
      value.dropWhile (!isBlank ·) ++ right) := by
    rw [pairs]
    simp only [List.append_assoc, List.cons_append]
    rw [← List.append_assoc (List.takeWhile _ value), List.takeWhile_append_dropWhile]
  rw [whole, words_append_of_getLast before, words_append_of_head behind, words_append_of_head starts,
    words_of_solid (by simp) solid]
  simp only [List.append_assoc]

/-- The value of a password is hidden up to its first blank. -/
theorem hidePair_password (named : eqIgnoringAsciiCase key "password".toList = true) (value : List Char) :
    hidePair (key ++ '=' :: value) = key ++ ['=', '*', '*', '*'] := by
  have absent : '=' ∉ key := fun present => (password_plain named _ present).2 rfl
  rw [hidePair, splitOnce_append absent]
  simp only [named, if_true]
  rfl

/-- In a list of pairs the values of a password that have nothing but blanks behind the first blank are
hidden, and no others. -/
theorem redactUrl_pairs (named : eqIgnoringAsciiCase key "password".toList = true)
    (before : ∀ c ∈ left.getLast?, isBlank c = true) (behind : ∀ c ∈ right.head?, isBlank c = true)
    (list : ¬[':', '/', '/'] <:+: pairs left key value right)
    (plain : ¬[':', '/', '/'] <:+: pairs left key [] right) :
    redactUrl (String.ofList (pairs left key value right)) =
        redactUrl (String.ofList (pairs left key [] right)) ↔
      ∀ c ∈ value.dropWhile (!isBlank ·), isBlank c = true := by
  rw [redactUrl_of_words list, redactUrl_of_words plain, String.ofList_inj, words_pairs named before behind,
    words_pairs named before behind, ← words_eq_nil_iff]
  simp only [List.map_append, List.map_cons, List.map_nil, hidePair_password named, List.dropWhile_nil,
    show words [] = [] from rfl, List.append_nil]
  constructor
  · intro same
    by_contra more
    have further : (words (value.dropWhile (!isBlank ·))).map hidePair ≠ [] :=
      fun none => more (List.map_eq_nil_iff.mp none)
    have longer := length_joinWith_lt (List.cons_ne_nil ' ' [])
      (List.append_ne_nil_of_right_ne_nil ((words left).map hidePair)
        (List.cons_ne_nil (key ++ ['=', '*', '*', '*']) []))
      further ((words right).map hidePair)
    exact absurd (congrArg List.length same) (Nat.ne_of_gt longer)
  · intro none
    rw [none, List.map_nil, List.append_nil]

/-- What is shown of a text that says how to connect is the same as with an empty password exactly in
an address whose password has no slash, and in a list of pairs whose value for the password has nothing
but blanks behind its first blank. -/
theorem redactUrl_hides (scheme user password remainder left key value right : List Char) :
    (':' ∉ scheme → ':' ∉ user → '/' ∉ user → '@' ∉ user →
      (redactUrl (String.ofList (address scheme user password remainder)) =
          redactUrl (String.ofList (address scheme user [] remainder)) ↔ '/' ∉ password)) ∧
    (eqIgnoringAsciiCase key "password".toList = true →
      left.getLast?.all isBlank = true → right.head?.all isBlank = true →
      ¬[':', '/', '/'] <:+: pairs left key value right → ¬[':', '/', '/'] <:+: pairs left key [] right →
      (redactUrl (String.ofList (pairs left key value right)) =
          redactUrl (String.ofList (pairs left key [] right)) ↔
        (value.dropWhile (!isBlank ·)).all isBlank = true)) := by
  refine ⟨redactUrl_address, fun named before behind list plain => ?_⟩
  rw [Option.all_eq_true] at before behind
  rw [List.all_eq_true]
  exact redactUrl_pairs named before behind list plain

/-- A password with a colon and an at sign in an address, and one with both in a list of pairs. -/
theorem redactUrl_hides_both :
    redactUrl (String.ofList (address "db".toList "app".toList "s3:c@ret".toList "db:5432/prod".toList)) =
        redactUrl (String.ofList (address "db".toList "app".toList [] "db:5432/prod".toList)) ∧
      redactUrl (String.ofList (pairs "user=app ".toList "Password".toList "s3:c@ret".toList " port=1".toList)) =
        redactUrl (String.ofList (pairs "user=app ".toList "Password".toList [] " port=1".toList)) := by
  obtain ⟨ofAddress, ofPairs⟩ := redactUrl_hides "db".toList "app".toList "s3:c@ret".toList
    "db:5432/prod".toList "user=app ".toList "Password".toList "s3:c@ret".toList " port=1".toList
  constructor
  · exact (ofAddress (by decide +kernel) (by decide +kernel) (by decide +kernel)
      (by decide +kernel)).mpr (by decide +kernel)
  · exact (ofPairs (by decide +kernel) (by decide +kernel) (by decide +kernel) (by decide +kernel)
      (by decide +kernel)).mpr (by decide +kernel)

/-- A slash in the password of an address leaves all of it or its end to be seen; a quoted value is
hidden up to its first blank, and a value behind blanks or one that makes the list seem an address not at
all. -/
theorem redactUrl_hides_otherwise :
    redactUrl "postgres://app:secret@db/prod" = "postgres://app:***@db/prod" ∧
      redactUrl "postgres://app:pa/ss@db/prod" = "postgres://app:pa/ss@db/prod" ∧
      redactUrl "postgres://app:s3@c/ret@db/prod" = "postgres://app:***@c/ret@db/prod" ∧
      redactUrl "user=app password='secret' dbname=prod" = "user=app password=*** dbname=prod" ∧
      redactUrl "user=app password='s3 cret' dbname=prod" = "user=app password=*** cret' dbname=prod" ∧
      redactUrl "user=app password = secret dbname=prod" = "user=app password = secret dbname=prod" ∧
      redactUrl "user=app password=s3://cret dbname=prod" = "user=app password=s3://cret dbname=prod" := by
  decide +kernel

end SchemaDrift
