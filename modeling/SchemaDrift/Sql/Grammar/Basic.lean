import SchemaDrift.Sql.Keyword
import SchemaDrift.Sql.Rendering

namespace SchemaDrift.Sql

/-- The reasons why tokens are not read. Deep nesting is never taken for a failed alternative. -/
inductive ReadFailure where
  | unexpected
  | nestingTooDeep
  deriving DecidableEq, Inhabited

/-- A reader takes tokens off the front of a list. -/
abbrev Reading := StateT (List Token) (Except ReadFailure)

namespace Grammar

/-- The tokens do not fit. -/
def fail {α : Type} : Reading α := throw .unexpected

def next : Reading Token := do
  match ← get with
  | [] => fail
  | token :: rest => set rest; pure token

/-- The token at a distance ahead satisfies a test. -/
def looksAt (distance : Nat) (test : Token → Bool) : Reading Bool := do
  pure (((← get)[distance]?).any test)

def seesKeyword (word : String) : Reading Bool := looksAt 0 (Token.isKeyword word)

def seesSymbol (mark : String) : Reading Bool := looksAt 0 (Token.isSymbol mark)

/-- Takes the next token if it satisfies a test. -/
def takeIf (test : Token → Bool) : Reading Bool := do
  match ← get with
  | token :: rest => if test token then set rest; pure true else pure false
  | [] => pure false

def keyword? (word : String) : Reading Bool := takeIf (Token.isKeyword word)

def symbol? (mark : String) : Reading Bool := takeIf (Token.isSymbol mark)

/-- What follows the given tokens, if the list starts with them. -/
def afterKeywords : List String → List Token → Option (List Token)
  | [], rest => some rest
  | word :: words, token :: rest => if token.isKeyword word then afterKeywords words rest else none
  | _ :: _, [] => none

/-- Takes all the given keywords or none. -/
def keywords? (words : List String) : Reading Bool := do
  match afterKeywords words (← get) with
  | some rest => set rest; pure true
  | none => pure false

/-- Takes one of the given keywords. -/
def oneOf? : List String → Reading (Option String)
  | [] => pure none
  | word :: words => do if ← keyword? word then pure (some word) else oneOf? words

/-- Goes on only after a test that holds. -/
def expect (test : Reading Bool) : Reading Unit := do
  if ← test then pure () else fail

def expectKeyword (word : String) : Reading Unit := expect (keyword? word)

def expectSymbol (mark : String) : Reading Unit := expect (symbol? mark)

/-- Takes all the given keywords, in order. -/
def expectKeywords (words : List String) : Reading Unit := words.forM expectKeyword

def expectOneOf (words : List String) : Reading String := do
  match ← oneOf? words with
  | some word => pure word
  | none => fail

/-- Tries a reader and takes nothing when it fails. -/
def attempt {α : Type} (reader : Reading α) : Reading (Option α) := fun tokens =>
  match reader tokens with
  | .ok (value, rest) => .ok (some value, rest)
  | .error .unexpected => .ok (none, tokens)
  | .error .nestingTooDeep => .error .nestingTooDeep

/-- A list with commas between its items; `fuel` bounds the number of items. -/
def commaListWithin {α : Type} (item : Reading α) : Nat → Reading (List α)
  | 0 => fail
  | fuel + 1 => do
    let first ← item
    if ← symbol? "," then pure (first :: (← commaListWithin item fuel)) else pure [first]

/-- A list of one or more items with commas between them. -/
def commaList {α : Type} (item : Reading α) : Reading (List α) := do
  commaListWithin item ((← get).length + 1)

/-- Repeats an optional item until it is absent; `fuel` bounds the number of items. -/
def manyWithin {α : Type} (item : Reading (Option α)) : Nat → Reading (List α)
  | 0 => pure []
  | fuel + 1 => do
    match ← item with
    | some value => pure (value :: (← manyWithin item fuel))
    | none => pure []

def many {α : Type} (item : Reading (Option α)) : Reading (List α) := do
  manyWithin item ((← get).length + 1)

def inParentheses {α : Type} (reader : Reading α) : Reading α := do
  expectSymbol "("
  let value ← reader
  expectSymbol ")"
  pure value

/-- What a reader gives after a keyword, if the keyword is there. -/
def afterKeyword? {α : Type} (word : String) (reader : Reading α) : Reading (Option α) := do
  if ← keyword? word then pure (some (← reader)) else pure none

/-- A text that stands when a test holds. -/
def wordIf (test : Reading Bool) (word : String) : Reading String := do
  pure (if ← test then word else "")

def name : Reading Name := do
  match ← next with
  | .word text quote => pure ⟨text, quote⟩
  | .text .plain value => pure ⟨value, some '\''⟩
  | _ => fail

/-- The parts that follow the first part of a name; `fuel` bounds their number. -/
def nameParts : Nat → Reading QualifiedName
  | 0 => fail
  | fuel + 1 => do
    let first ← name
    if ← symbol? "." then pure (first :: (← nameParts fuel)) else pure [first]

def qualifiedName : Reading QualifiedName := do nameParts ((← get).length + 1)

/-- Names between parentheses. -/
def columnNames : Reading (List Name) := inParentheses (commaList name)

/-- Names between parentheses, or none. -/
def columnNames? : Reading (List Name) := do
  if ← seesSymbol "(" then columnNames else pure []

/-- An alias, with or without `AS`; without it the word may not be one of `reserved`. -/
def alias? (reserved : List String) : Reading (Option Name) := do
  let introduced ← keyword? "AS"
  match ← get with
  | .word text quote :: rest =>
    if introduced || quote.isSome || !reserved.contains (Text.upperString text) then
      set rest
      pure (some ⟨text, quote⟩)
    else pure none
  | .text .plain value :: rest => set rest; pure (some ⟨value, some '\''⟩)
  | _ => if introduced then fail else pure none

/-- A whole number without a sign. -/
def wholeNumber : Reading Nat := do
  match ← next with
  | .number text _ =>
    match Text.boundedNat? 18446744073709551615 text.toList with
    | some value => pure value
    | none => fail
  | _ => fail

/-- The value of a text that stands as a constant; a plain name is taken for one. -/
def textConstant : Reading String := do
  match ← next with
  | .word text none =>
    if Keyword.known.contains (Text.upperString text) then fail else pure text
  | .word text (some _) => pure text
  | .text .plain value | .text .escaped value | .text .unicode value => pure value
  | _ => fail

/-- A text that stands as a constant, in quotes and without any escape. -/
def bareText : Reading String := (fun text => "'" ++ text ++ "'") <$> textConstant

end Grammar

end SchemaDrift.Sql
