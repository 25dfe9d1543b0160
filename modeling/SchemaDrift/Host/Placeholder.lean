import SchemaDrift.Host.Literal
import SchemaDrift.Text.Utf8

namespace SchemaDrift.Host

/-- The largest number of a machine word. -/
def wordLimit : Nat := 18446744073709551615

/-- What a placeholder for an expression inside a literal starts with. -/
def interpolationLead : List Char := [':', '_', '_', 'i']

/-- A statement's text in the making: what is written so far, the expressions bound to its
placeholders, the quote that has begun, and the number of placeholders counted. -/
structure Binding where
  output : List Char
  bound : Keyed String
  quote : Option Char
  counted : Nat
  deriving DecidableEq, Inhabited

namespace Binding

/-- Nothing written yet. -/
def empty : Binding := ⟨[], [], none, 0⟩

/-- The text with more written. -/
def write (state : Binding) (text : List Char) : Binding :=
  { state with output := state.output ++ text }

/-- The text with an expression, if there is one, bound to a placeholder. -/
def bind (state : Binding) (placeholder : List Char) (expression : Option String) : Binding :=
  match expression with
  | some expression =>
    { state with bound := state.bound.insert (String.ofList placeholder) expression }
  | none => state

/-- The placeholder with a number. -/
def numbered (index : Nat) : List Char := '$' :: (toString index).toList

/-- The text with the argument at a position bound to its numbered placeholder. -/
def bindPosition (state : Binding) (literal : Literal) (index : Nat) : Binding :=
  state.bind (numbered index) literal.arguments.positional[index - 1]?

/-- The text with the next numbered placeholder written. -/
def writeNext (state : Binding) (literal : Literal) : Binding :=
  let index := state.counted + 1
  ({ state with counted := index }.bindPosition literal index).write (numbered index)

/-- The text with a named placeholder written. -/
def writeNamed (state : Binding) (literal : Literal) (name : List Char) : Binding :=
  let placeholder := ':' :: name
  (state.bind placeholder (literal.arguments.named.get? (String.ofList name))).write placeholder

/-- A step of the rewriting: the text after it, and how many characters it takes besides the
first. -/
structure Step where
  state : Binding
  more : Nat

/-- The step for the mark of an expression, given what follows its first character. -/
def markStep? (state : Binding) (literal : Literal) (rest : List Char) : Option Step :=
  let digits := rest.takeWhile Text.isAsciiDigit
  if !digits.isEmpty && rest[digits.length]? == some mark then
    let placeholder := interpolationLead ++ digits
    let expression := do literal.interpolations[(← Text.boundedNat? wordLimit digits)]?
    some ⟨(state.bind placeholder expression).write placeholder, digits.length + 1⟩
  else none

/-- The step for a placeholder `%(name)s`, given what follows the percent sign. The step takes the
name by its length in bytes. -/
def percentName? (state : Binding) (literal : Literal) (rest : List Char) : Option Step :=
  let name := (rest.drop 1).takeWhile (· != ')')
  let close := 1 + Text.utf8Length name
  if rest[close]? == some ')' && (rest[close + 1]? == some 's' || rest[close + 1]? == some 'd') then
    some ⟨state.writeNamed literal name, close + 2⟩
  else none

/-- The step outside quotes, where no mark starts. -/
def plainStep (state : Binding) (literal : Literal) (before : Option Char) (c : Char)
    (rest : List Char) : Step :=
  let next := rest.head?
  if c == '\'' || c == '"' then ⟨{ state with quote := some c }.write [c], 0⟩
  else if c == '%' && (next == some 's' || next == some 'd') then ⟨state.writeNext literal, 1⟩
  else if c == '%' && next == some '(' then
    (percentName? state literal rest).getD ⟨state.write [c], 0⟩
  else if c == '?' then ⟨state.writeNext literal, 0⟩
  else if c == '$' && next.any Text.isAsciiDigit then
    let digits := rest.takeWhile Text.isAsciiDigit
    let state := match Text.boundedNat? wordLimit digits with
      | some index => if index > 0 then state.bindPosition literal index else state
      | none => state
    ⟨state.write ('$' :: digits), digits.length⟩
  else if (c == ':' || c == '@') && next.any (fun d => Text.isAlphabetic d || d == '_')
      && before != some ':' then
    let name := rest.takeWhile Text.isNamePart
    ⟨state.writeNamed literal name, Text.utf8Length name⟩
  else if c == ':' && next == some ':' then ⟨state.write [':', ':'], 1⟩
  else ⟨state.write [c], 0⟩

/-- The step at a character, where no mark starts. -/
def unmarkedStep (state : Binding) (literal : Literal) (before : Option Char) (c : Char)
    (rest : List Char) : Step :=
  if c == '%' && rest.head? == some '%' then ⟨state.write ['%'], 1⟩
  else match state.quote with
    | some q => ⟨{ state with quote := if c == q then none else some q }.write [c], 0⟩
    | none => state.plainStep literal before c rest

def step (state : Binding) (literal : Literal) (before : Option Char) (c : Char)
    (rest : List Char) : Step :=
  match if c == mark then state.markStep? literal rest else none with
  | some step => step
  | none => state.unmarkedStep literal before c rest

/-- The text after the rest of a literal, given the character before the rest. -/
def run (literal : Literal) (state : Binding) (before : Option Char) : List Char → Binding
  | [] => state
  | c :: rest =>
    let step := state.step literal before c rest
    run literal step.state (c :: rest)[step.more]? (rest.drop step.more)
termination_by text => text.length
decreasing_by
  simp only [List.length_drop, List.length_cons]
  omega

end Binding

/-- The text of a statement and the expressions bound to its placeholders. -/
structure BoundText where
  text : List Char
  bindings : Keyed String
  deriving DecidableEq, Inhabited

/-- The text of the statement that a literal holds, with its placeholders written in one style. -/
def Literal.boundText (literal : Literal) : BoundText :=
  let state := Binding.run literal .empty none literal.text
  ⟨state.output, state.bound⟩

/-- The first words of the statements that are looked for. -/
def candidateWords : List String := ["SELECT", "INSERT", "UPDATE", "CREATE", "ALTER", "WITH"]

/-- The first word of a text is that of a statement. -/
def isCandidate (text : List Char) : Bool :=
  let word := (Text.trimStart text).takeWhile Text.isAsciiLetter
  candidateWords.any fun candidate => Text.eqIgnoringAsciiCase candidate.toList word

end SchemaDrift.Host
