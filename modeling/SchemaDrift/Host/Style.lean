import SchemaDrift.Host.Cursor

namespace SchemaDrift.Host

/-- What a backslash does in a literal: nothing, hide the next character and stay, escape only the
delimiter and itself, or write special characters. -/
inductive Escapes where
  | nothing
  | kept
  | delimiter
  | special
  deriving DecidableEq, Inhabited

/-- How expressions stand inside a literal: not at all, in braces, in braces after a dollar or a
number sign, or as variables. -/
inductive Interpolation where
  | nothing
  | braces
  | dollarBraces
  | hashBraces
  | variables
  deriving DecidableEq, Inhabited

/-- How a literal is written. -/
structure Style where
  quote : Char
  triple : Bool
  hashes : Nat
  escapes : Escapes
  multiline : Bool
  interpolation : Interpolation
  deriving DecidableEq, Inhabited

namespace Style

/-- A literal of one line with all escapes and no expressions. -/
def plain (quote : Char) : Style := ⟨quote, false, 0, .special, false, .nothing⟩

/-- The number of quotes at either end. -/
def quotes (style : Style) : Nat := if style.triple then 3 else 1

/-- The text that ends a literal. -/
def delimiter (style : Style) : List Char :=
  List.replicate style.quotes style.quote ++ List.replicate style.hashes '#'

/-- The number of characters that open a literal after its letters. -/
def openingSpan (style : Style) : Nat := style.quotes + style.hashes

theorem openingSpan_pos (style : Style) : 0 < style.openingSpan := by
  unfold openingSpan quotes
  split <;> omega

/-- The style of a literal with given letters before its quote, number signs between them, and the
quote written three times. -/
def ofOpening? (language : Language) (letters : String) (hashes : Nat) (quote : Char)
    (tripled : Bool) : Option Style :=
  let plain := plain quote
  match language with
  | .python =>
    let raw := letters.toList.contains 'r'
    let formatted := letters.toList.contains 'f'
    let marks := ["", "r", "u", "b", "f", "rb", "br", "fr", "rf"]
    if quote == '\x60' || !marks.contains letters then
      none
    else some { plain with
      triple := tripled
      multiline := tripled
      escapes := if raw then .kept else .special
      interpolation := if formatted then .braces else .nothing }
  | .javaScript =>
    if quote == '\x60' then some { plain with multiline := true, interpolation := .dollarBraces }
    else if letters == "" then some plain
    else none
  | .rust =>
    if quote != '"' then none
    else if letters == "" || letters == "b" then some { plain with multiline := true }
    else if letters == "r" || letters == "br" then
      some { plain with hashes := hashes, escapes := .nothing, multiline := true }
    else none
  | .go =>
    if letters != "" then none
    else if quote == '"' then some plain
    else if quote == '\x60' then some { plain with escapes := .nothing, multiline := true }
    else none
  | .ruby =>
    if letters != "" then none
    else if quote == '"' then
      some { plain with multiline := true, interpolation := .hashBraces }
    else if quote == '\'' then some { plain with multiline := true, escapes := .delimiter }
    else none
  | .php =>
    if letters != "" then none
    else if quote == '"' then some { plain with multiline := true, interpolation := .variables }
    else if quote == '\'' then some { plain with multiline := true, escapes := .delimiter }
    else none
  | .java =>
    if letters == "" && quote == '"' then
      some { plain with triple := tripled, multiline := tripled }
    else none
  | .sql => none

end Style

/-- The start of a literal: the number of letters before it and its style. -/
structure Opening where
  letters : Nat
  style : Style
  deriving DecidableEq, Inhabited

/-- The start of the literal at the start of a text after the character `before`. After a character
of an identifier none starts, except a template. -/
def opening? (language : Language) (before : Option Char) (text : List Char) : Option Opening :=
  let template := language == .javaScript && text.head? == some '\x60'
  if before.any language.isIdentifierPart && !template then none
  else
    let letters := (text.takeWhile Text.isAsciiLetter).take 3
    let spelling := String.ofList (letters.map Text.lowerAscii)
    let afterLetters := text.drop letters.length
    let hashes :=
      if language == .rust && (spelling == "r" || spelling == "br") then
        (afterLetters.takeWhile (· == '#')).length
      else 0
    match afterLetters.drop hashes with
    | [] => none
    | quote :: rest =>
      if quote == '"' || quote == '\'' || quote == '\x60' then
        let tripled := rest.take 2 == [quote, quote]
        (Style.ofOpening? language spelling hashes quote tripled).map fun style =>
          ⟨letters.length, style⟩
      else none

theorem opening?_nil (language : Language) (before : Option Char) :
    opening? language before [] = none := by
  unfold opening?
  simp

end SchemaDrift.Host
