import SchemaDrift.Path

namespace SchemaDrift.Host

/-- The languages of source files. -/
inductive Language where
  | python
  | javaScript
  | rust
  | go
  | ruby
  | php
  | java
  | sql
  deriving DecidableEq, Inhabited

namespace Language

/-- The language as shown to operators. -/
def name : Language → String
  | python => "Python"
  | javaScript => "JavaScript"
  | rust => "Rust"
  | go => "Go"
  | ruby => "Ruby"
  | php => "Php"
  | java => "Java"
  | sql => "Sql"

def extensions : List (String × Language) :=
  [("py", python), ("pyi", python), ("js", javaScript), ("jsx", javaScript), ("ts", javaScript),
    ("tsx", javaScript), ("mjs", javaScript), ("cjs", javaScript), ("rs", rust), ("go", go),
    ("rb", ruby), ("php", php), ("java", java), ("kt", java), ("scala", java), ("cs", java),
    ("sql", sql)]

/-- The language of the files with an extension, in either case of its letters. -/
def ofExtension? (extension : String) : Option Language :=
  extensions.lookup (String.ofList (extension.toList.map Text.lowerAscii))

/-- The language of the file that a path names. -/
def ofPath? (path : String) : Option Language := do ofExtension? (← Path.extension? path)

/-- A number sign starts a comment. -/
def hashComments : Language → Bool
  | python | ruby | php => true
  | _ => false

/-- Two slashes start a comment, and so do a slash and an asterisk. -/
def slashComments : Language → Bool
  | javaScript | rust | go | php | java => true
  | _ => false

/-- An apostrophe encloses a single character. -/
def apostropheIsCharacter : Language → Bool
  | rust | go | java => true
  | _ => false

/-- Neighbouring literals form one literal. -/
def joinsNeighbours : Language → Bool
  | python | ruby => true
  | _ => false

def isIdentifierPart (language : Language) (c : Char) : Bool :=
  Text.isNamePart c || (c == '$' && (language == javaScript || language == php))

end Language

end SchemaDrift.Host
