/-! Messages about what lexing does. -/
namespace Lexing

/-- Who speaks. -/
inductive Speaker where
  | lexerTypes
  | scanner
deriving DecidableEq, Repr

structure Record where
  speaker : Speaker
  message : String
deriving DecidableEq, Repr

/-- A name within a family of names; the family's own name and those below it are left as they are. -/
def Log.qualify (family name : String) : String :=
  if name = family || name.startsWith (family ++ ".") then name else family ++ "." ++ name

/-- The name records are filed under. -/
def Speaker.topic : Speaker → String
  | lexerTypes => "lexer.core"
  | scanner => "lexer.scanner"

def Record.level (_ : Record) : String := "DEBUG"

end Lexing
