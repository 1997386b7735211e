import Lexing.Position
import Lexing.Value

/-! Tokens: a type, a value, and the place of their text. -/
namespace Lexing

structure Token where
  type : Value
  value : Value
  position : Option Position
deriving DecidableEq, Repr

namespace Token

def endName : String := "EOS"

def endType : Value := .str endName

/-- The token after all others. -/
def endOfStream : Token := ⟨endType, .null, none⟩

/-- Whether the type is that of the last token. -/
def isEnd (t : Token) : Bool :=
  match t.type with
  | .str name => name == endName
  | _ => false

def mapValues (f : Value → Value) (t : Token) : Token := { t with type := f t.type, value := f t.value }

def isWritable (t : Token) : Bool := t.type.isWritable && t.value.isWritable

/-- A token without a position shows its type alone. -/
def render (t : Token) : String :=
  match t.position with
  | none => "Token(" ++ t.type.display ++ ")"
  | some p =>
    let place := s!"{p.line}:{p.column}"
    match t.value with
    | .null => "Token(" ++ t.type.display ++ ", " ++ place ++ ")"
    | value => "Token(" ++ t.type.display ++ ", " ++ value.render ++ ", " ++ place ++ ")"

end Token

end Lexing
