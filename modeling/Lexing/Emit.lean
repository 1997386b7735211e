import Lexing.Fault

/-! What an action's result asks for. -/
namespace Lexing

/-- A token is to be made of this type and value. -/
structure Emit where
  type : Value
  value : Value
deriving DecidableEq, Repr

namespace Emit

/-- Nothing and false ask for no token. -/
def isNothing : Value → Bool
  | .null | .bool false => true
  | _ => false

/-- A type and a value; a type of nothing asks for no token. -/
def ofPair (type value : Value) : Option Emit :=
  if isNothing type then none else some ⟨type, value⟩

/-- A sequence of one or two items. -/
def ofItems (whole : Value) : List Value → Except Fault (Option Emit)
  | [type, value] => .ok (ofPair type value)
  | [type] => .ok (ofPair type .null)
  | _ => .error (.resultSize whole)

/-- The request in a result, if it makes one. A request already made is kept as it is. -/
def ofResult : Value → Except Fault (Option Emit)
  | .emit type value => .ok (some ⟨type, value⟩)
  | .tuple items => ofItems (.tuple items) items
  | .list items => ofItems (.list items) items
  | type => .ok (ofPair type .null)

def toValue (e : Emit) : Value := .emit e.type e.value

end Emit

end Lexing
