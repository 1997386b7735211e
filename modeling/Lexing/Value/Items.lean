import Lexing.Fault
import Lexing.Value.Equality

/-! What values are made up of: the items they are gone through by, and the keys of dictionaries. What
can grow or change is no key, nor is what has such a part. -/
namespace Lexing.Value

/-- The items of a value that is gone through; a dictionary gives its keys. -/
def items : Value → Except Fault (List Value)
  | .str s => .ok (s.toList.map fun c => .str (String.singleton c))
  | .list items => .ok items
  | .tuple items => .ok items
  | .dict entries => .ok (entries.map (·.1))
  | v => .error (.notIterable v.kind)

mutual

/-- The kind of the first part that keeps a value from being a key. -/
def unhashable? : Value → Option String
  | .tuple items => firstUnhashable? items
  | .emit type value => (unhashable? type).or (unhashable? value)
  | .list items => some (Value.list items).kind
  | .kept place => some (Value.kept place).kind
  | .dict entries => some (Value.dict entries).kind
  | _ => none

def firstUnhashable? : List Value → Option String
  | [] => none
  | v :: rest => (unhashable? v).or (firstUnhashable? rest)

end

def checkKey (v : Value) : Except Fault Unit :=
  match v.unhashable? with
  | some kind => .error (.notHashable kind)
  | none => .ok ()

/-- Puts a value under a key; a key that is there already stays as it was first given. -/
def putEntry (key v : Value) : List (Value × Value) → List (Value × Value)
  | [] => [(key, v)]
  | (k, w) :: rest =>
    if k.isCopy key || k.same key then (k, v) :: rest else (k, w) :: putEntry key v rest

/-- A dictionary of entries that are put in one after the other. -/
def ofEntries (entries : List (Value × Value)) : Except Fault Value := do
  return .dict (← entries.foldlM (fun made (key, v) => do
    checkKey key
    return putEntry key v made) [])

end Lexing.Value
