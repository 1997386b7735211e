import Lexing.Number.Decimal
import Lexing.Text.Numeral
import Lexing.Text.Quoted

/-! What rule actions compute and tokens carry, and how a value is shown. -/
namespace Lexing

inductive Value where
  | null
  | bool (b : Bool)
  | int (n : Int)
  | real (x : Double)
  | str (s : String)
  | list (items : List Value)
  | tuple (items : List Value)
  | dict (entries : List (Value × Value))
  /-- A request for a token. -/
  | emit (type value : Value)
  /-- A list kept elsewhere, by its place there. -/
  | kept (place : Nat)
deriving Inhabited, Repr

namespace Value

mutual

/-- The values are one and the same, which is more than to count as the same. -/
def identical : Value → Value → Bool
  | .null, .null => true
  | .bool a, .bool b => a = b
  | .int m, .int n => m = n
  | .real x, .real y => x = y
  | .str s, .str t => s = t
  | .list vs, .list ws | .tuple vs, .tuple ws => identicalItems vs ws
  | .dict vs, .dict ws => identicalEntries vs ws
  | .emit a v, .emit b w => identical a b && identical v w
  | .kept p, .kept q => p = q
  | _, _ => false

def identicalItems : List Value → List Value → Bool
  | [], [] => true
  | v :: vs, w :: ws => identical v w && identicalItems vs ws
  | _, _ => false

def identicalEntries : List (Value × Value) → List (Value × Value) → Bool
  | [], [] => true
  | (j, v) :: vs, (k, w) :: ws => identical j k && identical v w && identicalEntries vs ws
  | _, _ => false

end

mutual

theorem identical_iff (v w : Value) : v.identical w = true ↔ v = w := by
  cases v with
  | list items | tuple items => cases w <;> simp [identical, identicalItems_iff items]
  | dict entries => cases w <;> simp [identical, identicalEntries_iff entries]
  | emit type value => cases w <;> simp [identical, identical_iff type, identical_iff value]
  | _ => cases w <;> simp [identical]

theorem identicalItems_iff (vs ws : List Value) : identicalItems vs ws = true ↔ vs = ws := by
  cases vs with
  | nil => cases ws <;> simp [identicalItems]
  | cons v vs => cases ws <;> simp [identicalItems, identical_iff v, identicalItems_iff vs]

theorem identicalEntries_iff (vs ws : List (Value × Value)) : identicalEntries vs ws = true ↔ vs = ws := by
  match vs with
  | [] => cases ws <;> simp [identicalEntries]
  | (k, v) :: vs =>
    cases ws <;> simp [identicalEntries, identical_iff k, identical_iff v, identicalEntries_iff vs, Prod.ext_iff]

end

instance : DecidableEq Value := fun v w => decidable_of_iff _ (identical_iff v w)

/-- A tuple of one keeps its comma. -/
def tupleText : List String → String
  | [item] => "(" ++ item ++ ",)"
  | items => "(" ++ ", ".intercalate items ++ ")"

mutual

/-- The items of a list that is not at hand are left out. -/
def render : Value → String
  | .null => "None"
  | .bool true => "True"
  | .bool false => "False"
  | .int n => toString n
  | .real x => x.render
  | .str s => Text.quote s
  | .list items => "[" ++ ", ".intercalate (renderItems items) ++ "]"
  | .tuple items => tupleText (renderItems items)
  | .dict entries => "\x7b" ++ ", ".intercalate (renderEntries entries) ++ "\x7d"
  | .emit type value => "Emit(type=" ++ render type ++ ", value=" ++ render value ++ ")"
  | .kept _ => "[...]"

def renderItems : List Value → List String
  | [] => []
  | v :: rest => render v :: renderItems rest

def renderEntries : List (Value × Value) → List String
  | [] => []
  | (k, v) :: rest => (render k ++ ": " ++ render v) :: renderEntries rest

end

/-- Text stands for itself, anything else is rendered. -/
def display : Value → String
  | .str s => s
  | v => v.render

mutual

/-- No number in the value has too many digits. -/
def isWritable : Value → Bool
  | .int n => Text.isWritable n
  | .list items | .tuple items => areWritable items
  | .dict entries => entriesWritable entries
  | .emit type value => type.isWritable && value.isWritable
  | _ => true

def areWritable : List Value → Bool
  | [] => true
  | v :: rest => v.isWritable && areWritable rest

def entriesWritable : List (Value × Value) → Bool
  | [] => true
  | (k, v) :: rest => k.isWritable && v.isWritable && entriesWritable rest

end

/-- The name of a value's kind, as messages give it. -/
def kind : Value → String
  | .null => "NoneType"
  | .bool _ => "bool"
  | .int _ => "int"
  | .real _ => "float"
  | .str _ => "str"
  | .list _ | .kept _ => "list"
  | .tuple _ => "tuple"
  | .dict _ => "dict"
  | .emit .. => "Emit"

/-- The whole number that a number or truth value is. -/
def whole? : Value → Option Int
  | .int n => some n
  | .bool b => some (if b then 1 else 0)
  | _ => none

end Value

end Lexing
