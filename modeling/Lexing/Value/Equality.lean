import Lexing.Value

/-! When two values count as the same. Numbers compare by what they are worth, truth values counting
as 0 and 1; a list never equals a tuple; the order of entries in a dictionary does not matter. What is
no number equals nothing by itself, but inside of other values it counts as the same as its copies. -/
namespace Lexing.Value

/-- Zero, nothing and whatever is empty count as false. -/
def isTrue : Value → Bool
  | .null => false
  | .str s => !s.isEmpty
  | .list items => !items.isEmpty
  | .tuple items => !items.isEmpty
  | .dict entries => !entries.isEmpty
  | .emit .. | .kept _ => true
  | .bool b => b
  | .int n => n != 0
  | .real x => !x.isZero

def isCopy : Value → Value → Bool
  | .real x, .real y => x.isCopy y
  | _, _ => false

mutual

def same : Value → Value → Bool
  | .null, .null => true
  | .str s, .str t => s == t
  | .list xs, .list ys => sameItems xs ys
  | .tuple xs, .tuple ys => sameItems xs ys
  | .dict xs, .dict ys => xs.length == ys.length && sameEntries xs ys
  | .emit a v, .emit b w => (a.isCopy b || same a b) && (v.isCopy w || same v w)
  | .kept p, .kept q => p == q
  | .real x, .real y => x.equals y
  | a, b => match a.whole?, b.whole?, a, b with
    | some m, some n, _, _ => m == n
    | some m, none, _, .real y => y.equalsInt m
    | none, some n, .real x, _ => x.equalsInt n
    | _, _, _, _ => false

def sameItems : List Value → List Value → Bool
  | [], [] => true
  | x :: xs, y :: ys => (x.isCopy y || same x y) && sameItems xs ys
  | _, _ => false

/-- Every entry on the left stands somewhere on the right. -/
def sameEntries : List (Value × Value) → List (Value × Value) → Bool
  | [], _ => true
  | (k, v) :: rest, ys =>
    (ys.any fun (k', v') => (k.isCopy k' || same k k') && (v.isCopy v' || same v v')) &&
      sameEntries rest ys

end

end Lexing.Value
