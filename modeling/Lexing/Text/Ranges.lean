/-! Sets of characters kept as ranges of code points and looked up by bisection. -/
namespace Lexing.Text

/-- Disjoint ranges in rising order, both ends included. -/
structure Ranges where
  spans : Array (Nat × Nat)

/-- The range that holds a code, sought among those numbered `lo` up to `hi`. -/
def Ranges.search (spans : Array (Nat × Nat)) (code lo hi : Nat) : Option Nat :=
  if lo < hi then
    match spans[(lo + hi) / 2]? with
    | none => none
    | some (first, last) =>
      if code < first then search spans code lo ((lo + hi) / 2)
      else if last < code then search spans code ((lo + hi) / 2 + 1) hi
      else some first
  else none
termination_by hi - lo

/-- Where the range of a character begins. -/
def Ranges.find? (table : Ranges) (c : Char) : Option Nat :=
  search table.spans c.toNat 0 table.spans.size

def Ranges.contains (table : Ranges) (c : Char) : Bool := (table.find? c).isSome

end Lexing.Text
