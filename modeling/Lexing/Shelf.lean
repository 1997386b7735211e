import Lexing.Value

/-! Lists that are kept in one place and known in many. Whoever knows the place of a list sees what was
appended to it since. -/
namespace Lexing

namespace Value

mutual

/-- Puts what `look` finds in for kept lists. -/
def fill (look : Nat → Value) : Value → Value
  | .kept place => look place
  | .list items => .list (fillItems look items)
  | .tuple items => .tuple (fillItems look items)
  | .dict entries => .dict (fillEntries look entries)
  | .emit type value => .emit (type.fill look) (value.fill look)
  | v => v

def fillItems (look : Nat → Value) : List Value → List Value
  | [] => []
  | v :: rest => v.fill look :: fillItems look rest

def fillEntries (look : Nat → Value) : List (Value × Value) → List (Value × Value)
  | [] => []
  | (k, v) :: rest => (k.fill look, v.fill look) :: fillEntries look rest

end

end Value

structure Shelf where
  lists : Array (List Value)
  /-- Tags from here on are free. -/
  nextTag : Nat

namespace Shelf

def empty : Shelf := ⟨#[], 0⟩

/-- Nothing is at a place not given out. -/
def items (shelf : Shelf) (place : Nat) : List Value := (shelf.lists[place]?).getD []

def append (shelf : Shelf) (place : Nat) (v : Value) : Shelf :=
  { shelf with lists := shelf.lists.modify place (· ++ [v]) }

def add (items : List Value) : StateM Shelf Value := do
  let shelf ← get
  set { shelf with lists := shelf.lists.push items }
  return .kept shelf.lists.size

def tag : StateM Shelf Nat := do
  let shelf ← get
  set { shelf with nextTag := shelf.nextTag + 1 }
  return shelf.nextTag

mutual

/-- Gives each list in a value a place, and a tag to what is no number and has none. -/
def keep : Value → StateM Shelf Value
  | .list items => do add (← keepItems items)
  | .tuple items => return .tuple (← keepItems items)
  | .dict entries => return .dict (← keepEntries entries)
  | .emit type value => do
    let type ← keep type
    return .emit type (← keep value)
  | .real (.undefined none) => return .real (.undefined (some (← tag)))
  | v => return v

def keepItems : List Value → StateM Shelf (List Value)
  | [] => return []
  | v :: rest => do
    let v ← keep v
    return v :: (← keepItems rest)

def keepEntries : List (Value × Value) → StateM Shelf (List (Value × Value))
  | [] => return []
  | (k, v) :: rest => do
    let k ← keep k
    let v ← keep v
    return (k, v) :: (← keepEntries rest)

end

/-- A value with the list in its place, if it is a kept one. -/
def opened (shelf : Shelf) : Value → Value
  | .kept place => .list (shelf.items place)
  | v => v

/-- The list at a place, with kept lists in it put in down to a depth. -/
def look (shelf : Shelf) : Nat → Nat → Value
  | 0, place => .kept place
  | depth + 1, place => .list (Value.fillItems (shelf.look depth) (shelf.items place))

/-- A value with all lists as they are now. No list but one that holds itself is deeper than there are
lists. -/
def read (shelf : Shelf) (v : Value) : Value := v.fill (shelf.look shelf.lists.size)

end Shelf

end Lexing
