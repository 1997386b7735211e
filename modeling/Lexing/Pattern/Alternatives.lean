import Lexing.Pattern.Node

/-! Alternatives in a simple form. What all of them begin with comes before them, and alternatives of
one character each are a set. -/
namespace Lexing.Pattern.Node

/-- Nodes without parts that test for the same. -/
def isSame : Node → Node → Bool
  | .char set, .char other => set == other
  | .anchor kind, .anchor other => kind == other
  | .reference group folding, .reference other otherFolding => group == other && folding == otherFolding
  | _, _ => false

/-- What the first alternative and the others all begin with, and what is left of each. -/
def splitShared : List Node → List (List Node) → List Node × List (List Node)
  | [], others => ([], [] :: others)
  | node :: rest, others =>
    if others.all fun other => other.head?.any node.isSame then
      let (shared, left) := splitShared rest (others.map List.tail)
      (node :: shared, left)
    else ([], (node :: rest) :: others)

/-- The set of an alternative that is one character of a set. -/
def soleSet? : List Node → Option CharSet
  | [.char set] => if set.negated then none else some set
  | _ => none

/-- Sets under one folding as one. -/
def mergeSets (set : CharSet) (others : List CharSet) : CharSet where
  items := ((set :: others).flatMap fun s => s.items.map ClassItem.inSet).eraseDups
  negated := false
  folding := set.folding

def branches : List (List Node) → Node
  | [] => .empty
  | [nodes] => sequence nodes
  | nodes :: rest => .alt (sequence nodes) (branches rest)

def ofAlternatives : List (List Node) → List Node
  | [] => []
  | [nodes] => nodes
  | first :: others =>
    let (shared, left) := splitShared first others
    match left.mapM soleSet? with
    | some (set :: sets) => shared ++ [.char (mergeSets set sets)]
    | _ => shared ++ [branches left]

end Lexing.Pattern.Node
