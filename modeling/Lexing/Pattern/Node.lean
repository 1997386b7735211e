import Lexing.Pattern.CharSet

/-! Patterns as trees. -/
namespace Lexing.Pattern

/-- Conditions on a place in a text. -/
inductive Anchor where
  | textStart
  | textEnd
  /-- At the end, or before a newline that is the last character. -/
  | lastLine
  | lineStart
  | lineEnd
  /-- Between a word character and another one, or an end of the text. -/
  | boundary (ascii : Bool)
  | noBoundary (ascii : Bool)
deriving DecidableEq, Repr

/-- In which order the numbers of repetitions are tried. -/
inductive Greed where
  | greedy
  | lazy
  /-- As many as there are, never fewer. -/
  | possessive
deriving DecidableEq, Repr

/-- Bounds on the length of what a pattern matches. -/
structure Width where
  least : Nat
  most : Nat
deriving DecidableEq, Repr

inductive Node where
  | empty
  | char (set : CharSet)
  | anchor (kind : Anchor)
  | seq (first second : Node)
  | alt (first second : Node)
  | capture (group : Nat) (body : Node)
  | reference (group : Nat) (folding : Folding)
  | repetition (least : Nat) (most : Option Nat) (greed : Greed) (body : Node)
  /-- Takes the first way the body matches and no other. -/
  | atomic (body : Node)
  /-- A stretch with settings of its own, which its parts know already. -/
  | scoped (body : Node)
  | ahead (wanted : Bool) (body : Node)
  | behind (wanted : Bool) (width : Width) (body : Node)
  /-- Goes on as the first branch once the group has matched, else as the second. -/
  | choice (group : Nat) (yes no : Node)
deriving DecidableEq, Repr

/-- A least length goes up to here and no further, a longest one up to the next number. -/
def widthLimit : Nat := 4294967294

namespace Width

def fixed (n : Nat) : Width := ⟨n, n⟩

/-- The width within what bounds can be. -/
def cap (w : Width) : Width := ⟨min w.least widthLimit, min w.most (widthLimit + 1)⟩

def add (a b : Width) : Width := cap ⟨a.least + b.least, a.most + b.most⟩

def join (a b : Width) : Width := ⟨min a.least b.least, max a.most b.most⟩

def times (w : Width) (least : Nat) (most : Option Nat) : Width :=
  cap ⟨w.least * least, w.most * most.getD (widthLimit + 1)⟩

end Width

/-- A group referred to must be among the given ones, listed from group 1 on. -/
def Node.width (groups : Array (Option Width)) : Node → Width
  | .empty | .anchor _ | .ahead .. | .behind .. => .fixed 0
  | .char _ => .fixed 1
  | .seq a b => (a.width groups).add (b.width groups)
  | .alt a b => (a.width groups).join (b.width groups)
  | .capture _ body | .atomic body | .scoped body => body.width groups
  | .reference group _ => ((groups[group - 1]?).join).getD (.fixed 0)
  | .repetition least most _ body => (body.width groups).times least most
  | .choice _ yes no => (yes.width groups).join (no.width groups)

def Node.sequence : List Node → Node
  | [] => .empty
  | [node] => node
  | node :: rest => .seq node (sequence rest)

end Lexing.Pattern
