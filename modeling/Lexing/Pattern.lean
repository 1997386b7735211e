import Lexing.Pattern.Matching
import Lexing.Pattern.Reader

/-! Compiled patterns and their matches at a place of a text. -/
namespace Lexing

/-- The stretch from `start` to before `stop` of a text, and those of the groups from group 1 on. -/
structure Match where
  text : Array Char
  start : Nat
  stop : Nat
  groups : List (Option (Nat × Nat))
  names : List (String × Nat)
  start_le_stop : start ≤ stop
  stop_le_size : stop ≤ text.size
deriving DecidableEq

def slice (text : Array Char) (start stop : Nat) : String :=
  String.ofList (text.extract start stop).toList

namespace Match

/-- The characters matched. -/
def found (m : Match) : String := slice m.text m.start m.stop

def length (m : Match) : Nat := m.stop - m.start

/-- The stretch of a group, with group 0 the whole match. The outer `none` is an unknown group. -/
def span? (m : Match) (group : Nat) : Option (Option (Nat × Nat)) :=
  if group = 0 then some (some (m.start, m.stop)) else m.groups[group - 1]?

def number? (m : Match) (name : String) : Option Nat := m.names.lookup name

end Match

/-- A pattern as it is written, with the characters that may be named in it; by default there are none. -/
structure PatternText where
  spelling : String
  named : String → Option Char := fun _ => none

instance : Coe String PatternText := ⟨fun spelling => { spelling }⟩

instance : Coe PatternText String := ⟨PatternText.spelling⟩

structure Pattern where
  source : String
  tree : Pattern.Node
  groupCount : Nat
  names : List (String × Nat)
deriving DecidableEq

namespace Pattern

/-- Reads a pattern under settings given by their letters. -/
def compile (source : PatternText) (settings : List Char) : Except ReadFault Pattern :=
  match (readWhole settings).run source.spelling.toList.toArray |>.run { named := source.named } with
  | .ok (tree, state) => .ok ⟨source.spelling, tree, state.groups.size, state.names⟩
  | .error fault => .error fault

/-- The match that begins at `start`, anchors and lookbehinds seeing the whole text. -/
def matchAt (pattern : Pattern) (text : Array Char) (start : Nat) : Option Match :=
  if inside : start ≤ text.size then
    pattern.tree.walk text Match ⟨start, Array.replicate pattern.groupCount (none, none), inside⟩
      fun place forward => some {
        text, start, stop := place.offset
        groups := (List.range pattern.groupCount).map fun i => place.marks.span? (i + 1)
        names := pattern.names
        start_le_stop := forward
        stop_le_size := place.inside }
  else none

end Pattern

end Lexing
