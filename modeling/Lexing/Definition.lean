import Lexing.RuleTable

/-! What a lexer is made of: its rules, how it picks among them, and where it starts. A definition is
built up from the empty one, call by call; a call that fails leaves it as it was. -/
namespace Lexing

inductive Policy where
  /-- The longest match; of several, that of the rule declared first. -/
  | longest
  /-- The match of the rule declared first. -/
  | first
deriving DecidableEq, Repr

def Policy.name : Policy → String
  | longest => "longest"
  | first => "first"

/-- A policy, a value that may name one, or something else by how it is shown. -/
inductive PolicyChoice where
  | policy (p : Policy)
  | value (v : Value)
  | other (shown : String)

def PolicyChoice.resolve : PolicyChoice → Except Fault Policy
  | .policy p => .ok p
  | .value (.str "longest") => .ok .longest
  | .value (.str "first") => .ok .first
  | .value v => .error (.notPolicy v.render)
  | .other shown => .error (.notPolicy shown)

structure Definition where
  table : RuleTable
  policy : Policy
  start : String

namespace Definition

def empty : Definition := ⟨.empty, .longest, defaultState⟩

def rule (d : Definition) (spec : RuleSpec) : Except Fault Definition := do
  return { d with table := d.table.add (← Rule.create spec) }

def withPolicy (d : Definition) (choice : PolicyChoice) : Except Fault Definition := do
  return { d with policy := ← choice.resolve }

def withStart (d : Definition) (state : String) : Definition := { d with start := state }

end Definition

end Lexing
