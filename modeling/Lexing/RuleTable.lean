import Lexing.Rule

/-! The rules of each state, both in the order of declaration. -/
namespace Lexing

/-- The state that stands for every state known so far. -/
def allStates : String := "ALL"

structure RuleTable where
  entries : List (String × List Rule)

namespace RuleTable

def empty : RuleTable := ⟨[]⟩

def states (table : RuleTable) : List String := table.entries.map (·.1)

def contains (table : RuleTable) (state : String) : Bool := table.states.contains state

/-- A state that was never declared has no rules. -/
def get (table : RuleTable) (state : String) : List Rule := (table.entries.lookup state).getD []

def size (table : RuleTable) : Nat := table.entries.length

def appendTo (state : String) (rule : Rule) : List (String × List Rule) → List (String × List Rule)
  | [] => [(state, [rule])]
  | (other, rules) :: rest =>
    if other = state then (other, rules ++ [rule]) :: rest else (other, rules) :: appendTo state rule rest

/-- A rule for all states goes to those present, and makes none. -/
def add (table : RuleTable) (rule : Rule) : RuleTable :=
  if rule.state = allStates then ⟨table.entries.map fun (state, rules) => (state, rules ++ [rule])⟩
  else ⟨appendTo rule.state rule table.entries⟩

/-- Rules counted once for each state they are in. -/
def ruleCount (table : RuleTable) : Nat := (table.entries.map (·.2.length)).foldl (· + ·) 0

end RuleTable

end Lexing
