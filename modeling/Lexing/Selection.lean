import Lexing.Definition

/-! Which rule fires at a place. A rule is a candidate if its flags are set and its match there is not
empty. -/
namespace Lexing

structure Candidate (place : Nat) where
  rule : Rule
  found : Match
  advances : place < found.stop

namespace Candidate

variable {place : Nat}

def length (c : Candidate place) : Nat := c.found.stop - place

/-- The candidate of a rule. A rule whose flags are not set is not tried. -/
def ofRule (flags : FlagSet) (text : Array Char) (place : Nat) (rule : Rule) :
    Except Fault (Option (Candidate place)) :=
  if rule.enabled flags then do
    match ← rule.matcher.tryAt text place with
    | none => return none
    | some found =>
      if advances : place < found.stop then return some ⟨rule, found, advances⟩ else return none
  else return none

/-- The longer of two; of equals the first. -/
def longer (best other : Option (Candidate place)) : Option (Candidate place) :=
  match best, other with
  | none, _ => other
  | _, none => best
  | some a, some b => if a.length < b.length then some b else some a

end Candidate

/-- Tries every rule. -/
def longestCandidate (flags : FlagSet) (text : Array Char) (place : Nat) (best : Option (Candidate place)) :
    List Rule → Except Fault (Option (Candidate place))
  | [] => return best
  | rule :: rest => do
    longestCandidate flags text place (Candidate.longer best (← Candidate.ofRule flags text place rule)) rest

/-- Tries rules up to the first candidate. -/
def firstCandidate (flags : FlagSet) (text : Array Char) (place : Nat) :
    List Rule → Except Fault (Option (Candidate place))
  | [] => return none
  | rule :: rest => do
    match ← Candidate.ofRule flags text place rule with
    | some c => return some c
    | none => firstCandidate flags text place rest

def Definition.select (d : Definition) (env : Environment) (text : Array Char) (place : Nat) :
    Except Fault (Option (Candidate place)) :=
  let rules := d.table.get env.state
  match d.policy with
  | .longest => longestCandidate env.flags text place none rules
  | .first => firstCandidate env.flags text place rules

end Lexing
