import Lexing.Proofs.CalculatorRules
import Lexing.Proofs.Failures
import Lexing.Proofs.Lockstep

/-! What the order of declarations decides. The longest match is as long in whatever order the rules are
tried, so the order only tells which of the rules that share it is selected. -/
namespace Lexing

variable {flags : FlagSet} {text : Array Char} {place : Nat} {rules rules' : List Rule} {rule : Rule}
  {found : Match}

/-- An eligible rule that none of the others has a longer match than. -/
structure IsMaximal (flags : FlagSet) (text : Array Char) (place : Nat) (rules : List Rule) (rule : Rule)
    (found : Match) : Prop where
  mem : rule ∈ rules
  eligible : rule.Eligible flags text place found
  longest : ∀ other ∈ rules, ∀ m, other.Eligible flags text place m → m.length ≤ found.length

/-- No two different rules share the longest match. -/
def OneLongest (flags : FlagSet) (text : Array Char) (place : Nat) (rules : List Rule) : Prop :=
  ∀ a m b n, IsMaximal flags text place rules a m → IsMaximal flags text place rules b n → a = b

theorem NoneEligible.perm (h : NoneEligible flags text place rules) (hperm : rules'.Perm rules) :
    NoneEligible flags text place rules' :=
  fun other hother => h other (hperm.mem_iff.mp hother)

namespace IsMaximal

theorem of_isLongest (h : IsLongest flags text place rules rule found) :
    IsMaximal flags text place rules rule found := by
  have hpicks : Policy.longest.Picks flags text place rules rule found := h
  exact ⟨hpicks.mem, h.eligible, h.longest⟩

theorem perm (h : IsMaximal flags text place rules rule found) (hperm : rules'.Perm rules) :
    IsMaximal flags text place rules' rule found :=
  ⟨hperm.mem_iff.mpr h.mem, h.eligible, fun other hother => h.longest other (hperm.mem_iff.mp hother)⟩

theorem length_eq {other : Rule} {m : Match} (h : IsMaximal flags text place rules rule found)
    (hother : IsMaximal flags text place rules other m) : m.length = found.length :=
  Nat.le_antisymm (h.longest other hother.mem m hother.eligible)
    (hother.longest rule h.mem found h.eligible)

end IsMaximal

theorem Candidate.eq_of_rule_eq {a b : Candidate place} (ha : a.rule.Eligible flags text place a.found)
    (hb : b.rule.Eligible flags text place b.found) (hrule : a.rule = b.rule) : a = b := by
  obtain ⟨rule, found, advances⟩ := a
  obtain ⟨rule', found', advances'⟩ := b
  obtain rfl : rule = rule' := hrule
  obtain rfl : found = found' := ha.unique hb
  rfl

/-- In another order the search fails alike, finds nothing alike, or finds a rule that shares the longest
match. -/
theorem longestCandidate_perm_cases (hperm : rules'.Perm rules) :
    longestCandidate flags text place none rules' = longestCandidate flags text place none rules ∨
      ∃ c' c, longestCandidate flags text place none rules' = .ok (some c') ∧
        longestCandidate flags text place none rules = .ok (some c) ∧
        IsMaximal flags text place rules c'.rule c'.found ∧ IsMaximal flags text place rules c.rule c.found := by
  cases h : longestCandidate flags text place none rules with
  | error fault =>
    obtain ⟨hfault, rule, hrule, hbalks⟩ := longestCandidate_eq_error.mp h
    exact .inl (longestCandidate_eq_error.mpr ⟨hfault, rule, hperm.mem_iff.mpr hrule, hbalks⟩)
  | ok best =>
    have hbest : BestOf flags text place rules best := bestOf_longestCandidate BestOf.nil h
    cases h' : longestCandidate flags text place none rules' with
    | error fault =>
      obtain ⟨hfault, rule, hrule, hbalks⟩ := longestCandidate_eq_error.mp h'
      cases h.symm.trans (longestCandidate_eq_error.mpr ⟨hfault, rule, hperm.mem_iff.mp hrule, hbalks⟩)
    | ok best' =>
      have hbest' : BestOf flags text place rules' best' := bestOf_longestCandidate BestOf.nil h'
      -- What either order finds can be judged by the other one, as all that counts is which rules there are.
      cases best with
      | none =>
        cases best' with
        | none => exact .inl rfl
        | some c' =>
          have hc' := (IsMaximal.of_isLongest hbest').perm hperm.symm
          exact absurd hc'.eligible (hbest _ hc'.mem _)
      | some c =>
        have hc := IsMaximal.of_isLongest hbest
        cases best' with
        | none => exact absurd hc.eligible (NoneEligible.perm hbest' hperm.symm _ hc.mem _)
        | some c' => exact .inr ⟨c', c, rfl, rfl, (IsMaximal.of_isLongest hbest').perm hperm.symm, hc⟩

theorem longestCandidate_length_perm (hperm : rules'.Perm rules) :
    (longestCandidate flags text place none rules').map (·.map Candidate.length) =
      (longestCandidate flags text place none rules).map (·.map Candidate.length) := by
  rcases longestCandidate_perm_cases hperm with h | ⟨c', c, h', h, hc', hc⟩
  · rw [h]
  · have hlength : c'.length = c.length := by
      rw [Candidate.length_eq hc'.eligible, Candidate.length_eq hc.eligible, hc.length_eq hc']
    rw [h', h]
    exact congrArg (fun n => Except.ok (some n)) hlength

theorem OneLongest.longestCandidate_perm (hone : OneLongest flags text place rules)
    (hperm : rules'.Perm rules) :
    longestCandidate flags text place none rules' = longestCandidate flags text place none rules := by
  rcases longestCandidate_perm_cases hperm with h | ⟨c', c, h', h, hc', hc⟩
  · exact h
  · rw [h', h, Candidate.eq_of_rule_eq hc'.eligible hc.eligible (hone _ _ _ _ hc' hc)]

/-- The order of declarations decides between rules that share the longest match, and nothing else. Where
no step of a run comes to such a tie, any other order has the same rules fire and ends the same way; and
with ties, still as much of the text is matched at each place. -/
theorem order_decides_ties_only :
    (∀ d d' : Definition, d.policy = .longest → d'.policy = .longest →
      (∀ state, (d'.table.get state).Perm (d.table.get state)) → ∀ source env,
      (∀ calls s, d.Steps source.toList.toArray (.start env) calls s →
        OneLongest s.env.flags source.toList.toArray s.cursor.offset (d.table.get s.env.state)) →
      d'.LexesLike d source env) ∧
    ∀ (rules rules' : List Rule) (flags : FlagSet) (text : Array Char) (place : Nat), rules'.Perm rules →
      (longestCandidate flags text place none rules').map (·.map Candidate.length) =
        (longestCandidate flags text place none rules).map (·.map Candidate.length) := by
  refine ⟨?_, fun rules rules' flags text place => longestCandidate_length_perm⟩
  intro d d' hpolicy hpolicy' hperm source env hone
  refine .of_selectsLike fun calls s steps _ => ?_
  rw [Definition.select_eq_search, Definition.select_eq_search, hpolicy, hpolicy']
  exact (hone calls s steps).longestCandidate_perm (hperm s.env.state)

def plusRule : Rule := Calculator.signRule "\\+" '+' "PLS"

/-- Sums, with the sign before the numbers. -/
def sums : Definition := .ofRules .longest [plusRule, Calculator.numberRule]

def sumsReversed : Definition := .ofRules .longest [Calculator.numberRule, plusRule]

theorem sumsReversed_perm (state : String) : (sumsReversed.table.get state).Perm (sums.table.get state) := by
  unfold sums sumsReversed
  rw [Definition.get_ofRules, Definition.get_ofRules]
  split
  · exact .swap _ _ _
  · exact .refl _

theorem oneLongest_sums (flags : FlagSet) (text : Array Char) (place : Nat) (state : String) :
    OneLongest flags text place (sums.table.get state) := by
  have hkinds : ∀ rule ∈ sums.table.get state, rule = plusRule ∨ rule = Calculator.numberRule := by
    intro rule hrule
    rw [sums, Definition.get_ofRules] at hrule
    split at hrule
    · simpa using hrule
    · cases hrule
  have hapart : ∀ m n, plusRule.Eligible flags text place m →
      ¬ Calculator.numberRule.Eligible flags text place n := by
    intro m n hplus hnumber
    have hdigit := (Calculator.eligible_number hnumber).1
    rw [(Calculator.eligible_sign hplus).1] at hdigit
    cases hdigit
  intro a m b n ha hb
  have heligible := ha.eligible
  have heligible' := hb.eligible
  rcases hkinds a ha.mem with rfl | rfl <;> rcases hkinds b hb.mem with rfl | rfl
  · rfl
  · exact absurd heligible' (hapart m n heligible)
  · exact absurd heligible (hapart n m heligible')
  · rfl

theorem order_decides_ties_only_sums :
    (sums.policy = .longest ∧ sumsReversed.policy = .longest ∧
      (∀ state, (sumsReversed.table.get state).Perm (sums.table.get state)) ∧ ∀ source env,
      (∀ calls s, sums.Steps source.toList.toArray (.start env) calls s →
        OneLongest s.env.flags source.toList.toArray s.cursor.offset (sums.table.get s.env.state)) ∧
      sumsReversed.LexesLike sums source env) ∧
    [Calculator.numberRule, plusRule].Perm [plusRule, Calculator.numberRule] ∧
    ∀ (flags : FlagSet) (text : Array Char) (place : Nat),
      (longestCandidate flags text place none [Calculator.numberRule, plusRule]).map (·.map Candidate.length) =
        (longestCandidate flags text place none [plusRule, Calculator.numberRule]).map
          (·.map Candidate.length) := by
  have hperm : [Calculator.numberRule, plusRule].Perm [plusRule, Calculator.numberRule] := .swap _ _ _
  refine ⟨⟨rfl, rfl, sumsReversed_perm, fun source env => ?_⟩, hperm,
    fun flags text place => order_decides_ties_only.2 _ _ flags text place hperm⟩
  have hone := fun calls (s : Boundary) (_ : sums.Steps source.toList.toArray (.start env) calls s) =>
    oneLongest_sums s.env.flags source.toList.toArray s.cursor.offset s.env.state
  exact ⟨hone, order_decides_ties_only.1 sums sumsReversed rfl rfl sumsReversed_perm source env hone⟩

end Lexing
