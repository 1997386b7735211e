import Lexing.Proofs.Matches
import Lexing.Selection

/-! Which rule each policy picks, stated without the order in which rules are tried. Looking through a
list of rules keeps the best of those seen so far; under the first policy the search ends with it. -/
namespace Lexing

variable {flags : FlagSet} {text : Array Char} {place : Nat}

/-- Work in two parts that has an answer had one in each. -/
theorem exists_of_bind_ok {ε α β : Type} {x : Except ε α} {f : α → Except ε β} {b : β}
    (h : (x >>= f) = .ok b) : ∃ a, x = .ok a ∧ f a = .ok b := by
  cases x with
  | error fault => cases h
  | ok a => exact ⟨a, rfl, h⟩

/-- All flags of the rule are set, and it has a match at the place that is not empty. -/
structure Rule.Eligible (flags : FlagSet) (text : Array Char) (place : Nat) (rule : Rule) (found : Match) :
    Prop where
  enabled : ∀ flag, rule.flags.contains flag → flags.contains flag
  matched : rule.matcher.tryAt text place = .ok (some found)
  advances : place < found.stop

/-- The pattern can be tried on a text. -/
def Matcher.isText : Matcher → Bool
  | .text _ => true
  | .bytes _ => false

/-- None of the rules is eligible. -/
def NoneEligible (flags : FlagSet) (text : Array Char) (place : Nat) (rules : List Rule) : Prop :=
  ∀ rule ∈ rules, ∀ found, ¬ rule.Eligible flags text place found

/-- No eligible rule has a longer match, and those before it have shorter ones. -/
structure IsLongest (flags : FlagSet) (text : Array Char) (place : Nat) (rules : List Rule) (rule : Rule)
    (found : Match) : Prop where
  eligible : rule.Eligible flags text place found
  longest : ∀ other ∈ rules, ∀ m, other.Eligible flags text place m → m.length ≤ found.length
  first : ∃ before after, rules = before ++ rule :: after ∧
    ∀ other ∈ before, ∀ m, other.Eligible flags text place m → m.length < found.length

/-- No rule before it is eligible. -/
structure IsFirst (flags : FlagSet) (text : Array Char) (place : Nat) (rules : List Rule) (rule : Rule)
    (found : Match) : Prop where
  eligible : rule.Eligible flags text place found
  first : ∃ before after, rules = before ++ rule :: after ∧ NoneEligible flags text place before

/-- What a policy asks of the rule that fires. -/
def Policy.Picks (policy : Policy) (flags : FlagSet) (text : Array Char) (place : Nat) (rules : List Rule)
    (rule : Rule) (found : Match) : Prop :=
  match policy with
  | longest => IsLongest flags text place rules rule found
  | first => IsFirst flags text place rules rule found

theorem Policy.Picks.eligible {policy : Policy} {rules : List Rule} {rule : Rule} {found : Match}
    (h : policy.Picks flags text place rules rule found) : rule.Eligible flags text place found := by
  cases policy with
  | longest => exact IsLongest.eligible h
  | first => exact IsFirst.eligible h

theorem Policy.Picks.mem {policy : Policy} {rules : List Rule} {rule : Rule} {found : Match}
    (h : policy.Picks flags text place rules rule found) : rule ∈ rules := by
  cases policy with
  | longest =>
    obtain ⟨before, after, rfl, _⟩ := IsLongest.first h
    simp
  | first =>
    obtain ⟨before, after, rfl, _⟩ := IsFirst.first h
    simp

namespace Rule.Eligible

theorem unique {rule : Rule} {a b : Match} (ha : rule.Eligible flags text place a)
    (hb : rule.Eligible flags text place b) : a = b := by
  have h := ha.matched.symm.trans hb.matched
  exact Option.some.inj (Except.ok.inj h)

theorem length_eq {rule : Rule} {found : Match} (h : rule.Eligible flags text place found) :
    found.length = found.stop - place := by
  rw [Match.length, (Matcher.tryAt_eq_some h.matched).2]

theorem lt_size {rule : Rule} {found : Match} (h : rule.Eligible flags text place found) :
    place < text.size := by
  have hstop := found.stop_le_size
  rw [(Matcher.tryAt_eq_some h.matched).1] at hstop
  exact Nat.lt_of_lt_of_le h.advances hstop

end Rule.Eligible

namespace Candidate

/-- A rule yields a candidate exactly if it is eligible. -/
theorem ofRule_eq_some {rule : Rule} {c : Candidate place} (h : ofRule flags text place rule = .ok (some c)) :
    c.rule = rule ∧ rule.Eligible flags text place c.found := by
  unfold ofRule at h
  split at h
  · next enabled =>
    obtain ⟨found?, hmatched, h⟩ := exists_of_bind_ok h
    cases found? with
    | none => cases h
    | some found =>
      dsimp only at h
      split at h
      · next advances =>
        cases h
        exact ⟨rfl, FlagSet.isSubset_iff.mp enabled, hmatched, advances⟩
      · cases h
  · cases h

theorem ofRule_of_eligible {rule : Rule} {found : Match} (h : rule.Eligible flags text place found) :
    ofRule flags text place rule = .ok (some ⟨rule, found, h.advances⟩) := by
  have enabled : rule.enabled flags = true := FlagSet.isSubset_iff.mpr h.enabled
  simp [ofRule, enabled, h.matched, h.advances, bind, Except.bind, pure, Except.pure]

theorem ofRule_eq_none {rule : Rule} (h : ofRule flags text place rule = .ok none) (found : Match) :
    ¬ rule.Eligible flags text place found := by
  intro eligible
  cases h.symm.trans (ofRule_of_eligible eligible)

/-- Only a pattern that cannot be tried stands in the way of an answer. -/
theorem exists_ofRule {rule : Rule} (h : rule.matcher.isText) :
    ∃ c?, ofRule flags text place rule = .ok c? := by
  unfold ofRule
  cases hmatcher : rule.matcher with
  | bytes source => rw [hmatcher] at h; cases h
  | text pattern =>
    split
    · simp only [Matcher.tryAt, bind, Except.bind]
      split
      · exact ⟨_, rfl⟩
      · split <;> exact ⟨_, rfl⟩
    · exact ⟨_, rfl⟩

theorem longer_some (a b : Candidate place) :
    longer (some a) (some b) = if a.length < b.length then some b else some a := rfl

theorem length_eq {rule : Rule} {c : Candidate place} (h : rule.Eligible flags text place c.found) :
    c.length = c.found.length := by
  rw [h.length_eq, Candidate.length]

end Candidate

/-- The best of the rules looked at so far. -/
def BestOf (flags : FlagSet) (text : Array Char) (place : Nat) (seen : List Rule) :
    Option (Candidate place) → Prop
  | none => NoneEligible flags text place seen
  | some c => IsLongest flags text place seen c.rule c.found

theorem BestOf.nil : BestOf flags text place [] none := by
  intro rule hrule
  cases hrule

theorem NoneEligible.append {seen rest : List Rule} (hseen : NoneEligible flags text place seen)
    (hrest : NoneEligible flags text place rest) : NoneEligible flags text place (seen ++ rest) := by
  intro rule hrule
  rcases List.mem_append.mp hrule with h | h
  · exact hseen rule h
  · exact hrest rule h

theorem NoneEligible.singleton {rule : Rule} (h : ∀ found, ¬ rule.Eligible flags text place found) :
    NoneEligible flags text place [rule] := by
  intro other hother
  rw [List.mem_singleton.mp hother]
  exact h

/-- A further rule without a longer match changes nothing. -/
theorem IsLongest.append {seen : List Rule} {rule other : Rule} {found : Match}
    (h : IsLongest flags text place seen rule found)
    (hother : ∀ m, other.Eligible flags text place m → m.length ≤ found.length) :
    IsLongest flags text place (seen ++ [other]) rule found where
  eligible := h.eligible
  longest := by
    intro r hr m hm
    rcases List.mem_append.mp hr with hr | hr
    · exact h.longest r hr m hm
    · rw [List.mem_singleton.mp hr] at hm
      exact hother m hm
  first := by
    obtain ⟨before, after, hsplit, hbefore⟩ := h.first
    exact ⟨before, after ++ [other], by rw [hsplit]; simp, hbefore⟩

/-- A further rule with the longest match takes the place of all before it. -/
theorem IsLongest.last {seen : List Rule} {rule : Rule} {found : Match}
    (heligible : rule.Eligible flags text place found)
    (hseen : ∀ other ∈ seen, ∀ m, other.Eligible flags text place m → m.length < found.length) :
    IsLongest flags text place (seen ++ [rule]) rule found where
  eligible := heligible
  longest := by
    intro r hr m hm
    rcases List.mem_append.mp hr with hr | hr
    · exact Nat.le_of_lt (hseen r hr m hm)
    · rw [List.mem_singleton.mp hr] at hm
      exact Nat.le_of_eq (congrArg Match.length (hm.unique heligible))
  first := ⟨seen, [], rfl, hseen⟩

theorem BestOf.longer {seen : List Rule} {rule : Rule} {best c? : Option (Candidate place)}
    (hbest : BestOf flags text place seen best) (hrule : Candidate.ofRule flags text place rule = .ok c?) :
    BestOf flags text place (seen ++ [rule]) (Candidate.longer best c?) := by
  cases c? with
  | none =>
    have hnone := Candidate.ofRule_eq_none hrule
    cases best with
    | none => exact hbest.append (NoneEligible.singleton hnone)
    | some a => exact IsLongest.append hbest fun m hm => absurd hm (hnone m)
  | some c =>
    obtain ⟨rfl, heligible⟩ := Candidate.ofRule_eq_some hrule
    cases best with
    | none => exact IsLongest.last heligible fun other hother m hm => absurd hm (hbest other hother m)
    | some a =>
      have ha : IsLongest flags text place seen a.rule a.found := hbest
      have hlength : a.length < c.length ↔ a.found.length < c.found.length := by
        rw [Candidate.length_eq ha.eligible, Candidate.length_eq heligible]
      rw [Candidate.longer_some]
      split
      · next hlt =>
        refine IsLongest.last heligible fun other hother m hm => ?_
        exact Nat.lt_of_le_of_lt (ha.longest other hother m hm) (hlength.mp hlt)
      · next hnlt =>
        refine IsLongest.append ha fun m hm => ?_
        rw [hm.unique heligible]
        exact Nat.le_of_not_lt fun hlt => hnlt (hlength.mpr hlt)

/-- The search keeps the best of the rules behind it. -/
theorem bestOf_longestCandidate {seen rest : List Rule} {best result : Option (Candidate place)}
    (hbest : BestOf flags text place seen best)
    (h : longestCandidate flags text place best rest = .ok result) :
    BestOf flags text place (seen ++ rest) result := by
  induction rest generalizing seen best with
  | nil =>
    cases h
    rwa [List.append_nil]
  | cons rule rest ih =>
    obtain ⟨c?, hrule, h⟩ := exists_of_bind_ok h
    have hall := ih (hbest.longer hrule) h
    rwa [List.append_assoc] at hall

theorem firstCandidate_eq_none {rules : List Rule} (h : firstCandidate flags text place rules = .ok none) :
    NoneEligible flags text place rules := by
  induction rules with
  | nil =>
    intro rule hrule
    cases hrule
  | cons rule rest ih =>
    obtain ⟨c?, hrule, h⟩ := exists_of_bind_ok h
    cases c? with
    | none => exact (NoneEligible.singleton (Candidate.ofRule_eq_none hrule)).append (ih h)
    | some c => cases h

theorem firstCandidate_eq_some {rules : List Rule} {c : Candidate place}
    (h : firstCandidate flags text place rules = .ok (some c)) :
    IsFirst flags text place rules c.rule c.found := by
  induction rules with
  | nil => cases h
  | cons rule rest ih =>
    obtain ⟨c?, hrule, h⟩ := exists_of_bind_ok h
    cases c? with
    | none =>
      obtain ⟨before, after, hsplit, hbefore⟩ := (ih h).first
      have hnone := NoneEligible.singleton (Candidate.ofRule_eq_none hrule)
      exact ⟨(ih h).eligible, rule :: before, after, by rw [hsplit]; rfl, hnone.append hbefore⟩
    | some c' =>
      cases h
      obtain ⟨rfl, heligible⟩ := Candidate.ofRule_eq_some hrule
      exact ⟨heligible, [], rest, rfl, fun other hother => by cases hother⟩

theorem exists_longestCandidate {rules : List Rule}
    (h : ∀ rule ∈ rules, rule.matcher.isText) (best : Option (Candidate place)) :
    ∃ c?, longestCandidate flags text place best rules = .ok c? := by
  induction rules generalizing best with
  | nil => exact ⟨best, rfl⟩
  | cons rule rest ih =>
    obtain ⟨c?, hrule⟩ : ∃ c?, Candidate.ofRule flags text place rule = .ok c? :=
      Candidate.exists_ofRule (h rule List.mem_cons_self)
    simp only [longestCandidate, hrule, bind, Except.bind]
    exact ih (fun other hother => h other (List.mem_cons_of_mem _ hother)) _

theorem exists_firstCandidate {rules : List Rule}
    (h : ∀ rule ∈ rules, rule.matcher.isText) :
    ∃ c?, firstCandidate flags text place rules = .ok c? := by
  induction rules with
  | nil => exact ⟨none, rfl⟩
  | cons rule rest ih =>
    obtain ⟨c?, hrule⟩ : ∃ c?, Candidate.ofRule flags text place rule = .ok c? :=
      Candidate.exists_ofRule (h rule List.mem_cons_self)
    simp only [firstCandidate, hrule, bind, Except.bind]
    cases c? with
    | none => exact ih fun other hother => h other (List.mem_cons_of_mem _ hother)
    | some c => exact ⟨some c, rfl⟩

theorem longestCandidate_append (best : Option (Candidate place)) (rules more : List Rule) :
    longestCandidate flags text place best (rules ++ more) =
      longestCandidate flags text place best rules >>= fun best =>
        longestCandidate flags text place best more := by
  induction rules generalizing best with
  | nil => rfl
  | cons rule rules ih => simp only [List.cons_append, longestCandidate, ih, bind_assoc]

/-- Rules are looked at only where none of those before them is eligible. -/
theorem firstCandidate_append (rules more : List Rule) :
    firstCandidate flags text place (rules ++ more) =
      firstCandidate flags text place rules >>= fun
        | some c => .ok (some c)
        | none => firstCandidate flags text place more := by
  induction rules with
  | nil => rfl
  | cons rule rules ih =>
    simp only [List.cons_append, firstCandidate]
    cases Candidate.ofRule flags text place rule with
    | error fault => rfl
    | ok c? =>
      cases c? with
      | some c => rfl
      | none => exact ih

namespace Policy

variable {policy : Policy} {rules : List Rule}

/-- What the policy makes of the rules of a state. -/
def search (policy : Policy) (flags : FlagSet) (text : Array Char) (place : Nat) (rules : List Rule) :
    Except Fault (Option (Candidate place)) :=
  match policy with
  | longest => longestCandidate flags text place none rules
  | first => firstCandidate flags text place rules

theorem search_eq_some {c : Candidate place} (h : policy.search flags text place rules = .ok (some c)) :
    policy.Picks flags text place rules c.rule c.found := by
  cases policy with
  | longest => exact bestOf_longestCandidate BestOf.nil h
  | first => exact firstCandidate_eq_some h

theorem search_eq_none (h : policy.search flags text place rules = .ok none) :
    NoneEligible flags text place rules := by
  cases policy with
  | longest => exact bestOf_longestCandidate BestOf.nil h
  | first => exact firstCandidate_eq_none h

theorem exists_search (h : ∀ rule ∈ rules, rule.matcher.isText) :
    ∃ c?, policy.search flags text place rules = .ok c? := by
  cases policy with
  | longest => exact exists_longestCandidate h none
  | first => exact exists_firstCandidate h

end Policy

namespace Definition

/-- No rule has a pattern over bytes. -/
def Textual (d : Definition) : Prop := ∀ state, ∀ rule ∈ d.table.get state, rule.matcher.isText

variable {d : Definition} {env : Environment}

theorem textual_of_all (h : d.table.entries.all fun entry => entry.2.all (·.matcher.isText)) : d.Textual := by
  intro state rule hrule
  unfold RuleTable.get at hrule
  cases hlookup : d.table.entries.lookup state with
  | none => simp [hlookup] at hrule
  | some rules =>
    obtain ⟨before, after, hentries, _⟩ := List.lookup_eq_some_iff.mp hlookup
    rw [hlookup] at hrule
    rw [hentries] at h
    simp only [List.all_append, List.all_cons, Bool.and_eq_true, List.all_eq_true] at h
    exact h.2.1 rule hrule

theorem select_eq_search (d : Definition) (env : Environment) (text : Array Char) (place : Nat) :
    d.select env text place = d.policy.search env.flags text place (d.table.get env.state) := rfl

/-- The rule that is selected is the one the policy asks for. -/
theorem select_eq_some {c : Candidate place} (h : d.select env text place = .ok (some c)) :
    d.policy.Picks env.flags text place (d.table.get env.state) c.rule c.found :=
  Policy.search_eq_some h

theorem select_eq_none (h : d.select env text place = .ok none) :
    NoneEligible env.flags text place (d.table.get env.state) :=
  Policy.search_eq_none h

/-- With patterns over text only, every place has an answer. -/
theorem exists_select (htextual : d.Textual) : ∃ c?, d.select env text place = .ok c? :=
  Policy.exists_search (htextual env.state)

end Definition

end Lexing
