import Lexing.Proofs.Calculator
import Lexing.Proofs.Lockstep
import Mathlib.Data.Nat.Find

/-! The two policies compared on one table. They select alike as long as the rule with the longest match is
the first that is eligible; where it is not, the first policy turns to a rule declared before it, with a
shorter match. -/
namespace Lexing

variable {flags : FlagSet} {text : Array Char} {place : Nat} {rules before after : List Rule} {rule : Rule}
  {found : Match}

theorem firstCandidate_of_noneEligible (htext : ∀ rule ∈ rules, rule.matcher.isText)
    (hnone : NoneEligible flags text place rules) : firstCandidate flags text place rules = .ok none := by
  obtain ⟨c?, h⟩ : ∃ c?, firstCandidate flags text place rules = .ok c? := exists_firstCandidate htext
  cases c? with
  | none => exact h
  | some c =>
    obtain ⟨heligible, before, after, rfl, _⟩ := firstCandidate_eq_some h
    exact absurd heligible (hnone c.rule (by simp) c.found)

theorem firstCandidate_of_eligible (htext : ∀ rule ∈ before, rule.matcher.isText)
    (hnone : NoneEligible flags text place before) (heligible : rule.Eligible flags text place found) :
    firstCandidate flags text place (before ++ rule :: after) =
      .ok (some ⟨rule, found, heligible.advances⟩) := by
  rw [firstCandidate_append, firstCandidate_of_noneEligible htext hnone]
  change firstCandidate flags text place (rule :: after) = _
  rw [firstCandidate, Candidate.ofRule_of_eligible heligible]
  rfl

theorem exists_firstCandidate_eq_some (htext : ∀ rule ∈ rules, rule.matcher.isText)
    (hsome : ¬ NoneEligible flags text place rules) :
    ∃ c, firstCandidate flags text place rules = .ok (some c) := by
  obtain ⟨c?, h⟩ : ∃ c?, firstCandidate flags text place rules = .ok c? := exists_firstCandidate htext
  cases c? with
  | none => exact absurd (firstCandidate_eq_none h) hsome
  | some c => exact ⟨c, h⟩

namespace Definition

variable {d : Definition} {s : Boundary} {env : Environment}

def under (d : Definition) (policy : Policy) : Definition := { d with policy }

theorem select_under (d : Definition) (policy : Policy) (env : Environment) (text : Array Char) (place : Nat) :
    (d.under policy).select env text place =
      policy.search env.flags text place (d.table.get env.state) := rfl

/-- What fires under the longest policy, told apart from the rules that are declared before it and have
shorter matches. -/
structure Wins (d : Definition) (text : Array Char) (s : Boundary) (f : Firing) (before after : List Rule) :
    Prop where
  fires : (d.under .longest).Fires text s f
  split : d.table.get s.env.state = before ++ f.rule :: after
  shorter : ∀ other ∈ before, ∀ m, other.Eligible s.env.flags text s.cursor.offset m →
    m.length < f.found.length

/-- No rule that is declared before the winner is eligible. -/
def WinnerFirst (d : Definition) (text : Array Char) (s : Boundary) : Prop :=
  ∀ f before after, d.Wins text s f before after → NoneEligible s.env.flags text s.cursor.offset before

/-- The first boundary with an eligible rule before the winner. Both policies come to it by the same calls,
and there the first policy turns to such a rule. -/
structure Parts (d : Definition) (text : Array Char) (env : Environment) (calls : List Call) (s : Boundary) :
    Prop where
  longest : (d.under .longest).Steps text (.start env) calls s
  first : (d.under .first).Steps text (.start env) calls s
  agree : ∀ earlier t, (d.under .longest).Steps text (.start env) earlier t →
    earlier.length < calls.length → d.WinnerFirst text t
  turns : ∃ f g before between after, d.Wins text s f (before ++ g.rule :: between) after ∧
    (d.under .first).Fires text s g ∧ g.found.length < f.found.length

theorem Wins.isText (htextual : d.Textual) {f : Firing} (h : d.Wins text s f before after) :
    ∀ rule ∈ before, rule.matcher.isText := by
  intro rule hrule
  refine htextual s.env.state rule ?_
  rw [h.split]
  exact List.mem_append_left _ hrule

theorem exists_wins (inside : s.cursor.offset < text.size) {c : Candidate s.cursor.offset}
    (h : (d.under .longest).select s.env text s.cursor.offset = .ok (some c)) :
    ∃ before after, d.Wins text s ⟨s.cursor, s.env.state, c.rule, c.found⟩ before after := by
  have hlongest : IsLongest s.env.flags text s.cursor.offset (d.table.get s.env.state) c.rule c.found :=
    select_eq_some h
  obtain ⟨before, after, hsplit, hshorter⟩ := hlongest.first
  exact ⟨before, after, ⟨inside, c, h, rfl⟩, hsplit, hshorter⟩

theorem WinnerFirst.selectsLike (htextual : d.Textual) (h : d.WinnerFirst text s) :
    (d.under .first).SelectsLike (d.under .longest) text s := by
  intro inside
  obtain ⟨c?, hselect⟩ : ∃ c?, (d.under .longest).select s.env text s.cursor.offset = .ok c? :=
    exists_select htextual
  rw [hselect]
  cases c? with
  | none =>
    rw [select_under] at hselect
    exact firstCandidate_of_noneEligible (htextual s.env.state) (Policy.search_eq_none hselect)
  | some c =>
    obtain ⟨before, after, hwins⟩ := exists_wins inside hselect
    rw [select_under, hwins.split]
    exact firstCandidate_of_eligible (hwins.isText htextual) (h _ before after hwins) hwins.fires.eligible

/-- An eligible rule before the winner fires under the first policy, or one before it. -/
theorem Wins.exists_fires_first (htextual : d.Textual) {f : Firing} (h : d.Wins text s f before after)
    (hsome : ¬ NoneEligible s.env.flags text s.cursor.offset before) :
    ∃ g earlier between, before = earlier ++ g.rule :: between ∧ (d.under .first).Fires text s g ∧
      g.found.length < f.found.length := by
  obtain ⟨c, hc⟩ := exists_firstCandidate_eq_some (h.isText htextual) hsome
  obtain ⟨heligible, earlier, between, hbefore, _⟩ := firstCandidate_eq_some hc
  have hselect : (d.under .first).select s.env text s.cursor.offset = .ok (some c) := by
    rw [select_under, h.split, Policy.search, firstCandidate_append, hc]
    rfl
  have hmem : c.rule ∈ before := by
    rw [hbefore]
    simp
  exact ⟨⟨s.cursor, s.env.state, c.rule, c.found⟩, earlier, between, hbefore,
    ⟨h.fires.inside, c, hselect, rfl⟩, h.shorter c.rule hmem c.found heligible⟩

/-- A run that comes to a boundary of some kind comes to a first one. -/
theorem Steps.exists_first {P : Boundary → Prop} {s t : Boundary} {calls : List Call}
    (steps : d.Steps text s calls t) (h : P t) :
    ∃ calls t, d.Steps text s calls t ∧ P t ∧
      ∀ earlier u, d.Steps text s earlier u → earlier.length < calls.length → ¬ P u := by
  classical
  have hreached : ∃ n calls t, calls.length = n ∧ d.Steps text s calls t ∧ P t :=
    ⟨calls.length, calls, t, rfl, steps, h⟩
  obtain ⟨calls, t, hlength, steps, h⟩ := Nat.find_spec hreached
  refine ⟨calls, t, steps, h, fun earlier u hsteps hlt hu => ?_⟩
  exact Nat.find_min hreached (hlength ▸ hlt) ⟨earlier, u, rfl, hsteps, hu⟩

theorem exists_parts (htextual : d.Textual) {calls : List Call}
    (steps : (d.under .longest).Steps text (.start env) calls s) (h : ¬ d.WinnerFirst text s) :
    ∃ calls s, d.Parts text env calls s := by
  obtain ⟨calls, s, steps, h, hearlier⟩ := steps.exists_first (P := fun t => ¬ d.WinnerFirst text t) h
  have hagree : ∀ earlier t, (d.under .longest).Steps text (.start env) earlier t →
      earlier.length < calls.length → d.WinnerFirst text t :=
    fun earlier t ht hlt => not_not.mp (hearlier earlier t ht hlt)
  have hfirst : (d.under .first).Steps text (.start env) calls s :=
    steps.alike fun earlier t ht hlt => (hagree earlier t ht hlt).selectsLike htextual
  simp only [WinnerFirst, not_forall] at h
  obtain ⟨f, before, after, hwins, hsome⟩ := h
  obtain ⟨g, earlier, between, rfl, fires, hlt⟩ := hwins.exists_fires_first htextual hsome
  exact ⟨calls, s, steps, hfirst, hagree, f, g, earlier, between, after, hwins, fires, hlt⟩

/-- The two policies agree as long as no eligible rule is declared before the winner: if there is none at
any step of the longest policy, the first one has the same rules fire and ends the same way. Else they go
together up to the first such step, and there the first policy has a rule fire that is declared before the
winner and has a shorter match. -/
theorem policies_agree_up_to_an_earlier_rule (d : Definition) (htextual : d.Textual) (source : String)
    (env : Environment) :
    let text := source.toList.toArray
    ((∀ calls s, (d.under .longest).Steps text (.start env) calls s → d.WinnerFirst text s) →
      (d.under .first).LexesLike (d.under .longest) source env) ∧
    ((∃ calls s, (d.under .longest).Steps text (.start env) calls s ∧ ¬ d.WinnerFirst text s) →
      ∃ calls s, d.Parts text env calls s) := by
  refine ⟨fun h => .of_selectsLike fun calls s steps => (h calls s steps).selectsLike htextual, ?_⟩
  rintro ⟨calls, s, steps, h⟩
  exact exists_parts htextual steps h

end Definition

def digitRule : Rule :=
  Calculator.compiled "[0-9]" (.char ⟨[.range '0'.toNat '9'.toNat], false, .exact⟩) .discard

def digitsFirst : Definition := .ofRules .longest [digitRule, Calculator.numberRule]

theorem Definition.winnerFirst_of_size_le {d : Definition} {s : Boundary} (hsize : text.size ≤ 1) :
    d.WinnerFirst text s := by
  intro f before after hwins rule hrule m hm
  have hlt := hwins.shorter rule hrule m hm
  have hstop := hwins.fires.stop_le
  have hadvances := hm.advances
  -- There is room for one character only, and neither match is empty.
  rw [hm.length_eq, hwins.fires.eligible.length_eq] at hlt
  omega

theorem digitsFirst_not_winnerFirst :
    ¬ digitsFirst.WinnerFirst #['7', '8'] (.start (.plain defaultState)) := by
  intro hfirst
  let narrow : Match := ⟨#['7', '8'], 0, 1, [], [], by decide, by decide⟩
  let wide : Match := ⟨#['7', '8'], 0, 2, [], [], by decide, by decide⟩
  have hdigit : digitRule.Eligible .empty #['7', '8'] 0 narrow := ⟨fun _ => id, by decide +kernel, by decide⟩
  have hnumber : Calculator.numberRule.Eligible .empty #['7', '8'] 0 wide :=
    ⟨fun _ => id, by decide +kernel, by decide⟩
  have hselect : (digitsFirst.under .longest).select (.plain defaultState) #['7', '8'] 0 =
      .ok (some ⟨Calculator.numberRule, wide, by decide⟩) := by
    change longestCandidate .empty #['7', '8'] 0 none [digitRule, Calculator.numberRule] = _
    simp only [longestCandidate, Candidate.ofRule_of_eligible hdigit, Candidate.ofRule_of_eligible hnumber]
    rfl
  have hwins : digitsFirst.Wins #['7', '8'] (.start (.plain defaultState))
      ⟨.start, defaultState, Calculator.numberRule, wide⟩ [digitRule] [] := by
    refine ⟨⟨by decide, _, hselect, rfl⟩, rfl, fun other hother m hm => ?_⟩
    rw [List.mem_singleton.mp hother] at hm
    rw [hm.unique hdigit]
    decide
  exact hfirst _ _ _ hwins digitRule (List.mem_singleton_self _) narrow hdigit

theorem policies_agree_up_to_an_earlier_rule_digits :
    digitsFirst.Textual ∧
      ((∀ calls s, (digitsFirst.under .longest).Steps "7".toList.toArray (.start (.plain defaultState)) calls s →
          digitsFirst.WinnerFirst "7".toList.toArray s) ∧
        (digitsFirst.under .first).LexesLike (digitsFirst.under .longest) "7" (.plain defaultState)) ∧
      (∃ calls s, (digitsFirst.under .longest).Steps "78".toList.toArray (.start (.plain defaultState)) calls s ∧
          ¬ digitsFirst.WinnerFirst "78".toList.toArray s) ∧
        ∃ calls s, digitsFirst.Parts "78".toList.toArray (.plain defaultState) calls s := by
  have htextual : digitsFirst.Textual := Definition.textual_of_all rfl
  have hagree : ∀ calls s,
      (digitsFirst.under .longest).Steps "7".toList.toArray (.start (.plain defaultState)) calls s →
        digitsFirst.WinnerFirst "7".toList.toArray s :=
    fun _ _ _ => Definition.winnerFirst_of_size_le (by decide)
  have hpart : ∃ calls s,
      (digitsFirst.under .longest).Steps "78".toList.toArray (.start (.plain defaultState)) calls s ∧
        ¬ digitsFirst.WinnerFirst "78".toList.toArray s := ⟨[], _, .nil, digitsFirst_not_winnerFirst⟩
  exact ⟨htextual,
    ⟨hagree, (Definition.policies_agree_up_to_an_earlier_rule _ htextual "7" (.plain defaultState)).1 hagree⟩,
    hpart, (Definition.policies_agree_up_to_an_earlier_rule _ htextual "78" (.plain defaultState)).2 hpart⟩

end Lexing
