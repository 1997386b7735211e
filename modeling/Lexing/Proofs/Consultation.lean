import Lexing.Proofs.CalculatorRules
import Lexing.Proofs.Failures
import Lexing.Proofs.Lockstep

/-! Which rules of a table a run depends on. A rule is consulted where its state is current and its flags are
set; under the first policy, if moreover no rule before it has a match. Any other rule may be exchanged for
one with the same flags, be it one that cannot be tried at all. -/
namespace Lexing

variable {flags : FlagSet} {text : Array Char} {place : Nat} {rules rules' : List Rule} {rule : Rule}

theorem Candidate.ofRule_of_not_enabled (h : ¬ ∀ flag, rule.flags.contains flag → flags.contains flag) :
    ofRule flags text place rule = .ok none := by
  have hdisabled : ¬ rule.enabled flags = true := fun enabled => h (FlagSet.isSubset_iff.mp enabled)
  rw [ofRule, if_neg hdisabled]
  rfl

theorem longestCandidate_congr {best : Option (Candidate place)} (hlength : rules'.length = rules.length)
    (h : ∀ (i : Nat) rule rule', rules[i]? = some rule → rules'[i]? = some rule' →
      Candidate.ofRule flags text place rule' = Candidate.ofRule flags text place rule) :
    longestCandidate flags text place best rules' = longestCandidate flags text place best rules := by
  induction rules generalizing rules' best with
  | nil => rw [List.length_eq_zero_iff.mp hlength]
  | cons rule rules ih =>
    obtain ⟨rule', rules', rfl⟩ := List.exists_cons_of_length_eq_add_one hlength
    rw [longestCandidate, longestCandidate, h 0 rule rule' rfl rfl]
    refine congrArg _ (funext fun c? => ?_)
    exact ih (Nat.succ.inj hlength) fun i => h (i + 1)

theorem firstCandidate_congr (hlength : rules'.length = rules.length)
    (h : ∀ (i : Nat) rule rule', rules[i]? = some rule → rules'[i]? = some rule' →
      NoneEligible flags text place (rules.take i) →
        Candidate.ofRule flags text place rule' = Candidate.ofRule flags text place rule) :
    firstCandidate flags text place rules' = firstCandidate flags text place rules := by
  induction rules generalizing rules' with
  | nil => rw [List.length_eq_zero_iff.mp hlength]
  | cons rule rules ih =>
    obtain ⟨rule', rules', rfl⟩ := List.exists_cons_of_length_eq_add_one hlength
    rw [firstCandidate, firstCandidate, h 0 rule rule' rfl rfl fun other hother => absurd hother List.not_mem_nil]
    cases hrule : Candidate.ofRule flags text place rule with
    | error fault => rfl
    | ok c? =>
      cases c? with
      | some c => rfl -- The rules behind a match need not be alike.
      | none =>
        have hnone := NoneEligible.singleton (Candidate.ofRule_eq_none hrule)
        exact ih (Nat.succ.inj hlength) fun i other other' hother hother' hbefore =>
          h (i + 1) other other' hother hother' (hnone.append hbefore)

theorem Policy.search_congr {policy : Policy} (hlength : rules'.length = rules.length)
    (h : ∀ (i : Nat) rule rule', rules[i]? = some rule → rules'[i]? = some rule' →
      (policy = .first → NoneEligible flags text place (rules.take i)) →
        Candidate.ofRule flags text place rule' = Candidate.ofRule flags text place rule) :
    policy.search flags text place rules' = policy.search flags text place rules := by
  cases policy with
  | longest =>
    exact longestCandidate_congr hlength fun i rule rule' hrule hrule' => h i rule rule' hrule hrule' nofun
  | first =>
    exact firstCandidate_congr hlength fun i rule rule' hrule hrule' hnone =>
      h i rule rule' hrule hrule' fun _ => hnone

namespace Definition

variable {d d' : Definition} {env : Environment} {s : Boundary} {calls : List Call} {i : Nat}

/-- The rule at a place of the current state's list may decide what is selected. -/
structure ConsultsAt (d : Definition) (text : Array Char) (s : Boundary) (i : Nat) (rule : Rule) : Prop where
  inside : s.cursor.offset < text.size
  occurs : (d.table.get s.env.state)[i]? = some rule
  enabled : ∀ flag, rule.flags.contains flag → s.env.flags.contains flag
  reached : d.policy = .first →
    NoneEligible s.env.flags text s.cursor.offset ((d.table.get s.env.state).take i)

/-- Some step of the run consults the rule at a place of a state's list. -/
def Consults (d : Definition) (text : Array Char) (env : Environment) (state : String) (i : Nat) : Prop :=
  ∃ calls s rule, d.Steps text (.start env) calls s ∧ s.env.state = state ∧ d.ConsultsAt text s i rule

/-- Some of the rules that the run does not consult are exchanged for others under the same flags. -/
structure AltersUnconsulted (d d' : Definition) (text : Array Char) (env : Environment) : Prop where
  policy : d'.policy = d.policy
  length : ∀ state, (d'.table.get state).length = (d.table.get state).length
  rules : ∀ state i rule rule', (d.table.get state)[i]? = some rule → (d'.table.get state)[i]? = some rule' →
    rule' = rule ∨ rule'.flags = rule.flags ∧ ¬ d.Consults text env state i

theorem AltersUnconsulted.selectsLike (h : d.AltersUnconsulted d' text env)
    (steps : d.Steps text (.start env) calls s) : d'.SelectsLike d text s := by
  intro inside
  rw [select_eq_search, select_eq_search, h.policy]
  refine Policy.search_congr (h.length s.env.state) fun i rule rule' hrule hrule' hreached => ?_
  rcases h.rules s.env.state i rule rule' hrule hrule' with rfl | ⟨hflags, hnot⟩
  · rfl
  · have hdisabled : ¬ ∀ flag, rule.flags.contains flag → s.env.flags.contains flag := fun enabled =>
      hnot ⟨calls, s, rule, steps, rfl, inside, hrule, enabled, hreached⟩
    rw [Candidate.ofRule_of_not_enabled hdisabled, Candidate.ofRule_of_not_enabled (hflags ▸ hdisabled)]

theorem ConsultsAt.reaches (h : d.ConsultsAt text s i rule) :
    d.policy.Reaches s.env.flags text s.cursor.offset (d.table.get s.env.state) rule := by
  obtain ⟨hi, rfl⟩ := List.getElem?_eq_some_iff.mp h.occurs
  refine ⟨(d.table.get s.env.state).take i, (d.table.get s.env.state).drop (i + 1), ?_, h.reached⟩
  rw [← List.drop_eq_getElem_cons hi, List.take_append_drop]

theorem ConsultsAt.ends_of_bytes (h : d.ConsultsAt text s i rule) (hbytes : rule.matcher.isText = false) :
    d.Ends text s (.refused .bytesPattern s.cursor s.env) :=
  .refused h.inside (select_eq_error.mpr ⟨rfl, rule, h.reaches, h.enabled, hbytes⟩)

/-- Rules that a run does not consult have no influence on it: whatever patterns and actions they are given,
the same rules fire and it ends the same way. A pattern over bytes that is consulted ends the run at that
step, whatever other rules match there, with the environment and the place as they were before it. -/
theorem only_consulted_rules_count (d : Definition) (source : String) (env : Environment) :
    let text := source.toList.toArray
    (∀ d', d.AltersUnconsulted d' text env → d'.LexesLike d source env) ∧
    ∀ calls s i rule bytes, d.Steps text (.start env) calls s → d.ConsultsAt text s i rule →
      rule.matcher = .bytes bytes →
        d.run text .start env = Run.prepend calls (.refused .bytesPattern s.cursor s.env) ∧
        ∀ label trace, (d.lex source env label trace).answer = .error .bytesPattern ∧
          (d.lex source env label trace).environment = s.env := by
  refine ⟨fun d' h => .of_selectsLike fun calls s steps => h.selectsLike steps, ?_⟩
  intro calls s i rule bytes steps hconsults hbytes
  have hends := hconsults.ends_of_bytes (by rw [hbytes]; rfl)
  refine ⟨steps.runFrom_eq.trans (congrArg _ hends.runFrom_eq), fun label trace => ?_⟩
  rw [Lexed.answer, steps.lex_eq, hends.runFrom_eq]
  exact ⟨rfl, rfl⟩

end Definition

def bytesRule (flags : FlagSet) : Rule := ⟨.bytes "7", .discard, defaultState, flags⟩

/-- Numbers behind a rule that asks for a flag, and another rule behind the numbers. -/
def guarded : Definition :=
  .ofRules .first [{ Calculator.blankRule with flags := .ofList ["on"] }, Calculator.numberRule,
    Calculator.blankRule]

def guardedBytes : Definition :=
  .ofRules .first [bytesRule (.ofList ["on"]), Calculator.numberRule, bytesRule .empty]

theorem Definition.Steps.eq_of_size_le {d : Definition} {text : Array Char} {s t : Boundary} {calls : List Call}
    (steps : d.Steps text s calls t) (hsize : text.size ≤ 1) (inside : t.cursor.offset < text.size) : t = s := by
  cases steps with
  | nil => rfl
  | snoc before step =>
    have hlt := step.offset_lt
    omega

theorem eligible_seven : ∃ m, Calculator.numberRule.Eligible .empty #['7'] 0 m :=
  ⟨⟨#['7'], 0, 1, [], [], by decide, by decide⟩, fun _ => id, by decide +kernel, by decide⟩

theorem guarded_consults {state : String} {i : Nat}
    (h : guarded.Consults "7".toList.toArray (.plain defaultState) state i) : state = defaultState ∧ i = 1 := by
  obtain ⟨calls, s, rule, steps, rfl, hconsults⟩ := h
  obtain rfl : s = .start (.plain defaultState) := steps.eq_of_size_le (by decide) hconsults.inside
  refine ⟨rfl, ?_⟩
  match i, hconsults with
  | 0, hconsults =>
    obtain rfl := Option.some.inj hconsults.occurs
    exact absurd (hconsults.enabled "on" (by decide)) (by decide)
  | 1, _ => rfl
  | 2, hconsults =>
    obtain ⟨m, hm⟩ := eligible_seven
    exact absurd hm (hconsults.reached rfl Calculator.numberRule (List.mem_cons_of_mem _ List.mem_cons_self) m)
  | i + 3, hconsults => cases hconsults.occurs

theorem guarded_alters :
    guarded.AltersUnconsulted guardedBytes "7".toList.toArray (.plain defaultState) where
  policy := rfl
  length state := by
    unfold guarded guardedBytes
    rw [Definition.get_ofRules, Definition.get_ofRules]
    split <;> rfl
  rules state i rule rule' hrule hrule' := by
    by_cases hstate : state = defaultState
    · subst hstate
      match i with
      | 0 =>
        cases hrule
        cases hrule'
        exact .inr ⟨rfl, fun h => absurd (guarded_consults h).2 (by decide)⟩
      | 1 => exact .inl (Option.some.inj (hrule'.symm.trans hrule))
      | 2 =>
        cases hrule
        cases hrule'
        exact .inr ⟨rfl, fun h => absurd (guarded_consults h).2 (by decide)⟩
      | i + 3 => cases hrule
    · rw [guarded, Definition.get_ofRules, if_neg hstate] at hrule
      cases hrule

theorem only_consulted_rules_count_guarded :
    let text := "7".toList.toArray
    let start := Boundary.start (.plain defaultState)
    (guarded.AltersUnconsulted guardedBytes text (.plain defaultState) ∧
      guardedBytes.LexesLike guarded "7" (.plain defaultState)) ∧
    let d := { guardedBytes with policy := .longest }
    d.Steps text start [] start ∧ d.ConsultsAt text start 2 (bytesRule .empty) ∧
      (bytesRule .empty).matcher = .bytes "7" ∧
      d.run text .start (.plain defaultState) =
        Run.prepend [] (.refused .bytesPattern .start (.plain defaultState)) ∧
      ∀ label trace, (d.lex "7" (.plain defaultState) label trace).answer = .error .bytesPattern ∧
        (d.lex "7" (.plain defaultState) label trace).environment = .plain defaultState := by
  intro text start
  refine ⟨⟨guarded_alters, (Definition.only_consulted_rules_count _ _ _).1 _ guarded_alters⟩, ?_⟩
  intro d
  have hconsults : d.ConsultsAt text start 2 (bytesRule .empty) := ⟨by decide, rfl, nofun, nofun⟩
  exact ⟨.nil, hconsults, rfl,
    (Definition.only_consulted_rules_count d "7" (.plain defaultState)).2 [] start 2 _ "7" .nil hconsults rfl⟩

end Lexing
