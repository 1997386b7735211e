import Lexing.Proofs.Resuming

/-! How passes fail, told rule by rule. Trying a rule fails if its pattern is over bytes, and with it the
search for a candidate; where all rules can be tried and none has a match, the pass is stuck. What a failed
pass answers is the fault of its last step. -/
namespace Lexing

variable {flags : FlagSet} {text : Array Char} {place : Nat} {fault : Fault}

/-- The rule is tried wherever the search comes to it, and its pattern cannot be. -/
structure Rule.Balks (flags : FlagSet) (rule : Rule) : Prop where
  enabled : ∀ flag, rule.flags.contains flag → flags.contains flag
  bytes : rule.matcher.isText = false

/-- The search comes to the rule, unless one before it cannot be tried. -/
structure Policy.Reaches (policy : Policy) (flags : FlagSet) (text : Array Char) (place : Nat)
    (rules : List Rule) (rule : Rule) : Prop where
  split : ∃ before after, rules = before ++ rule :: after ∧
    (policy = .first → NoneEligible flags text place before)

theorem Policy.Reaches.mem {policy : Policy} {rules : List Rule} {rule : Rule}
    (h : policy.Reaches flags text place rules rule) : rule ∈ rules := by
  obtain ⟨before, after, rfl, _⟩ := h.split
  simp

theorem Matcher.tryAt_eq_error {m : Matcher} :
    m.tryAt text place = .error fault ↔ fault = .bytesPattern ∧ m.isText = false := by
  cases m with
  | text pattern => simp [tryAt, isText]
  | bytes source => simp [tryAt, isText, eq_comm]

theorem Rule.Balks.tryAt_eq {rule : Rule} (h : rule.Balks flags) :
    rule.matcher.tryAt text place = .error .bytesPattern := Matcher.tryAt_eq_error.mpr ⟨rfl, h.bytes⟩

/-- Trying a rule fails in one way only. -/
theorem Candidate.ofRule_eq_error {rule : Rule} :
    ofRule flags text place rule = .error fault ↔ fault = .bytesPattern ∧ rule.Balks flags := by
  constructor
  · intro h
    unfold ofRule at h
    split at h
    · next enabled =>
      cases htried : rule.matcher.tryAt text place with
      | error fault' =>
        rw [htried] at h
        cases h
        obtain ⟨hfault, hbytes⟩ := Matcher.tryAt_eq_error.mp htried
        exact ⟨hfault, FlagSet.isSubset_iff.mp enabled, hbytes⟩
      | ok found? =>
        obtain ⟨c?, hc⟩ : ∃ c?, ofRule flags text place rule = .ok c? := by
          refine exists_ofRule (Bool.of_not_eq_false fun hbytes => ?_)
          cases htried.symm.trans (Matcher.tryAt_eq_error.mpr ⟨rfl, hbytes⟩)
        rw [ofRule, if_pos enabled] at hc
        cases h.symm.trans hc
    · cases h
  · rintro ⟨rfl, hbalks⟩
    have enabled : rule.enabled flags = true := FlagSet.isSubset_iff.mpr hbalks.enabled
    rw [ofRule, if_pos enabled, hbalks.tryAt_eq]
    rfl

theorem Candidate.not_balks {rule : Rule} {c? : Option (Candidate place)}
    (h : ofRule flags text place rule = .ok c?) : ¬ rule.Balks flags := by
  intro hbalks
  cases h.symm.trans (ofRule_eq_error.mpr ⟨rfl, hbalks⟩)

theorem longestCandidate_eq_error {rules : List Rule} {best : Option (Candidate place)} :
    longestCandidate flags text place best rules = .error fault ↔
      fault = .bytesPattern ∧ ∃ rule ∈ rules, rule.Balks flags := by
  induction rules generalizing best with
  | nil => simp [longestCandidate, pure, Except.pure]
  | cons rule rest ih =>
    rw [longestCandidate]
    cases hrule : Candidate.ofRule flags text place rule with
    | error fault' =>
      obtain ⟨rfl, hbalks⟩ := Candidate.ofRule_eq_error.mp hrule
      refine ⟨fun h => ?_, fun h => by rw [h.1]; rfl⟩
      cases h
      exact ⟨rfl, rule, List.mem_cons_self, hbalks⟩
    | ok c? =>
      have hnot := Candidate.not_balks hrule
      refine ih.trans (and_congr_right fun _ => ?_)
      simp [hnot]

/-- Under the first policy a rule behind a match is never tried. -/
theorem firstCandidate_eq_error {rules : List Rule} :
    firstCandidate flags text place rules = .error fault ↔
      fault = .bytesPattern ∧ ∃ before rule after, rules = before ++ rule :: after ∧
        NoneEligible flags text place before ∧ rule.Balks flags := by
  constructor
  · intro h
    induction rules with
    | nil => cases h
    | cons rule rest ih =>
      rw [firstCandidate] at h
      cases hrule : Candidate.ofRule flags text place rule with
      | error fault' =>
        rw [hrule] at h
        cases h
        obtain ⟨rfl, hbalks⟩ := Candidate.ofRule_eq_error.mp hrule
        exact ⟨rfl, [], rule, rest, rfl, fun other hother => (List.not_mem_nil hother).elim, hbalks⟩
      | ok c? =>
        rw [hrule] at h
        cases c? with
        | some c => cases h
        | none =>
          obtain ⟨hfault, before, other, after, rfl, hbefore, hbalks⟩ := ih h
          have hnone := NoneEligible.singleton (Candidate.ofRule_eq_none hrule)
          exact ⟨hfault, rule :: before, other, after, rfl, hnone.append hbefore, hbalks⟩
  · rintro ⟨rfl, before, rule, after, rfl, hbefore, hbalks⟩
    induction before with
    | nil =>
      rw [List.nil_append, firstCandidate, Candidate.ofRule_eq_error.mpr ⟨rfl, hbalks⟩]
      rfl
    | cons earlier before ih =>
      rw [List.cons_append, firstCandidate]
      cases hearlier : Candidate.ofRule flags text place earlier with
      | error fault' =>
        rw [(Candidate.ofRule_eq_error.mp hearlier).1]
        rfl
      | ok c? =>
        cases c? with
        | some c =>
          obtain ⟨rfl, heligible⟩ := Candidate.ofRule_eq_some hearlier
          exact absurd heligible (hbefore _ List.mem_cons_self c.found)
        | none => exact ih fun other hother => hbefore other (List.mem_cons_of_mem _ hother)

namespace Policy

variable {policy : Policy} {rules : List Rule}

theorem search_eq_error : policy.search flags text place rules = .error fault ↔ fault = .bytesPattern ∧
    ∃ rule, policy.Reaches flags text place rules rule ∧ rule.Balks flags := by
  cases policy with
  | longest =>
    refine longestCandidate_eq_error.trans (and_congr_right fun _ => exists_congr fun rule => ?_)
    refine and_congr_left fun _ => ⟨fun hmem => ?_, fun h => h.mem⟩
    obtain ⟨before, after, hsplit⟩ := List.append_of_mem hmem
    exact ⟨before, after, hsplit, fun h => by cases h⟩
  | first =>
    refine firstCandidate_eq_error.trans (and_congr_right fun _ => ?_)
    constructor
    · rintro ⟨before, rule, after, hsplit, hbefore, hbalks⟩
      exact ⟨rule, ⟨before, after, hsplit, fun _ => hbefore⟩, hbalks⟩
    · rintro ⟨rule, ⟨before, after, hsplit, hbefore⟩, hbalks⟩
      exact ⟨before, rule, after, hsplit, hbefore rfl, hbalks⟩

/-- A search that went through rules could try them all. -/
theorem not_balks {c? : Option (Candidate place)} {rule : Rule}
    (h : policy.search flags text place rules = .ok c?) (hall : policy = .first → c? = none)
    (hrule : rule ∈ rules) : ¬ rule.Balks flags := by
  intro hbalks
  obtain ⟨before, after, rfl⟩ := List.append_of_mem hrule
  have hbefore : policy = .first → NoneEligible flags text place before := by
    intro hfirst other hother
    rw [hall hfirst] at h
    exact search_eq_none h other (List.mem_append_left _ hother)
  cases h.symm.trans (search_eq_error.mpr ⟨rfl, rule, ⟨before, after, rfl, hbefore⟩, hbalks⟩)

end Policy

/-- The only thing wrong with a result can be how many items it has. -/
theorem Emit.ofResult_eq_error {v : Value} {fault : Fault} (h : ofResult v = .error fault) :
    fault = .resultSize v := by
  have hitems : ∀ whole items, ofItems whole items = .error fault → fault = .resultSize whole := by
    intro whole items h
    unfold ofItems at h
    split at h <;> cases h
    rfl
  cases v with
  | list items => exact hitems _ items h
  | tuple items => exact hitems _ items h
  | _ => cases h

namespace Definition

variable {d : Definition} {env : Environment} {s t : Boundary} {calls : List Call}

/-- A search fails exactly if it comes to a pattern that cannot be tried. -/
theorem select_eq_error : d.select env text place = .error fault ↔ fault = .bytesPattern ∧
    ∃ rule, d.policy.Reaches env.flags text place (d.table.get env.state) rule ∧ rule.Balks env.flags :=
  Policy.search_eq_error

/-- There is text left, and every rule of the state whose flags are set can be tried on it; none of them
has a match that is not empty. -/
structure NothingMatches (d : Definition) (text : Array Char) (s : Boundary) : Prop where
  inside : s.cursor.offset < text.size
  tried : ∀ rule ∈ d.table.get s.env.state, (∀ flag, rule.flags.contains flag → s.env.flags.contains flag) →
    ∃ found?, rule.matcher.tryAt text s.cursor.offset = .ok found? ∧
      ∀ found ∈ found?, found.stop ≤ s.cursor.offset

theorem nothingMatches_iff : d.NothingMatches text s ↔
    s.cursor.offset < text.size ∧ d.select s.env text s.cursor.offset = .ok none := by
  constructor
  · intro h
    refine ⟨h.inside, ?_⟩
    cases hselect : d.select s.env text s.cursor.offset with
    | error fault =>
      obtain ⟨_, rule, hreached, hbalks⟩ := select_eq_error.mp hselect
      obtain ⟨found?, hfound, _⟩ := h.tried rule hreached.mem hbalks.enabled
      cases hfound.symm.trans hbalks.tryAt_eq
    | ok c? =>
      cases c? with
      | none => rfl
      | some c =>
        have hpicks := select_eq_some hselect
        obtain ⟨found?, hfound, hempty⟩ := h.tried c.rule hpicks.mem hpicks.eligible.enabled
        cases hfound.symm.trans hpicks.eligible.matched
        exact absurd hpicks.eligible.advances (Nat.not_lt.mpr (hempty c.found rfl))
  · rintro ⟨inside, hselect⟩
    have hnone := select_eq_none hselect
    refine ⟨inside, fun rule hrule enabled => ?_⟩
    cases htried : rule.matcher.tryAt text s.cursor.offset with
    | ok found? =>
      refine ⟨found?, rfl, fun found hfound => Nat.le_of_not_lt fun advances => ?_⟩
      exact hnone rule hrule found ⟨enabled, htried.trans (congrArg Except.ok hfound), advances⟩
    | error fault =>
      -- No rule is eligible, so under either policy the search comes to this one and fails.
      obtain ⟨before, after, hsplit⟩ := List.append_of_mem hrule
      have hbefore : NoneEligible s.env.flags text s.cursor.offset before := fun other hother =>
        hnone other (by rw [hsplit]; exact List.mem_append_left _ hother)
      have hbalks : rule.Balks s.env.flags := ⟨enabled, (Matcher.tryAt_eq_error.mp htried).2⟩
      cases hselect.symm.trans
        (select_eq_error.mpr ⟨rfl, rule, ⟨before, after, hsplit, fun _ => hbefore⟩, hbalks⟩)

section Lex

variable {source : String} {label : Option String} {point : FailurePoint} {last : Environment}

/-- A pass with a failing step answers its fault, as the environment then tells it. -/
theorem Fails.answer_eq (steps : d.Steps source.toList.toArray (.start env) calls s)
    (h : d.Fails source.toList.toArray label s point fault last) (trace : Bool) :
    (d.lex source env label trace).answer = .error (last.readFault fault) := by
  obtain ⟨r, hends, hfault, hlast⟩ := h.exists_ends
  rw [Lexed.answer, steps.lex_eq, hends.runFrom_eq]
  dsimp only
  rw [hfault, hlast]
  rfl

/-- A pass returns tokens or has a failing step. -/
theorem answer_ok_or_fails (d : Definition) (source : String) (env : Environment) (label : Option String)
    (trace : Bool) :
    (∃ tokens, (d.lex source env label trace).answer = .ok tokens) ∨
      ∃ calls s point fault last, d.Steps source.toList.toArray (.start env) calls s ∧
        d.Fails source.toList.toArray label s point fault last ∧
        (d.lex source env label trace).answer = .error (last.readFault fault) := by
  obtain ⟨calls, s, steps, hends⟩ := d.exists_steps source.toList.toArray (.start env)
  rcases hends.done_or_fails label with ⟨hdone, _⟩ | ⟨point, fault, last, fails⟩
  · rw [Lexed.answer, steps.lex_eq, hdone]
    exact .inl ⟨_, rfl⟩
  · exact .inr ⟨calls, s, point, fault, last, steps, fails, fails.answer_eq steps trace⟩

end Lex

end Definition

end Lexing
