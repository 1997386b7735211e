import Lexing.Proofs.Builder
import Lexing.Proofs.CalculatorRules
import Lexing.Proofs.Failures
import Lexing.Proofs.Lockstep

/-! Rules that never fire. A rule is dead if one before it asks for no further flags and, wherever the
later one has a match, has one that the policy prefers. A dead rule may be deleted, and so it makes no
difference to declare a rule again. -/
namespace Lexing

variable {flags : FlagSet} {text : Array Char} {place : Nat} {policy : Policy}

def Policy.Prefers (policy : Policy) (m other : Match) : Prop :=
  match policy with
  | longest => other.length ≤ m.length
  | first => 1 ≤ m.length

/-- Wherever the later rule could fire, the earlier one has a match that the policy prefers. -/
structure Rule.Shadows (policy : Policy) (earlier later : Rule) : Prop where
  flags : ∀ flag, earlier.flags.contains flag → later.flags.contains flag
  preferred : ∀ text place m, later.matcher.tryAt text place = .ok (some m) → 1 ≤ m.length →
    ∃ n, earlier.matcher.tryAt text place = .ok (some n) ∧ policy.Prefers n m

/-- The rule is another one for the same pattern, which asks for the flags of the first at least. -/
structure Rule.Repeats (rule earlier : Rule) : Prop where
  matcher : rule.matcher = earlier.matcher
  flags : ∀ flag, earlier.flags.contains flag → rule.flags.contains flag

namespace Rule

theorem Eligible.length_pos {rule : Rule} {m : Match} (h : rule.Eligible flags text place m) :
    1 ≤ m.length := by
  have hadvances := h.advances
  rw [h.length_eq]
  omega

theorem Eligible.of_length_pos {rule : Rule} {m : Match}
    (enabled : ∀ flag, rule.flags.contains flag → flags.contains flag)
    (matched : rule.matcher.tryAt text place = .ok (some m)) (hlength : 1 ≤ m.length) :
    rule.Eligible flags text place m := by
  refine ⟨enabled, matched, ?_⟩
  rw [Match.length, (Matcher.tryAt_eq_some matched).2] at hlength
  omega

theorem Shadows.exists_eligible {earlier later : Rule} {m : Match} (h : earlier.Shadows policy later)
    (hm : later.Eligible flags text place m) :
    ∃ n, earlier.Eligible flags text place n ∧ policy.Prefers n m := by
  obtain ⟨n, hn, hprefers⟩ := h.preferred text place m hm.matched hm.length_pos
  have hlength : 1 ≤ n.length := by
    cases policy with
    | longest => exact Nat.le_trans hm.length_pos hprefers
    | first => exact hprefers
  exact ⟨n, .of_length_pos (fun flag hflag => hm.enabled flag (h.flags flag hflag)) hn hlength, hprefers⟩

theorem Repeats.shadows {rule earlier : Rule} (h : rule.Repeats earlier) (policy : Policy) :
    earlier.Shadows policy rule where
  flags := h.flags
  preferred text place m hm hlength := by
    refine ⟨m, h.matcher ▸ hm, ?_⟩
    cases policy with
    | longest => exact Nat.le_refl _
    | first => exact hlength

/-- A run of characters goes before one of them, whatever the policy. -/
theorem shadows_of_run {earlier later : Rule} {run char : Pattern} {set subset : Pattern.CharSet}
    (hearlier : earlier.matcher = .text run) (hrun : run.tree = .repetition 1 none .greedy (.char set))
    (hlater : later.matcher = .text char) (hchar : char.tree = .char subset)
    (hsets : ∀ c, subset.admits c → set.admits c)
    (hflags : ∀ flag, earlier.flags.contains flag → later.flags.contains flag) (policy : Policy) :
    earlier.Shadows policy later where
  flags := hflags
  preferred text place m hm _ := by
    rw [hlater] at hm
    have hmatch : char.matchAt text place = some m := Except.ok.inj hm
    obtain ⟨hadmits, hstop⟩ := (Pattern.matches_of_stops (Pattern.matchAt_char text place hchar)).1 m hmatch
    obtain ⟨c, hc, hsubset⟩ := (Option.any_eq_true _ _).mp hadmits
    have hwider : text[place]?.any set.admits := (Option.any_eq_true _ _).mpr ⟨c, hc, hsets c hsubset⟩
    obtain ⟨n, hn, hnstop⟩ := (Pattern.matches_of_stops (Pattern.matchAt_run text place hrun)).2 hwider
    have hrunLength := Pattern.runLength_of_pos (by rwa [Array.getElem?_toList])
    have hone : m.length = 1 := by
      rw [Match.length, hstop, (Pattern.matchAt_eq_some hmatch).2]
      omega
    have hmany : 1 ≤ n.length := by
      rw [Match.length, hnstop, (Pattern.matchAt_eq_some hn).2]
      omega
    refine ⟨n, hearlier ▸ congrArg Except.ok hn, ?_⟩
    cases policy with
    | longest => exact Nat.le_trans (Nat.le_of_eq hone) hmany
    | first => exact hmany

end Rule

/-! ## Lists with a dead rule -/

section Search

variable {seen : List Rule} {earlier dead : Rule} {best c? : Option (Candidate place)}

/-- A search that has gone through the rules before a dead one can try it too. -/
theorem Rule.Shadows.exists_ofRule (hshadows : earlier.Shadows policy dead) (hmem : earlier ∈ seen)
    (htried : dead.matcher.isText = false → earlier.matcher.isText = false)
    (hseen : policy.search flags text place seen = .ok best) (hall : policy = .first → best = none) :
    ∃ c?, Candidate.ofRule flags text place dead = .ok c? := by
  cases hc : Candidate.ofRule flags text place dead with
  | ok c? => exact ⟨c?, rfl⟩
  | error fault =>
    have hbalks := (Candidate.ofRule_eq_error.mp hc).2
    refine absurd ?_ (Policy.not_balks hseen hall hmem)
    exact ⟨fun flag hflag => hbalks.enabled flag (hshadows.flags flag hflag), htried hbalks.bytes⟩

/-- The best so far is as long as the match of the rule that shadows, and stays. -/
theorem Candidate.longer_dead (hbest : BestOf flags text place seen best) (hmem : earlier ∈ seen)
    (hshadows : earlier.Shadows .longest dead) (hdead : ofRule flags text place dead = .ok c?) :
    longer best c? = best := by
  cases c? with
  | none => cases best <;> rfl
  | some c =>
    obtain ⟨rfl, hc⟩ := ofRule_eq_some hdead
    obtain ⟨n, hn, hprefers⟩ := hshadows.exists_eligible hc
    cases best with
    | none => exact absurd hn (hbest earlier hmem n)
    | some b =>
      have hb : IsLongest flags text place seen b.rule b.found := hbest
      have hle : c.found.length ≤ b.found.length := Nat.le_trans hprefers (hb.longest earlier hmem n hn)
      rw [longer_some, length_eq hb.eligible, length_eq hc, if_neg (Nat.not_lt.mpr hle)]

theorem Candidate.eq_none_of_dead (hnone : NoneEligible flags text place seen) (hmem : earlier ∈ seen)
    (hshadows : earlier.Shadows policy dead) (hdead : ofRule flags text place dead = .ok c?) :
    c? = none := by
  cases c? with
  | none => rfl
  | some c =>
    obtain ⟨rfl, hc⟩ := ofRule_eq_some hdead
    obtain ⟨n, hn, _⟩ := hshadows.exists_eligible hc
    exact absurd hn (hnone earlier hmem n)

end Search

/-- The second list has one more rule, behind one that shadows it. Where the dead rule cannot be tried,
nor can that one. -/
def AddsDead (policy : Policy) (rules rules' : List Rule) : Prop :=
  ∃ seen rest earlier dead, rules = seen ++ rest ∧ rules' = seen ++ dead :: rest ∧ earlier ∈ seen ∧
    earlier.Shadows policy dead ∧ (dead.matcher.isText = false → earlier.matcher.isText = false)

namespace AddsDead

variable {rules rules' : List Rule}

theorem append (h : AddsDead policy rules rules') (more : List Rule) :
    AddsDead policy (rules ++ more) (rules' ++ more) := by
  obtain ⟨seen, rest, earlier, dead, rfl, rfl, hmem, hshadows, htried⟩ := h
  exact ⟨seen, rest ++ more, earlier, dead, List.append_assoc _ _ _, by simp, hmem, hshadows, htried⟩

theorem search_eq (h : AddsDead policy rules rules') :
    policy.search flags text place rules' = policy.search flags text place rules := by
  obtain ⟨seen, rest, earlier, dead, rfl, rfl, hmem, hshadows, htried⟩ := h
  cases policy with
  | longest =>
    unfold Policy.search
    rw [longestCandidate_append, longestCandidate_append]
    cases hseen : longestCandidate flags text place none seen with
    | error fault => rfl
    | ok best =>
      obtain ⟨c?, hdead⟩ := hshadows.exists_ofRule hmem htried hseen nofun
      have hbest : BestOf flags text place seen best := bestOf_longestCandidate BestOf.nil hseen
      change longestCandidate flags text place best (dead :: rest) = _
      rw [longestCandidate, hdead]
      change longestCandidate flags text place (Candidate.longer best c?) rest = _
      rw [Candidate.longer_dead hbest hmem hshadows hdead]
      rfl
  | first =>
    unfold Policy.search
    rw [firstCandidate_append, firstCandidate_append]
    cases hseen : firstCandidate flags text place seen with
    | error fault => rfl
    | ok best =>
      cases best with
      | some c => rfl
      | none =>
        obtain ⟨c?, hdead⟩ := hshadows.exists_ofRule hmem htried hseen fun _ => rfl
        obtain rfl := Candidate.eq_none_of_dead (firstCandidate_eq_none hseen) hmem hshadows hdead
        change firstCandidate flags text place (dead :: rest) = _
        rw [firstCandidate, hdead]
        rfl

end AddsDead

theorem Definition.lexesLike_of_addsDead {d d' : Definition} (hpolicy : d'.policy = d.policy)
    (h : ∀ state, d'.table.get state = d.table.get state ∨
      AddsDead d.policy (d.table.get state) (d'.table.get state))
    (source : String) (env : Environment) : d'.LexesLike d source env := by
  refine .of_selectsLike fun calls s _ _ => ?_
  rw [select_eq_search, select_eq_search, hpolicy]
  rcases h s.env.state with hsame | hdead
  · rw [hsame]
  · exact hdead.search_eq

/-! ## Deleting a rule -/

def RuleTable.eraseAt (table : RuleTable) (state : String) (i : Nat) : RuleTable :=
  ⟨table.entries.map fun (name, rules) => (name, if name = state then rules.eraseIdx i else rules)⟩

theorem RuleTable.get_eraseAt (table : RuleTable) (state : String) (i : Nat) (name : String) :
    (table.eraseAt state i).get name =
      if name = state then (table.get state).eraseIdx i else table.get name := by
  unfold get eraseAt
  rw [lookup_map fun name rules => if name = state then rules.eraseIdx i else rules]
  by_cases h : name = state
  · subst h
    rw [if_pos rfl]
    cases table.entries.lookup name <;> simp
  · rw [if_neg h]
    cases table.entries.lookup name <;> simp [h]

def Definition.eraseRule (d : Definition) (state : String) (i : Nat) : Definition :=
  { d with table := d.table.eraseAt state i }

theorem addsDead_eraseIdx {rules : List Rule} {earlier later : Rule} {i j : Nat}
    (hearlier : rules[i]? = some earlier) (hlater : rules[j]? = some later) (hlt : i < j)
    (hshadows : earlier.Shadows policy later) (htext : later.matcher.isText) :
    AddsDead policy (rules.eraseIdx j) rules := by
  obtain ⟨hj, rfl⟩ := List.getElem?_eq_some_iff.mp hlater
  have hmem : earlier ∈ rules.take j := by
    refine List.mem_of_getElem? (i := i) ?_
    rw [List.getElem?_take_of_lt hlt, hearlier]
  refine ⟨rules.take j, rules.drop (j + 1), earlier, rules[j], List.eraseIdx_eq_take_drop_succ _ _, ?_, hmem,
    hshadows, fun hbytes => ?_⟩
  · rw [← List.drop_eq_getElem_cons hj, List.take_append_drop]
  · rw [htext] at hbytes
    cases hbytes

/-! ## Declaring a rule again -/

namespace RuleTable

variable {table table' : RuleTable} {rule : Rule}

/-- A rule that is declared goes to the list of the state. -/
def Receives (table : RuleTable) (rule : Rule) (state : String) : Prop :=
  state ≠ allStates ∧ (rule.state = state ∨ rule.state = allStates ∧ state ∈ table.states)

/-- The same states, and lists that are the same but for a dead rule. -/
structure GainsDead (policy : Policy) (table table' : RuleTable) : Prop where
  states : table'.states = table.states
  rules : ∀ state, state ≠ allStates → table'.get state = table.get state ∨
    AddsDead policy (table.get state) (table'.get state)

theorem GainsDead.add (h : GainsDead policy table table') (rule : Rule) :
    GainsDead policy (table.add rule) (table'.add rule) where
  states := by rw [states_add, states_add, h.states]
  rules state hstate := by
    rw [get_add hstate, get_add hstate, h.states]
    split
    · exact (h.rules state hstate).imp (congrArg (· ++ [rule])) fun hdead => hdead.append [rule]
    · exact h.rules state hstate

theorem GainsDead.foldl_add (h : GainsDead policy table table') (rules : List Rule) :
    GainsDead policy (rules.foldl RuleTable.add table) (rules.foldl RuleTable.add table') := by
  induction rules generalizing table table' with
  | nil => exact h
  | cons rule rules ih => exact ih (h.add rule)

/-- A rule that is repeated wherever it goes makes no state and is dead in all. -/
theorem gainsDead_add (policy : Policy)
    (h : ∀ state, table.Receives rule state → ∃ earlier ∈ table.get state, rule.Repeats earlier) :
    GainsDead policy table (table.add rule) where
  states := by
    rw [states_add]
    refine if_pos (or_iff_not_imp_left.mpr fun hall => Decidable.byContradiction fun hnew => ?_)
    obtain ⟨earlier, hmem, _⟩ := h rule.state ⟨hall, .inl rfl⟩
    rw [get_of_notMem hnew] at hmem
    cases hmem
  rules state hstate := by
    rw [get_add hstate]
    split
    · next hreceives =>
      obtain ⟨earlier, hmem, hrepeats⟩ := h state ⟨hstate, hreceives⟩
      exact .inr ⟨table.get state, [], earlier, rule, (List.append_nil _).symm, rfl, hmem,
        hrepeats.shadows policy, fun hbytes => hrepeats.matcher ▸ hbytes⟩
    · exact .inl rfl

end RuleTable

namespace BuilderCall

variable {on : String}

theorem lexesLike_made {calls more : List (BuilderCall on)} {spec : RuleSpec} {rule : Rule}
    (hcreate : Rule.create spec = .ok rule)
    (h : ∀ state, (made calls).table.Receives rule state →
      ∃ earlier ∈ (made calls).table.get state, rule.Repeats earlier)
    (source : String) (env : Environment) :
    (made (calls ++ .rule spec :: more)).LexesLike (made (calls ++ more)) source env := by
  have hrule : (BuilderCall.rule spec : BuilderCall on).rule? = some rule := by
    rw [rule?, hcreate]
    rfl
  have hpolicy : (made (calls ++ .rule spec :: more)).policy = (made (calls ++ more)).policy := by
    rw [made_eq, made_eq]
    simp [policy?]
  have htable : (made (calls ++ more)).table = (more.filterMap (·.rule?)).foldl .add (made calls).table := by
    simp only [made_eq, List.filterMap_append, List.foldl_append]
  have htable' : (made (calls ++ .rule spec :: more)).table =
      (more.filterMap (·.rule?)).foldl .add ((made calls).table.add rule) := by
    simp only [made_eq, List.filterMap_append, List.foldl_append, List.filterMap_cons, hrule, List.foldl_cons]
  have hgains : (made (calls ++ more)).table.GainsDead (made (calls ++ more)).policy
      (made (calls ++ .rule spec :: more)).table := by
    rw [htable, htable']
    exact (RuleTable.gainsDead_add _ h).foldl_add _
  refine Definition.lexesLike_of_addsDead hpolicy (fun state => ?_) source env
  by_cases hstate : state = allStates
  · have hall := (determine_made (calls ++ more)).all
    rw [hstate, RuleTable.get_of_notMem hall, RuleTable.get_of_notMem (hgains.states ▸ hall)]
    exact .inl rfl
  · exact hgains.rules state hstate

end BuilderCall

open BuilderCall in
/-- A rule that another one shadows may be deleted from a state: whatever is lexed, the same rules fire and
it ends the same way. So it makes no difference to declare a rule again, whatever its action is, if all
lists that it goes to have a rule for the same pattern under no further flags. -/
theorem shadowed_rules_are_dead :
    (∀ (d : Definition) (state : String) (i j : Nat) (earlier later : Rule), d.Textual →
      (d.table.get state)[i]? = some earlier → (d.table.get state)[j]? = some later → i < j →
      earlier.Shadows d.policy later → ∀ source env, (d.eraseRule state j).LexesLike d source env) ∧
    ∀ (on : String) (calls more : List (BuilderCall on)) (spec : RuleSpec) (rule : Rule),
      Rule.create spec = .ok rule →
      (∀ state, (made calls).table.Receives rule state →
        ∃ earlier ∈ (made calls).table.get state, rule.Repeats earlier) →
      ∀ source env, (made (calls ++ .rule spec :: more)).LexesLike (made (calls ++ more)) source env := by
  refine ⟨?_, fun on calls more spec rule hcreate h => lexesLike_made hcreate h⟩
  intro d state i j earlier later htextual hearlier hlater hlt hshadows source env
  have htext : later.matcher.isText := htextual state later (List.mem_of_getElem? hlater)
  have hpolicy : d.policy = (d.eraseRule state j).policy := rfl
  have hwhole : d.LexesLike (d.eraseRule state j) source env := by
    refine Definition.lexesLike_of_addsDead hpolicy (fun name => ?_) source env
    rw [Definition.eraseRule, RuleTable.get_eraseAt]
    by_cases hname : name = state
    · rw [if_pos hname, hname]
      exact .inr (addsDead_eraseIdx hearlier hlater hlt hshadows htext)
    · rw [if_neg hname]
      exact .inl rfl
  exact hwhole.symm

def lateDigit : Rule := Calculator.signRule "7" '7' "SEVEN"

def numbersFirst : Definition := .ofRules .longest [Calculator.numberRule, lateDigit]

theorem numberRule_shadows_lateDigit (policy : Policy) : Calculator.numberRule.Shadows policy lateDigit := by
  have hearlier : Calculator.numberRule.matcher = .text ⟨"[0-9]+", Calculator.digits, 0, []⟩ := rfl
  have hlater : lateDigit.matcher = .text ⟨"7", .char (.single .exact '7'.toNat), 0, []⟩ := rfl
  refine Rule.shadows_of_run hearlier rfl hlater rfl (fun c hc => ?_) (fun flag hflag => hflag) policy
  rw [Calculator.admits_single] at hc
  rw [hc, Calculator.admits_digits]
  rfl

def spokenRule : Rule :=
  Calculator.compiled "a" (.char (.single .exact 'a'.toNat)) (.perform "a" fun _ => pure (.str "A"))

def quietRule : Rule := { spokenRule with action := .discard, flags := .ofList ["quiet"] }

def spoken : BuilderCall "b" := .rule { pattern := .text "a", action := .action spokenRule.action }

def quiet : RuleSpec := { pattern := .text "a", flags := .str "quiet" }

open BuilderCall in
theorem shadowed_rules_are_dead_digit :
    (numbersFirst.Textual ∧ (numbersFirst.table.get defaultState)[0]? = some Calculator.numberRule ∧
      (numbersFirst.table.get defaultState)[1]? = some lateDigit ∧
      Calculator.numberRule.Shadows numbersFirst.policy lateDigit ∧
      ∀ source env, (numbersFirst.eraseRule defaultState 1).LexesLike numbersFirst source env) ∧
    let more : List (BuilderCall "b") := [.rule { pattern := .text "b", state := allStates }, .matchFirst]
    Rule.create quiet = .ok quietRule ∧
      (∀ state, (made [spoken]).table.Receives quietRule state →
        ∃ earlier ∈ (made [spoken]).table.get state, quietRule.Repeats earlier) ∧
      ∀ source env, (made ([spoken] ++ .rule quiet :: more)).LexesLike (made ([spoken] ++ more)) source env := by
  have htextual : numbersFirst.Textual := Definition.textual_of_all rfl
  have hshadows : Calculator.numberRule.Shadows numbersFirst.policy lateDigit := numberRule_shadows_lateDigit _
  have hcreate : Rule.create quiet = .ok quietRule := rfl
  have hmade : (made [spoken]).table = ⟨[(defaultState, [spokenRule])]⟩ := rfl
  have hagain : ∀ state, (made [spoken]).table.Receives quietRule state →
      ∃ earlier ∈ (made [spoken]).table.get state, quietRule.Repeats earlier := by
    rintro state ⟨_, rfl | ⟨hall, _⟩⟩
    · rw [hmade]
      exact ⟨spokenRule, List.mem_singleton_self _, rfl, fun flag hflag => by cases hflag⟩
    · exact absurd hall (by decide)
  exact ⟨⟨htextual, rfl, rfl, hshadows,
      shadowed_rules_are_dead.1 _ defaultState 0 1 _ _ htextual rfl rfl Nat.zero_lt_one hshadows⟩,
    hcreate, hagain, shadowed_rules_are_dead.2 "b" [spoken] _ quiet quietRule hcreate hagain⟩

end Lexing
