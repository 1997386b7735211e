import Lexing.Proofs.FlagCalls
import Lexing.Proofs.FlagSequences

/-! The set of flags that rules need, and the set of those that are set, are all that flags do to a run. The more
of them are set, the more rules are eligible, and the better is what a policy picks. -/
namespace Lexing

section

variable {flags flags' : FlagSet} {text : Array Char} {place : Nat}

theorem FlagSet.isSubset_insert (flags : FlagSet) (name : String) : flags.isSubset (flags.insert name) :=
  isSubset_iff.mpr fun x h => by simp [h]

theorem Rule.Eligible.mono {rule : Rule} {found : Match} (h : rule.Eligible flags text place found)
    (hsubset : flags.isSubset flags') : rule.Eligible flags' text place found where
  enabled flag hflag := FlagSet.isSubset_iff.mp hsubset flag (h.enabled flag hflag)
  matched := h.matched
  advances := h.advances

end

namespace Definition

/-- The rule with this number among those of the state is selected, and none before it is eligible. -/
structure SelectsAt (d : Definition) (env : Environment) (text : Array Char) (place i : Nat)
    (c : Candidate place) : Prop where
  selected : d.select env text place = .ok (some c)
  rule : (d.table.get env.state)[i]? = some c.rule
  eligible : c.rule.Eligible env.flags text place c.found
  before : NoneEligible env.flags text place ((d.table.get env.state).take i)

/-- In the second environment the choice is no worse than in the first one: not a shorter match under the one
policy, not a later rule under the other, and no candidate only if there was none before. -/
structure ChoosesNoWorse (d : Definition) (env env' : Environment) (text : Array Char) (place : Nat) : Prop where
  answers : (∃ c?, d.select env text place = .ok c?) ∧ ∃ c?, d.select env' text place = .ok c?
  longest : d.policy = .longest → ∀ c, d.select env text place = .ok (some c) →
    ∃ c', d.select env' text place = .ok (some c') ∧ c.length ≤ c'.length
  first : d.policy = .first → ∀ c, d.select env text place = .ok (some c) →
    ∃ i c' j, d.SelectsAt env text place i c ∧ d.SelectsAt env' text place j c' ∧ j ≤ i

section

variable {d : Definition} {env env' : Environment} {text : Array Char} {place : Nat} {c : Candidate place}

theorem exists_selectsAt (hpolicy : d.policy = .first) (h : d.select env text place = .ok (some c)) :
    ∃ i, d.SelectsAt env text place i c := by
  have hpicks := select_eq_some h
  rw [hpolicy] at hpicks
  obtain ⟨heligible, before, after, hrules, hbefore⟩ := hpicks
  refine ⟨before.length, h, ?_, heligible, ?_⟩
  · rw [hrules, List.getElem?_append_right (Nat.le_refl _), Nat.sub_self, List.getElem?_cons_zero]
  · rwa [hrules, List.take_left]

/-- A rule that is selected is eligible also where more flags are set, so one is selected there. -/
theorem exists_select_of_subset (htextual : d.Textual) (hstate : env'.state = env.state)
    (hsubset : env.flags.isSubset env'.flags) (h : d.select env text place = .ok (some c)) :
    ∃ c', d.select env' text place = .ok (some c') := by
  obtain ⟨c'?, hc'⟩ : ∃ c'?, d.select env' text place = .ok c'? := exists_select htextual
  cases c'? with
  | some c' => exact ⟨c', hc'⟩
  | none =>
    have hpicks := select_eq_some h
    have hmem : c.rule ∈ d.table.get env'.state := hstate ▸ hpicks.mem
    exact absurd (hpicks.eligible.mono hsubset) (select_eq_none hc' c.rule hmem c.found)

theorem choosesNoWorse (htextual : d.Textual) (hstate : env'.state = env.state)
    (hsubset : env.flags.isSubset env'.flags) (text : Array Char) (place : Nat) :
    d.ChoosesNoWorse env env' text place where
  answers := ⟨exists_select htextual, exists_select htextual⟩
  longest := by
    intro hpolicy c hc
    obtain ⟨c', hc'⟩ := exists_select_of_subset htextual hstate hsubset hc
    have hpicks := select_eq_some hc
    have hpicks' := select_eq_some hc'
    have hmem : c.rule ∈ d.table.get env'.state := hstate ▸ hpicks.mem
    refine ⟨c', hc', ?_⟩
    rw [Candidate.length_eq hpicks.eligible, Candidate.length_eq hpicks'.eligible]
    rw [hpolicy] at hpicks'
    exact IsLongest.longest hpicks' c.rule hmem c.found (hpicks.eligible.mono hsubset)
  first := by
    intro hpolicy c hc
    obtain ⟨c', hc'⟩ := exists_select_of_subset htextual hstate hsubset hc
    obtain ⟨i, hi⟩ := exists_selectsAt hpolicy hc
    obtain ⟨j, hj⟩ := exists_selectsAt hpolicy hc'
    refine ⟨i, c', j, hi, hj, Nat.le_of_not_lt fun hlt => ?_⟩
    -- The rule that is selected with fewer flags would stand before that selected with more of them.
    have hbefore : c.rule ∈ (d.table.get env'.state).take j := by
      rw [hstate]
      exact List.mem_of_getElem? (by rw [List.getElem?_take_of_lt hlt]; exact hi.rule)
    exact hj.before c.rule hbefore c.found (hi.eligible.mono hsubset)

end

end Definition

/-- Flags count as sets. Told otherwise but the same as a set, those of rules make no difference to a session nor
to a kind of lexer; and if actions are replaced besides, what is built has the same patterns and sets. From any
boundary on, such definitions have the same runs as long as corresponding actions differ in calls about flags
that come to the same: the same firings, tokens or fault, log and environment. And with more flags set, what is
chosen at a place gets no worse. -/
theorem flags_count_as_sets :
    (∀ steps steps', Session.Respelled steps steps' → ∀ s : Session,
      s.told steps' = s.told steps ∧ s.after steps' = s.after steps) ∧
    (∀ specs specs', List.Forall₂ (RuleSpec.Respelled Eq) specs specs' → ∀ (parent : LexerType) name settings,
      (do parent.extend name (← specs'.mapM Declaration.declare) settings) =
        (do parent.extend name (← specs.mapM Declaration.declare) settings)) ∧
    (∀ on (calls calls' : List (BuilderCall on)), List.Forall₂ BuilderCall.Exchanged calls calls' →
      (BuilderCall.made calls).SamePatterns (BuilderCall.made calls') ∧
        (BuilderCall.made calls').start = (BuilderCall.made calls).start) ∧
    (∀ body body', Script.Reflagged body body' → ∀ name result env text,
      (Script.action name body result).Reflagged (Script.action name body' result) env text) ∧
    (∀ (d d' : Definition) text s, d.SamePatterns d' → d.Reflags d' text s → d.RepeatsFrom d' text s) ∧
    (∀ (d d' : Definition) source env, d.SamePatterns d' → d.Reflags d' source.toList.toArray (.start env) →
      ∀ label trace, d'.lex source env label trace = d.lex source env label trace) ∧
    ∀ (d : Definition) env env' text place, d.Textual → env'.state = env.state →
      env.flags.isSubset env'.flags → d.ChoosesNoWorse env env' text place := by
  refine ⟨fun steps steps' hsteps s => ?_, fun _ _ => LexerType.extend_of_respelled,
    fun on calls calls' hcalls => ?_, fun _ _ h => h.action, fun d d' text s => Definition.repeatsFrom,
    fun d d' source env hsame hflags => (Definition.repeatsFrom hsame hflags).lex_eq,
    fun d env env' text place htextual hstate hsubset =>
      Definition.choosesNoWorse htextual hstate hsubset text place⟩
  · rw [Session.told, Session.told, Session.after, Session.after, hsteps.replyAll_eq]
    exact ⟨rfl, rfl⟩
  · have hmade := BuilderCall.exchanged_made hcalls
    exact ⟨hmade.samePatterns, hmade.start⟩

/-- A letter for which flags must be set, and what is done with it. -/
def letter (flags : Value) (body : List Stmt) : RuleSpec where
  pattern := .compiled ⟨"a", .char (.single .exact 'a'.toNat), 0, []⟩
  flags := flags
  action := .action (Script.action "letter" body (.const (.str "LETTER")))

/-- The call that declares it. -/
def letterCall (flags : Value) (body : List Stmt) : BuilderCall "rules" := .rule (letter flags body)

/-- The same two flags are told in either order, one of them twice, and a branch of the action unsets a flag
before it sets it, or does not. A letter is there only for both flags. -/
theorem flags_count_as_sets_letter :
    let flags : Value := .list [.str "f", .str "g"]
    let flags' : Value := .tuple [.str "g", .str "f", .str "g"]
    let setting (changes : List Change) : List Stmt :=
      [.branch (.hasFlag (.const (.str "f"))) (changes.map (·.stmt) ++ []) []]
    let body := setting [.unsetFlag "g", .setFlag "g"]
    let body' := setting [.setFlag "g"]
    let steps (flags : Value) : List Session.Step :=
      [.builder "rules", .rule "rules" (letter flags body), .build "rules" "letters", .scan "letters" "aa" none none]
    let d := BuilderCall.made [letterCall flags body]
    let d' := BuilderCall.made [letterCall flags' body']
    let fewer := (Environment.plain defaultState).setFlag "f"
    let more := fewer.setFlag "g"
    Session.initial.told (steps flags') = Session.initial.told (steps flags) ∧
      (do LexerType.base.extend "Letters" (← [letter flags' body].mapM Declaration.declare) {}) =
        (do LexerType.base.extend "Letters" (← [letter flags body].mapM Declaration.declare) {}) ∧
      d.SamePatterns d' ∧ d.RepeatsFrom d' "aa".toList.toArray (.start more) ∧
      (∀ label trace, d'.lex "aa" more label trace = d.lex "aa" more label trace) ∧
      (d.run "aa".toList.toArray .start more).firings.length = 2 ∧
      d.ChoosesNoWorse fewer more "aa".toList.toArray 0 ∧
      d.select fewer "aa".toList.toArray 0 = .ok none := by
  intro flags flags' setting body body' steps d d' fewer more
  obtain ⟨htold, hextend, hmade, haction, hruns, hlex, hgrows⟩ := flags_count_as_sets
  have hgives : Declaration.GivesFlags flags (["f", "g"].map .str) := .each nofun rfl
  have hgives' : Declaration.GivesFlags flags' (["g", "f", "g"].map .str) := .each nofun rfl
  have hflags : SameFlags flags flags' := .names hgives hgives' (by simp [or_comm])
  have hspec : (letter flags body).Respelled Eq (letter flags' body) := ⟨rfl, rfl, hflags, rfl⟩
  have hnet (set : FlagSet) : Change.net [.setFlag "g"] set = Change.net [.unsetFlag "g", .setFlag "g"] set :=
    (FlagSet.insert_erase set "g").symm
  have hbody : Script.Reflagged body body' :=
    .branch _ (.calls (by decide) (by decide) hnet .nil) .nil .nil
  have hsame : d.SamePatterns d' := (hmade "rules" [letterCall flags body] [letterCall flags' body']
    (.cons (.rule ⟨rfl, rfl, hflags, .action _ _⟩) .nil)).1
  have hreflags (text : Array Char) (s : Boundary) : d.Reflags d' text s := by
    intro calls t f rule' _ _ hrules
    have hget : d.table.get f.state = if f.state = defaultState then d.table.get defaultState else [] :=
      RuleTable.get_singleton defaultState _ f.state
    have hget' : d'.table.get f.state = if f.state = defaultState then d'.table.get defaultState else [] :=
      RuleTable.get_singleton defaultState _ f.state
    rw [Definition.Corresponds, hget, hget'] at hrules
    split at hrules
    · obtain ⟨hrule, hrule'⟩ := Prod.mk.inj (List.mem_singleton.mp hrules)
      rw [hrule, hrule']
      exact haction body body' hbody "letter" _ _ _
    · cases hrules
  have hsteps : Session.Respelled (steps flags) (steps flags') := .cons _ (.rule _ hspec (.cons _ (.cons _ .nil)))
  have htextual : d.Textual := Definition.textual_of_all rfl
  have hsubset : fewer.flags.isSubset more.flags := FlagSet.isSubset_insert fewer.flags "g"
  exact ⟨(htold _ _ hsteps Session.initial).1, hextend _ _ (.cons hspec .nil) .base "Letters" {}, hsame,
    hruns d d' _ _ hsame (hreflags _ _), hlex d d' "aa" more hsame (hreflags _ _), by decide +kernel,
    hgrows d fewer more _ 0 htextual rfl hsubset, rfl⟩

end Lexing
