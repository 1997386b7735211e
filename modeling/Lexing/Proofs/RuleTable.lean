import Lexing.RuleTable
import Mathlib.Data.List.Induction
import Mathlib.Data.List.TakeWhile

/-! What a table holds after any declarations. A rule for all states reaches those that were named before
it, so a state has the rules for all that follow the first rule of its own. -/
namespace Lexing

/-- The states that rules name, in the order in which they first do. -/
def namedStates (rules : List Rule) : List String :=
  ((rules.map (·.state)).filter (· != allStates)).eraseDups

/-- From the first rule for a state on, the rules for it and those for all states. -/
def rulesFor (state : String) (rules : List Rule) : List Rule :=
  (rules.dropWhile (·.state != state)).filter fun rule => rule.state == state || rule.state == allStates

theorem mem_namedStates {rules : List Rule} {state : String} :
    state ∈ namedStates rules ↔ state ≠ allStates ∧ ∃ rule ∈ rules, rule.state = state := by
  simp [namedStates, and_comm]

theorem namedStates_concat (rules : List Rule) (rule : Rule) :
    namedStates (rules ++ [rule]) =
      if rule.state = allStates ∨ rule.state ∈ namedStates rules then namedStates rules
      else namedStates rules ++ [rule.state] := by
  simp only [mem_namedStates]
  unfold namedStates
  rw [List.map_append, List.filter_append, List.eraseDups_append]
  by_cases hall : rule.state = allStates
  · simp [hall, List.removeAll]
  · by_cases hnamed : ∃ earlier ∈ rules, earlier.state = rule.state
    · simp [hall, hnamed, List.removeAll]
    · simp [hall, hnamed, List.removeAll, List.eraseDups_cons]

theorem rulesFor_concat {state : String} (hstate : state ≠ allStates) (rules : List Rule) (rule : Rule) :
    rulesFor state (rules ++ [rule]) =
      if rule.state = state ∨ rule.state = allStates ∧ state ∈ namedStates rules then
        rulesFor state rules ++ [rule]
      else rulesFor state rules := by
  simp only [mem_namedStates]
  unfold rulesFor
  rw [List.dropWhile_append]
  -- A state that no rule named so far has yet to begin, and only a rule of its own begins it.
  by_cases hnamed : ∃ earlier ∈ rules, earlier.state = state
  · have hsome : rules.dropWhile (·.state != state) ≠ [] := by
      rw [Ne, List.dropWhile_eq_nil_iff]
      simpa using hnamed
    rw [List.isEmpty_eq_false_iff.mpr hsome, if_neg Bool.false_ne_true, List.filter_append]
    by_cases hown : rule.state = state
    · simp [hown]
    · by_cases hall : rule.state = allStates <;> simp [hown, hall, hstate, hnamed]
  · have hnone : rules.dropWhile (·.state != state) = [] := by
      rw [List.dropWhile_eq_nil_iff]
      simpa using hnamed
    rw [hnone]
    by_cases hown : rule.state = state <;> simp [hown, hnamed]

namespace RuleTable

variable {table : RuleTable} {rule : Rule} {state : String}

theorem lookup_cons_ite (state name : String) (rules : List Rule) (entries : List (String × List Rule)) :
    ((name, rules) :: entries).lookup state = if state = name then some rules else entries.lookup state := by
  rw [List.lookup_cons]
  by_cases h : state = name
  · simp [h]
  · rw [if_neg h, beq_eq_false_iff_ne.mpr h]

theorem get_singleton (name : String) (rules : List Rule) (state : String) :
    get ⟨[(name, rules)]⟩ state = if state = name then rules else [] := by
  unfold get
  rw [lookup_cons_ite]
  split <;> rfl

theorem lookup_map (f : String → List Rule → List Rule) (entries : List (String × List Rule)) :
    (entries.map fun (name, rules) => (name, f name rules)).lookup state =
      (entries.lookup state).map (f state) := by
  induction entries with
  | nil => rfl
  | cons entry entries ih =>
    obtain ⟨name, rules⟩ := entry
    rw [List.map_cons, lookup_cons_ite, lookup_cons_ite, ih]
    split
    · next h => rw [h, Option.map_some]
    · rfl

theorem lookup_appendTo (name : String) (entries : List (String × List Rule)) :
    (appendTo name rule entries).lookup state =
      if state = name then some ((entries.lookup name).getD [] ++ [rule]) else entries.lookup state := by
  induction entries with
  | nil => exact lookup_cons_ite _ _ _ _
  | cons entry entries ih =>
    obtain ⟨other, rules⟩ := entry
    unfold appendTo
    by_cases hother : other = name
    · subst hother
      rw [if_pos rfl, lookup_cons_ite, lookup_cons_ite, lookup_cons_ite, if_pos rfl]
      split <;> rfl
    · rw [if_neg hother, lookup_cons_ite, lookup_cons_ite, lookup_cons_ite, ih, if_neg (Ne.symm hother)]
      by_cases hstate : state = name
      · rw [if_pos hstate, if_neg fun h => hother (h.symm.trans hstate), if_pos hstate]
      · rw [if_neg hstate, if_neg hstate]

theorem map_fst_appendTo (name : String) (entries : List (String × List Rule)) :
    (appendTo name rule entries).map (·.1) =
      if name ∈ entries.map (·.1) then entries.map (·.1) else entries.map (·.1) ++ [name] := by
  induction entries with
  | nil => rfl
  | cons entry entries ih =>
    obtain ⟨other, rules⟩ := entry
    unfold appendTo
    by_cases hother : other = name
    · simp [hother]
    · rw [if_neg hother, List.map_cons, List.map_cons, ih]
      simp only [List.mem_cons, Ne.symm hother, false_or]
      split <;> rfl

theorem isSome_lookup_iff : (table.entries.lookup state).isSome ↔ state ∈ table.states := by
  rw [List.lookup_isSome_iff, states, List.mem_map]
  exact exists_congr fun entry => and_congr_right fun _ => beq_iff_eq.trans eq_comm

theorem get_of_notMem (h : state ∉ table.states) : table.get state = [] := by
  rw [← isSome_lookup_iff, Option.not_isSome_iff_eq_none] at h
  rw [get, h]
  rfl

theorem states_add (table : RuleTable) (rule : Rule) :
    (table.add rule).states =
      if rule.state = allStates ∨ rule.state ∈ table.states then table.states
      else table.states ++ [rule.state] := by
  unfold add
  by_cases hall : rule.state = allStates
  · simp [hall, states, Function.comp_def]
  · rw [if_neg hall, states, map_fst_appendTo]
    simp only [hall, false_or]
    rfl

theorem get_add (hstate : state ≠ allStates) (table : RuleTable) (rule : Rule) :
    (table.add rule).get state =
      if rule.state = state ∨ rule.state = allStates ∧ state ∈ table.states then table.get state ++ [rule]
      else table.get state := by
  unfold add get
  by_cases hall : rule.state = allStates
  · rw [if_pos hall, lookup_map fun _ rules => rules ++ [rule]]
    simp only [← isSome_lookup_iff]
    cases table.entries.lookup state <;> simp [hall, Ne.symm hstate]
  · rw [if_neg hall, lookup_appendTo]
    by_cases hown : state = rule.state
    · simp [hown]
    · simp [hown, Ne.symm hown, hall]

/-- A table holds what the rules that were added to it name. -/
theorem states_foldl_add (rules : List Rule) : (rules.foldl add empty).states = namedStates rules := by
  induction rules using List.reverseRecOn with
  | nil => rfl
  | append_singleton rules rule ih =>
    rw [List.foldl_append, List.foldl_cons, List.foldl_nil, states_add, ih, namedStates_concat]

theorem get_foldl_add (hstate : state ≠ allStates) (rules : List Rule) :
    (rules.foldl add empty).get state = rulesFor state rules := by
  induction rules using List.reverseRecOn with
  | nil => rfl
  | append_singleton rules rule ih =>
    rw [List.foldl_append, List.foldl_cons, List.foldl_nil, get_add hstate, ih, states_foldl_add,
      rulesFor_concat hstate]

end RuleTable

end Lexing
