import Lexing.Proofs.Builder
import Lexing.Proofs.Segmentation
import Mathlib.Algebra.BigOperators.Group.List.Basic
import Mathlib.Algebra.GroupWithZero.Nat
import Mathlib.Data.List.Nodup

/-! A rule for all states is short for one rule for each state there is by then. Spelled out like this, calls
build the same, up to the states that rules say they were declared for, which nothing that runs asks about. -/
namespace Lexing

/-- The rule as if it were declared for this state. -/
def Rule.inState (state : String) (rule : Rule) : Rule := { rule with state }

/-- The two rules differ at most in the states that they were declared for. -/
def Rule.Alike (rule rule' : Rule) : Prop := rule' = rule.inState rule'.state

theorem Rule.create_inState (spec : RuleSpec) (state : String) :
    Rule.create { spec with state } = (Rule.create spec).map (·.inState state) := by
  unfold Rule.create
  cases spec.pattern.matcher with
  | error fault => rfl
  | ok matcher =>
    cases spec.action.action? with
    | error fault => rfl
    | ok action => cases FlagSet.ofValue spec.flags <;> rfl

/-! ## Tables -/

namespace RuleTable

variable {table : RuleTable} {rule : Rule} {state : String}

theorem ruleCount_eq_sum (table : RuleTable) : table.ruleCount = (table.entries.map (·.2.length)).sum :=
  List.sum_eq_foldl.symm

theorem sum_appendTo (state : String) (rule : Rule) (entries : List (String × List Rule)) :
    ((appendTo state rule entries).map (·.2.length)).sum = (entries.map (·.2.length)).sum + 1 := by
  induction entries with
  | nil => rfl
  | cons entry entries ih =>
    obtain ⟨other, rules⟩ := entry
    unfold appendTo
    split
    · simp only [List.map_cons, List.sum_cons, List.length_append, List.length_singleton]
      omega
    · simp only [List.map_cons, List.sum_cons, ih]
      omega

theorem ruleCount_add (table : RuleTable) (rule : Rule) :
    (table.add rule).ruleCount = table.ruleCount + if rule.state = allStates then table.size else 1 := by
  rw [ruleCount_eq_sum, ruleCount_eq_sum, add]
  split
  · rw [List.map_map]
    simp [Function.comp_def, size]
  · exact sum_appendTo _ _ _

theorem nodup_states_foldl_add (rules : List Rule) : (rules.foldl add empty).states.Nodup := by
  induction rules using List.reverseRecOn with
  | nil => exact List.nodup_nil
  | append_singleton rules rule ih =>
    rw [List.foldl_append, List.foldl_cons, List.foldl_nil, states_add]
    split
    · exact ih
    · next hnew =>
      refine List.nodup_append.mpr ⟨ih, List.nodup_singleton _, fun state hstate other hother heq => ?_⟩
      rw [List.mem_singleton.mp hother] at heq
      exact hnew (.inr (heq ▸ hstate))

/-- One rule for each of some states of the table goes to just those, and makes no other state. -/
theorem foldl_add_inState (table : RuleTable) {names : List String} (hnames : names.Nodup)
    (hpresent : ∀ name ∈ names, name ∈ table.states) (hall : allStates ∉ table.states) (rule : Rule) :
    let spread := (names.map rule.inState).foldl add table
    spread.states = table.states ∧ spread.ruleCount = table.ruleCount + names.length ∧
      ∀ state ∈ table.states, spread.get state =
        if state ∈ names then table.get state ++ [rule.inState state] else table.get state := by
  induction names generalizing table with
  | nil => exact ⟨rfl, rfl, fun state _ => by simp⟩
  | cons name names ih =>
    obtain ⟨hfresh, hnames⟩ := List.nodup_cons.mp hnames
    have hname : name ∈ table.states := hpresent name List.mem_cons_self
    have hne : name ≠ allStates := fun h => hall (h ▸ hname)
    have hstates : (table.add (rule.inState name)).states = table.states := by
      rw [states_add, if_pos (.inr hname)]
    obtain ⟨ihstates, ihcount, ihget⟩ :=
      ih (table.add (rule.inState name)) hnames
        (fun other hother => hstates ▸ hpresent other (List.mem_cons_of_mem _ hother)) (hstates ▸ hall)
    refine ⟨ihstates.trans hstates, ?_, fun state hstate => ?_⟩
    · rw [List.map_cons, List.foldl_cons, ihcount, ruleCount_add,
        if_neg (show ¬(rule.inState name).state = _ from hne),
        List.length_cons]
      omega
    · rw [List.map_cons, List.foldl_cons, ihget state (hstates ▸ hstate),
        get_add (fun h => hall (h ▸ hstate))]
      have hiff : (rule.inState name).state = state ↔ state = name := eq_comm
      have hnall : ¬ (rule.inState name).state = allStates := hne
      simp only [hiff, hnall, false_and, or_false, List.mem_cons]
      by_cases hown : state = name
      · subst hown
        simp [hfresh]
      · simp [hown]

end RuleTable

/-! ## Calls -/

namespace BuilderCall

variable {on : String}

/-- The call declares a rule for all states, and succeeds. -/
def isForAll (call : BuilderCall on) : Bool := call.rule?.any (·.state == allStates)

/-- A rule for all states as one for each of those there are; any other call as it is. -/
def spelled (d : Definition) (call : BuilderCall on) : List (BuilderCall on) :=
  match call with
  | rule spec => if call.isForAll then d.table.states.map fun state => rule { spec with state } else [call]
  | _ => [call]

/-- Each call, along with what the calls before it have made. -/
def situated (calls : List (BuilderCall on)) : List (Definition × BuilderCall on) :=
  calls.mapIdx fun i call => (made (calls.take i), call)

/-- The calls with every rule for all states spelled out. -/
def expand (calls : List (BuilderCall on)) : List (BuilderCall on) :=
  (situated calls).flatMap fun (d, call) => call.spelled d

/-- How many rules there are, counted once for each state they are in: one for each call that declares one, and
for each that does so for all states as many as there are states by then. -/
def slots (calls : List (BuilderCall on)) : Nat :=
  (calls.filterMap (·.rule?)).countP (·.state != allStates) +
    (((situated calls).filter (·.2.isForAll)).map (·.1.table.size)).sum

theorem situated_concat (calls : List (BuilderCall on)) (call : BuilderCall on) :
    situated (calls ++ [call]) = situated calls ++ [(made calls, call)] := by
  have hearlier : calls.mapIdx (fun i call' => (made ((calls ++ [call]).take i), call')) = situated calls := by
    refine List.mapIdx_eq_mapIdx_iff.mpr fun i hi => ?_
    rw [List.take_append_of_le_length (Nat.le_of_lt hi)]
  rw [situated, List.mapIdx_concat, hearlier, List.take_left]

theorem expand_concat (calls : List (BuilderCall on)) (call : BuilderCall on) :
    expand (calls ++ [call]) = expand calls ++ call.spelled (made calls) := by
  rw [expand, situated_concat, List.flatMap_append, List.flatMap_singleton]
  rfl

theorem slots_concat (calls : List (BuilderCall on)) (call : BuilderCall on) :
    slots (calls ++ [call]) = slots calls +
      if call.isForAll then (made calls).table.size else call.rule?.toList.length := by
  rw [slots, situated_concat, List.filterMap_append, List.countP_append, List.filter_append, List.map_append,
    List.sum_append, slots, isForAll]
  cases hrule : call.rule? with
  | none => simp [hrule, isForAll]
  | some rule => by_cases hall : rule.state = allStates <;> simp +arith [hrule, isForAll, hall]

/-- The rule for a state of each of some names is added to what the calls made. -/
theorem made_append_rules {spec : RuleSpec} {rule : Rule} (h : Rule.create spec = .ok rule)
    (calls : List (BuilderCall on)) (names : List String) :
    made (calls ++ names.map fun state => .rule { spec with state }) =
      { made calls with table := (names.map rule.inState).foldl .add (made calls).table } := by
  induction names generalizing calls with
  | nil => rw [List.map_nil, List.append_nil]; rfl
  | cons name names ih =>
    have hchange : (change (.rule { spec with state := name } : BuilderCall on) (made calls)) =
        .ok { made calls with table := (made calls).table.add (rule.inState name) } := by
      rw [change, Definition.rule, Rule.create_inState, h]
      rfl
    rw [List.map_cons, List.append_cons, ih, made_concat, hchange]
    rfl

/-- The second definition has the rules of the first, each declared for the state that it is in. -/
structure SpelledOut (d e : Definition) : Prop where
  states : e.table.states = d.table.states
  rules : ∀ state, e.table.get state = (d.table.get state).map (·.inState state)
  policy : e.policy = d.policy
  start : e.start = d.start

namespace SpelledOut

variable {d e : Definition} {rule : Rule}

/-- A rule for one state is the same in both. -/
theorem add (h : SpelledOut d e) (hall : allStates ∉ d.table.states) (hrule : rule.state ≠ allStates) :
    SpelledOut { d with table := d.table.add rule } { e with table := e.table.add rule } where
  states := by
    dsimp only
    rw [RuleTable.states_add, RuleTable.states_add, h.states]
  rules state := by
    dsimp only
    by_cases hstate : state = allStates
    · subst hstate
      have hnone : allStates ∉ (d.table.add rule).states := by
        rw [RuleTable.states_add]
        split
        · exact hall
        · simpa [hall] using hrule.symm
      have hnone' : allStates ∉ (e.table.add rule).states := by
        rwa [RuleTable.states_add, h.states, ← RuleTable.states_add]
      rw [RuleTable.get_of_notMem hnone, RuleTable.get_of_notMem hnone', List.map_nil]
    · rw [RuleTable.get_add hstate, RuleTable.get_add hstate, h.rules, h.states]
      simp only [hrule, false_and, or_false]
      by_cases hown : rule.state = state
      · subst hown
        rw [if_pos rfl, if_pos rfl, List.map_append]
        rfl
      · rw [if_neg hown, if_neg hown]
  policy := h.policy
  start := h.start

/-- A rule for all states in one is a rule for each of them in the other. -/
theorem addAll (h : SpelledOut d e) (hall : allStates ∉ d.table.states) (hnodup : d.table.states.Nodup)
    (hrule : rule.state = allStates) :
    SpelledOut { d with table := d.table.add rule }
      { e with table := (d.table.states.map rule.inState).foldl .add e.table } := by
  obtain ⟨hstates, _, hget⟩ := RuleTable.foldl_add_inState e.table hnodup
    (fun name hname => h.states ▸ hname) (h.states ▸ hall) rule
  have hadd : (d.table.add rule).states = d.table.states := by
    rw [RuleTable.states_add, if_pos (.inl hrule)]
  refine ⟨(hstates.trans h.states).trans hadd.symm, fun state => ?_, h.policy, h.start⟩
  dsimp only
  by_cases hstate : state ∈ d.table.states
  · have hne : state ≠ allStates := fun heq => hall (heq ▸ hstate)
    rw [hget state (h.states ▸ hstate), if_pos hstate, RuleTable.get_add hne, if_pos (.inr ⟨hrule, hstate⟩),
      h.rules, List.map_append]
    rfl
  · have hnone : state ∉ (d.table.add rule).states := by rwa [hadd]
    have hnone' : state ∉ ((d.table.states.map rule.inState).foldl .add e.table).states := by
      rwa [hstates, h.states]
    rw [RuleTable.get_of_notMem hnone, RuleTable.get_of_notMem hnone', List.map_nil]

end SpelledOut

/-- A call either declares no rule, or one for a single state, or one for all. -/
theorem rule?_cases (call : BuilderCall on) :
    call.isForAll = false ∧ call.rule? = none ∨
    (∃ rule, call.isForAll = false ∧ call.rule? = some rule ∧ rule.state ≠ allStates) ∨
    ∃ spec rule, call = .rule spec ∧ call.isForAll = true ∧ Rule.create spec = .ok rule ∧ rule.state = allStates := by
  cases call with
  | rule spec =>
    cases hcreate : Rule.create spec with
    | error fault => simp [isForAll, rule?, hcreate, Except.toOption]
    | ok rule => by_cases hall : rule.state = allStates <;> simp [isForAll, rule?, hcreate, hall, Except.toOption]
  | matchPolicy | matchFirst | start | build => exact .inl ⟨rfl, rfl⟩

theorem spelled_of_not {call : BuilderCall on} (h : call.isForAll = false) (d : Definition) :
    call.spelled d = [call] := by
  cases call with
  | rule spec => rw [spelled, h, if_neg Bool.false_ne_true]
  | matchPolicy | matchFirst | start | build => rfl

/-- Calls make the same as they do spelled out, up to the states that rules were declared for. -/
theorem spelledOut_expand (calls : List (BuilderCall on)) :
    SpelledOut (made calls) (made (expand calls)) ∧
      (made calls).table.ruleCount = slots calls ∧ (made (expand calls)).table.ruleCount = slots calls := by
  induction calls using List.reverseRecOn with
  | nil => exact ⟨⟨rfl, fun _ => rfl, rfl, rfl⟩, rfl, rfl⟩
  | append_singleton calls call ih =>
    obtain ⟨ih, hcount, hcount'⟩ := ih
    have hmade := determine_made calls
    have hnodup : (made calls).table.states.Nodup := by
      rw [made_eq]
      exact RuleTable.nodup_states_foldl_add _
    rw [expand_concat, made_concat, getD_change, slots_concat]
    rcases call.rule?_cases with ⟨hone, hrule⟩ | ⟨rule, hone, hrule, hstate⟩ | ⟨spec, rule, rfl, hall, hcreate, hstate⟩
    · rw [spelled_of_not hone, made_concat, getD_change, hone, hrule, ih.policy, ih.start]
      exact ⟨⟨ih.states, ih.rules, rfl, rfl⟩, hcount, hcount'⟩
    · rw [spelled_of_not hone, made_concat, getD_change, hone, hrule, ih.policy, ih.start]
      obtain ⟨hstates, hrules, _, _⟩ := ih.add hmade.all hstate
      refine ⟨⟨hstates, hrules, rfl, rfl⟩, ?_, ?_⟩
      · change ((made calls).table.add rule).ruleCount = _
        rw [RuleTable.ruleCount_add, if_neg hstate, hcount]
        rfl
      · change ((made (expand calls)).table.add rule).ruleCount = _
        rw [RuleTable.ruleCount_add, if_neg hstate, hcount']
        rfl
    · rw [spelled, if_pos hall, made_append_rules hcreate, if_pos hall, rule?, hcreate]
      obtain ⟨hstates, hrules, _, _⟩ := ih.addAll hmade.all hnodup hstate
      refine ⟨⟨hstates, hrules, ih.policy, ih.start⟩, ?_, ?_⟩
      · change ((made calls).table.add rule).ruleCount = _
        rw [RuleTable.ruleCount_add, if_pos hstate, hcount]
      · obtain ⟨_, hspread, _⟩ := RuleTable.foldl_add_inState (made (expand calls)).table hnodup
          (fun name hname => ih.states ▸ hname) (ih.states ▸ hmade.all) rule
        exact hspread.trans (by rw [hcount', RuleTable.states, List.length_map, RuleTable.size])

end BuilderCall

/-! ## Runs -/

/-- The same rule, but for its state, fires at the same place on the same match. -/
def Firing.Alike (f f' : Firing) : Prop := f' = { f with rule := f.rule.inState f'.rule.state }

/-- The runs differ at most in the states that the rules which fire were declared for. -/
inductive Run.Alike : Run → Run → Prop
  | done (cursor : Cursor) (env : Environment) : Alike (.done cursor env) (.done cursor env)
  | stuck (cursor : Cursor) (env : Environment) : Alike (.stuck cursor env) (.stuck cursor env)
  | refused (fault : Fault) (cursor : Cursor) (env : Environment) :
      Alike (.refused fault cursor env) (.refused fault cursor env)
  | failed {f f' : Firing} (firing : f.Alike f') (fault : Fault) (env : Environment) :
      Alike (.failed f fault env) (.failed f' fault env)
  | fired {f f' : Firing} {r r' : Run} (firing : f.Alike f') (emit : Option Emit) (rest : Alike r r') :
      Alike (.fired f emit r) (.fired f' emit r')

namespace Firing.Alike

variable {f f' : Firing}

theorem token_eq (h : f.Alike f') (label : Option String) : f'.token label = f.token label := by
  rw [h]
  rfl

theorem traceText_eq (h : f.Alike f') (label : Option String) : f'.traceText label = f.traceText label := by
  rw [h]
  rfl

theorem result_eq (h : f.Alike f') (env : Environment) : f'.result env = f.result env := by
  rw [h]
  rfl

end Firing.Alike

namespace Run.Alike

variable {r r' : Run}

theorem environment_eq (h : r.Alike r') : r'.environment = r.environment := by
  induction h with
  | fired _ _ _ ih => exact ih
  | _ => rfl

theorem tokens_eq (h : r.Alike r') (text : Array Char) (label : Option String) :
    r'.tokens text label = r.tokens text label := by
  induction h with
  | fired firing _ _ ih => rw [tokens_fired, tokens_fired, ih, firing.token_eq]
  | _ => rfl

theorem log_eq (h : r.Alike r') (label : Option String) (trace : Bool) :
    r'.log label trace = r.log label trace := by
  induction h with
  | failed firing => rw [log, log, log.told, log.told, firing.traceText_eq]
  | fired firing _ _ ih => rw [log, log, log.told, log.told, firing.traceText_eq, ih]
  | _ => rfl

end Run.Alike

namespace Definition

variable {d d' : Definition} {text : Array Char} {s t : Boundary} {f : Firing} {call : Call}

/-- The same policy, and in each state the same rules in the same order, but for the states that they were
declared for. -/
structure Alike (d d' : Definition) : Prop where
  policy : d.policy = d'.policy
  rules : ∀ state, List.Forall₂ Rule.Alike (d.table.get state) (d'.table.get state)

namespace Alike

theorem samePatterns (h : d.Alike d') : d.SamePatterns d' where
  policy := h.policy
  rules state := (h.rules state).imp fun rule rule' halike => by
    rw [halike]
    exact ⟨rfl, fun _ => .rfl⟩

theorem fires (h : d.Alike d') (fires : d.Fires text s f) : ∃ f', f.Alike f' ∧ d'.Fires text s f' := by
  obtain ⟨rule', hcorresponds, fires'⟩ := fires.parallel h.samePatterns
  have halike : f.rule.Alike rule' := (List.forall₂_iff_zip.mp (h.rules f.state)).2 hcorresponds
  exact ⟨{ f with rule := rule' }, congrArg (fun rule : Rule => ({ f with rule } : Firing)) halike, fires'⟩

theorem select_eq_error (h : d.Alike d') {env : Environment} {place : Nat} {fault : Fault}
    (herror : d.select env text place = .error fault) : d'.select env text place = .error fault := by
  have hagree := h.samePatterns.select_agree env text place
  rw [herror] at hagree
  exact hagree.eq_error

/-- From one boundary on the two run alike: nothing asks for which state a rule was declared. -/
theorem runFrom (h : d.Alike d') (text : Array Char) (s : Boundary) :
    (d.runFrom text s).Alike (d'.runFrom text s) := by
  rcases d.runFrom_cases text s with ⟨call, t, step, hrun⟩ | hends
  · obtain ⟨f', hf, fires'⟩ := h.fires step.fires
    have hfound : f'.found = call.firing.found := by rw [hf]
    have step' : d'.Step text s { call with firing := f' } t :=
      ⟨fires', (hf.result_eq _).trans step.acts, step.understood, by rw [step.moves, hfound]⟩
    rw [hrun, step'.runFrom_eq]
    exact .fired hf _ (runFrom h text t)
  · generalize d.runFrom text s = r at hends
    cases hends with
    | done consumed =>
      rw [(Ends.done consumed).runFrom_eq]
      exact .done _ _
    | stuck inside none =>
      rw [(Ends.stuck inside (h.samePatterns.select_eq_none none)).runFrom_eq]
      exact .stuck _ _
    | refused inside error =>
      rw [(Ends.refused inside (h.select_eq_error error)).runFrom_eq]
      exact .refused _ _ _
    | raised fires acts =>
      obtain ⟨f', hf, fires'⟩ := h.fires fires
      rw [(Ends.raised fires' ((hf.result_eq _).trans acts)).runFrom_eq]
      exact .failed hf _ _
    | rejected fires acts rejected =>
      obtain ⟨f', hf, fires'⟩ := h.fires fires
      rw [(Ends.rejected fires' ((hf.result_eq _).trans acts) rejected).runFrom_eq]
      exact .failed hf _ _
termination_by text.size - s.cursor.offset
decreasing_by
  have hlt := step.offset_lt
  have hinside := step.fires.inside
  omega

theorem lex_eq (h : d.Alike d') (source : String) (env : Environment) (label : Option String) (trace : Bool) :
    d'.lex source env label trace = d.lex source env label trace := by
  have hrun : ((Scanner.ofSource d source label trace).run env).Alike
      ((Scanner.ofSource d' source label trace).run env) := h.runFrom source.toList.toArray (.start env)
  rw [lex, lex, Scanner.tokens, Scanner.tokens, Scanner.log, Scanner.log, hrun.tokens_eq, hrun.log_eq,
    hrun.environment_eq]
  rfl

end Alike

end Definition

namespace BuilderCall

variable {on : String}

theorem SpelledOut.alike {d e : Definition} (h : SpelledOut d e) : d.Alike e where
  policy := h.policy.symm
  rules state := by
    rw [h.rules, List.forall₂_map_right_iff]
    exact List.forall₂_same.mpr fun rule _ => rfl

/-- A rule for all states is pure expansion. Spelled out, calls build a definition with the same states, which
has the same rules in each of them, for as many slots as there are rules for one state and states there were
for rules for all; and from any boundary on the two run alike, with the same tokens or fault, environment and
log. So do any two definitions that differ in the states of their rules alone. -/
theorem for_all_states_is_expansion (s : Session) (on name : String) (apart : name ≠ on)
    (calls : List (BuilderCall on)) :
    (∃ d e,
      (s.told (steps (calls ++ [.build name apart])))[calls.length + 1]? =
        some (.mk (.ok (.definition d)) none) ∧
      (s.told (steps (expand calls ++ [.build name apart])))[(expand calls).length + 1]? =
        some (.mk (.ok (.definition e)) none) ∧
      SpelledOut d e ∧
      (∀ state, ∀ rule ∈ d.table.get state, rule.state = state ∨ rule.state = allStates) ∧
      d.table.ruleCount = slots calls ∧ e.table.ruleCount = slots calls ∧
      (∀ text boundary, (d.runFrom text boundary).Alike (e.runFrom text boundary)) ∧
      ∀ source env label trace, e.lex source env label trace = d.lex source env label trace) ∧
    ∀ d e : Definition, d.Alike e →
      (∀ text boundary, (d.runFrom text boundary).Alike (e.runFrom text boundary)) ∧
      ∀ source env label trace, e.lex source env label trace = d.lex source env label trace := by
  obtain ⟨hspelled, hcount, hcount'⟩ := spelledOut_expand calls
  refine ⟨⟨made calls, made (expand calls), told_call s calls [] (.build name apart),
    told_call s (expand calls) [] (.build name apart), hspelled, ?_, hcount, hcount', hspelled.alike.runFrom,
    hspelled.alike.lex_eq⟩, fun d e halike => ⟨halike.runFrom, halike.lex_eq⟩⟩
  intro state rule hrule
  have hmade := determine_made calls
  by_cases hstate : state ∈ (made calls).table.states
  · rw [hmade.rules state hstate, rulesFor, List.mem_filter] at hrule
    simpa using hrule.2
  · rw [hmade.others state hstate] at hrule
    cases hrule

/-- Blanks are for both states there are; what cannot be declared for all states is for none. -/
theorem for_all_states_is_expansion_blanks :
    let calls : List (BuilderCall "rules") :=
      [.rule { pattern := .text "a" }, .rule { pattern := .text "b", state := "second" },
        .rule { pattern := .text " ", state := allStates }, .rule { pattern := .other .null, state := allStates },
        .start "second"]
    "lexer" ≠ "rules" ∧
      expand calls =
        [.rule { pattern := .text "a" }, .rule { pattern := .text "b", state := "second" },
          .rule { pattern := .text " ", state := "default" }, .rule { pattern := .text " ", state := "second" },
          .rule { pattern := .other .null, state := allStates }, .start "second"] ∧
      slots calls = 4 ∧
      (∃ d e,
        (Session.initial.told (steps (calls ++ [.build "lexer" (by decide)])))[6]? =
          some (.mk (.ok (.definition d)) none) ∧
        (Session.initial.told (steps (expand calls ++ [.build "lexer" (by decide)])))[(expand calls).length + 1]? =
          some (.mk (.ok (.definition e)) none) ∧
        SpelledOut d e ∧
        (∀ state, ∀ rule ∈ d.table.get state, rule.state = state ∨ rule.state = allStates) ∧
        d.table.ruleCount = slots calls ∧ e.table.ruleCount = slots calls ∧
        (∀ text boundary, (d.runFrom text boundary).Alike (e.runFrom text boundary)) ∧
        ∀ source env label trace, e.lex source env label trace = d.lex source env label trace) := by
  intro calls
  refine ⟨by decide, ?_, ?_, (for_all_states_is_expansion Session.initial "rules" "lexer" (by decide) calls).1⟩
  · rfl
  · rfl

end BuilderCall

end Lexing
