import Lexing.Proofs.RuleTable
import Lexing.Proofs.Sessions

/-! What a builder builds, whatever is called on it and in whatever order. Only calls that succeed count,
and what is built once stays as it is. -/
namespace Lexing

/-- A call on a builder. What is built goes by a name of its own. -/
inductive BuilderCall (on : String) where
  | rule (spec : RuleSpec)
  | matchPolicy (choice : PolicyChoice)
  | matchFirst
  | start (state : String)
  | build (name : String) (apart : name ≠ on)

namespace BuilderCall

variable {on : String}

def step : BuilderCall on → Session.Step
  | rule spec => .rule on spec
  | matchPolicy choice => .policy on choice
  | matchFirst => .policy on (.policy .first)
  | start state => .start on state
  | build name _ => .build on name

/-- A builder is made, and then called. -/
def steps (calls : List (BuilderCall on)) : List Session.Step := .builder on :: calls.map (·.step)

/-- What the call makes of the builder. -/
def change : BuilderCall on → Definition → Except Fault Definition
  | rule spec, d => d.rule spec
  | matchPolicy choice, d => d.withPolicy choice
  | matchFirst, d => d.withPolicy (.policy .first)
  | start state, d => .ok (d.withStart state)
  | build .., d => .ok d

/-- The rule that is declared, if the call succeeds. -/
def rule? : BuilderCall on → Option Rule
  | rule spec => (Rule.create spec).toOption
  | _ => none

/-- The policy that is accepted, if the call succeeds. -/
def policy? : BuilderCall on → Option Policy
  | matchPolicy choice => choice.resolve.toOption
  | matchFirst => some .first
  | _ => none

def start? : BuilderCall on → Option String
  | start state => some state
  | _ => none

/-- The call cannot succeed, whatever was called before. -/
def Refused : BuilderCall on → Prop
  | rule spec => ∃ fault, Rule.create spec = .error fault
  | matchPolicy choice => ∃ fault, choice.resolve = .error fault
  | _ => False

/-- The name that the outcome of the call is kept under. -/
def target : BuilderCall on → String
  | build name _ => name
  | _ => on

def object : BuilderCall on → Definition → Session.Object
  | build .., d => .definition d
  | _, d => .builder d

def answer : BuilderCall on → Definition → Session.Answer
  | build .., d => .definition d
  | _, d => .chained d.table.size

/-- What calls make of an empty builder; those that fail make nothing of it. -/
def made (calls : List (BuilderCall on)) : Definition :=
  calls.foldl (fun d call => (call.change d).toOption.getD d) .empty

/-- What is built by then, told by the calls that succeeded. -/
structure Determine (calls : List (BuilderCall on)) (d : Definition) : Prop where
  states : d.table.states = namedStates (calls.filterMap (·.rule?))
  rules : ∀ state ∈ d.table.states, d.table.get state = rulesFor state (calls.filterMap (·.rule?))
  others : ∀ state, state ∉ d.table.states → d.table.get state = []
  all : allStates ∉ d.table.states
  policy : d.policy = (calls.filterMap (·.policy?)).getLast?.getD .longest
  start : d.start = (calls.filterMap (·.start?)).getLast?.getD "default"

theorem made_concat (calls : List (BuilderCall on)) (call : BuilderCall on) :
    made (calls ++ [call]) = (call.change (made calls)).toOption.getD (made calls) := by
  rw [made, List.foldl_append]
  rfl

private theorem filterMap_singleton {α : Type} (f : BuilderCall on → Option α) (call : BuilderCall on) :
    [call].filterMap f = (f call).toList := by
  cases h : f call <;> simp [h]

private theorem getD_getLast?_append_toList {α : Type} (earlier : List α) (last : Option α) (default : α) :
    (earlier ++ last.toList).getLast?.getD default = last.getD (earlier.getLast?.getD default) := by
  cases last <;> simp

/-- A call adds its rule, policy or start to a definition, and nothing else. -/
theorem getD_change (call : BuilderCall on) (d : Definition) :
    (call.change d).toOption.getD d =
      ⟨call.rule?.toList.foldl .add d.table, call.policy?.getD d.policy, call.start?.getD d.start⟩ := by
  cases call with
  | rule spec =>
    simp only [change, rule?, Definition.rule]
    cases Rule.create spec <;> rfl
  | matchPolicy choice =>
    simp only [change, policy?, Definition.withPolicy]
    cases choice.resolve <;> rfl
  | matchFirst => rfl
  | start => rfl
  | build => rfl

theorem made_eq (calls : List (BuilderCall on)) :
    made calls =
      ⟨(calls.filterMap (·.rule?)).foldl .add .empty,
        (calls.filterMap (·.policy?)).getLast?.getD .longest,
        (calls.filterMap (·.start?)).getLast?.getD "default"⟩ := by
  induction calls using List.reverseRecOn with
  | nil => rfl
  | append_singleton calls call ih =>
    rw [made_concat, getD_change, ih]
    simp only [List.filterMap_append, filterMap_singleton, List.foldl_append, getD_getLast?_append_toList]

/-- What calls make is what they determine. -/
theorem determine_made (calls : List (BuilderCall on)) : Determine calls (made calls) := by
  have hstates : (made calls).table.states = namedStates (calls.filterMap (·.rule?)) := by
    rw [made_eq, RuleTable.states_foldl_add]
  have hall : allStates ∉ (made calls).table.states := by
    rw [hstates, mem_namedStates]
    exact fun h => h.1 rfl
  refine ⟨hstates, ?_, fun state => RuleTable.get_of_notMem, hall, ?_, ?_⟩
  · intro state hstate
    have hne : state ≠ allStates := fun h => hall (h ▸ hstate)
    rw [made_eq, RuleTable.get_foldl_add hne]
  · rw [made_eq]
  · rw [made_eq]

theorem refused_iff (call : BuilderCall on) (d : Definition) :
    call.Refused ↔ ∃ fault, call.change d = .error fault := by
  cases call with
  | rule spec =>
    simp only [Refused, change, Definition.rule]
    cases Rule.create spec <;> simp [bind, Except.bind, pure, Except.pure]
  | matchPolicy choice =>
    simp only [Refused, change, Definition.withPolicy]
    cases choice.resolve <;> simp [bind, Except.bind, pure, Except.pure]
  | matchFirst => exact ⟨fun h => h.elim, fun ⟨_, h⟩ => by cases h⟩
  | start => exact ⟨fun h => h.elim, fun ⟨_, h⟩ => by cases h⟩
  | build => exact ⟨fun h => h.elim, fun ⟨_, h⟩ => by cases h⟩

section Sessions

variable {s : Session} {d : Definition} {call : BuilderCall on}

/-- A call that fails leaves all as it is, one that succeeds keeps its outcome. -/
theorem run_reply_step (h : s.objects.lookup on = some (.builder d)) (call : BuilderCall on) :
    (Session.reply call.step).run s =
      match call.change d with
      | .ok changed => (.mk (.ok (call.answer changed)) none, s.store call.target (call.object changed))
      | .error fault => (.mk (.error fault) none, s) := by
  rw [Session.run_reply]
  cases call with
  | rule spec =>
    simp only [step, change, Session.answer, Session.run_chained h]
    cases d.rule spec <;> rfl
  | matchPolicy choice =>
    simp only [step, change, Session.answer, Session.run_chained h]
    cases d.withPolicy choice <;> rfl
  | matchFirst =>
    simp only [step, change, Session.answer, Session.run_chained h]
    rfl
  | start state =>
    simp only [step, change, Session.answer, Session.run_chained h]
    rfl
  | build name apart =>
    simp only [step, change, Session.answer, run_bind, Session.run_findBuilder h]
    rfl

theorem steps_append (calls more : List (BuilderCall on)) :
    steps (calls ++ more) = steps calls ++ more.map (·.step) := by
  simp [steps]

/-- The builder holds what the calls so far have made. -/
theorem lookup_builder (s : Session) (calls : List (BuilderCall on)) :
    (s.after (steps calls)).objects.lookup on = some (.builder (made calls)) := by
  induction calls using List.reverseRecOn with
  | nil =>
    rw [steps, List.map_nil, Session.after_cons, Session.after_nil, Session.run_reply_builder]
    exact Session.lookup_store_self _ _ _
  | append_singleton calls call ih =>
    rw [steps_append, Session.after_append, List.map_singleton, Session.after_cons, Session.after_nil,
      run_reply_step ih, made_concat]
    cases hchange : call.change (made calls) with
    | error fault => exact ih
    | ok changed =>
      cases call with
      -- What is built goes elsewhere, and the builder is found as it was.
      | build name apart =>
        cases hchange
        exact (Session.lookup_store_of_ne apart.symm _ _).trans ih
      | rule | matchPolicy | matchFirst | start => exact Session.lookup_store_self _ _ _

theorem after_concat (s : Session) (calls : List (BuilderCall on)) (call : BuilderCall on) :
    s.after (steps (calls ++ [call])) =
      match call.change (made calls) with
      | .ok changed => (s.after (steps calls)).store call.target (call.object changed)
      | .error _ => s.after (steps calls) := by
  rw [steps_append, Session.after_append, List.map_singleton, Session.after_cons, Session.after_nil,
    run_reply_step (lookup_builder s calls)]
  cases call.change (made calls) <;> rfl

theorem told_call (s : Session) (before after : List (BuilderCall on)) (call : BuilderCall on) :
    (s.told (steps (before ++ call :: after)))[before.length + 1]? = some
      (match call.change (made before) with
      | .ok changed => .mk (.ok (call.answer changed)) none
      | .error fault => .mk (.error fault) none) := by
  have hlength : (s.told (steps before)).length = before.length + 1 := by
    simp [steps]
  rw [steps_append, Session.told_append, List.getElem?_append_right (Nat.le_of_eq hlength), hlength,
    Nat.sub_self, List.map_cons, Session.told_cons, List.getElem?_cons_zero,
    run_reply_step (lookup_builder s before)]
  cases call.change (made before) <;> rfl

/-- An object stays under its name unless a call keeps its outcome there. -/
theorem lookup_after {name : String} (s : Session) (before after : List (BuilderCall on))
    (h : ∀ call ∈ after, call.target ≠ name) :
    (s.after (steps (before ++ after))).objects.lookup name =
      (s.after (steps before)).objects.lookup name := by
  induction after using List.reverseRecOn with
  | nil => rw [List.append_nil]
  | append_singleton after call ih =>
    rw [← ih fun call hcall => h call (List.mem_append_left _ hcall), ← List.append_assoc, after_concat]
    cases call.change (made (before ++ after)) with
    | error fault => rfl
    | ok changed =>
      have hcall : call.target ≠ name := h call (by simp)
      exact Session.lookup_store_of_ne hcall.symm _ _

end Sessions

/-- Whatever is called before and after it, a call that builds tells what the calls before it determine, and
that stays under its name until it is built anew. A call is told to fail if it is one that is refused, and
then leaves all as it is. -/
theorem calls_determine_builds (s : Session) (on : String) (before after : List (BuilderCall on))
    (call : BuilderCall on) :
    let whole := steps (before ++ call :: after)
    let reply := (s.told whole)[before.length + 1]?
    (∀ name apart, call = .build name apart →
      ∃ d, reply = some (.mk (.ok (.definition d)) none) ∧ Determine before d ∧
        (.build name apart ∉ after → (s.after whole).objects.lookup name = some (.definition d))) ∧
    ((∃ fault, reply = some (.mk (.error fault) none)) ↔ call.Refused) ∧
    (call.Refused → s.after (steps (before ++ [call])) = s.after (steps before)) := by
  intro whole reply
  have hreply : reply = _ := told_call s before after call
  refine ⟨?_, ?_, ?_⟩
  · rintro name apart rfl
    refine ⟨made before, hreply, determine_made before, fun hfresh => ?_⟩
    have hlater : ∀ later ∈ after, later.target ≠ name := by
      intro later hmem htarget
      cases later with
      | build other apart' =>
        cases htarget
        exact hfresh hmem
      | rule | matchPolicy | matchFirst | start => exact apart htarget.symm
    have hwhole : before ++ build name apart :: after = (before ++ [build name apart]) ++ after := by simp
    change (s.after (steps (before ++ build name apart :: after))).objects.lookup name = _
    rw [hwhole, lookup_after s _ after hlater, after_concat]
    exact Session.lookup_store_self _ _ _
  · rw [hreply, refused_iff call (made before)]
    cases call.change (made before) <;> simp
  · rw [refused_iff call (made before), after_concat]
    rintro ⟨fault, hfault⟩
    rw [hfault]

end BuilderCall

end Lexing
