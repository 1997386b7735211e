import Lexing.Proofs.Selection
import Lexing.Scanner
import Mathlib.Data.List.Induction

/-! Runs as chains of steps. One step fires a rule, calls its action and moves the cursor; a run is the
chain of its completed steps and then one of five endings. -/
namespace Lexing

theorem Action.run_onMatch (action : Action) (m : Match) (text : String) (env : Environment) :
    (action.onMatch m text).run env = (action.body text).run { env with lastMatch := some m } := rfl

/-- Where a run stands between two steps. -/
structure Boundary where
  cursor : Cursor
  env : Environment

def Boundary.start (env : Environment) : Boundary := ⟨.start, env⟩

/-- A firing whose action came back with a result that is understood. -/
structure Call where
  firing : Firing
  result : Value
  emit : Option Emit

namespace Call

/-- The text the action received. -/
def chunk (call : Call) : String := call.firing.chunk

def token? (label : Option String) (call : Call) : Option Token := call.emit.map (call.firing.token label)

end Call

namespace Definition

/-- The rule selected at a boundary, with its match there. -/
structure Fires (d : Definition) (text : Array Char) (s : Boundary) (f : Firing) : Prop where
  inside : s.cursor.offset < text.size
  selected : ∃ c, d.select s.env text s.cursor.offset = .ok (some c) ∧
    f = ⟨s.cursor, s.env.state, c.rule, c.found⟩

/-- One completed step: the action runs once, in the environment that the one before it left. -/
structure Step (d : Definition) (text : Array Char) (s : Boundary) (call : Call) (t : Boundary) : Prop where
  fires : d.Fires text s call.firing
  acts : call.firing.result s.env = (.ok call.result, t.env)
  understood : Emit.ofResult call.result = .ok call.emit
  moves : t.cursor = s.cursor.advance text call.firing.found.stop

/-- The completed steps from one boundary to another. -/
inductive Steps (d : Definition) (text : Array Char) (s : Boundary) : List Call → Boundary → Prop
  | nil : Steps d text s [] s
  | snoc {calls : List Call} {call : Call} {t u : Boundary} (before : Steps d text s calls t)
      (step : d.Step text t call u) : Steps d text s (calls ++ [call]) u

/-- How a run ends at a boundary. -/
inductive Ends (d : Definition) (text : Array Char) (s : Boundary) : Run → Prop
  | done (consumed : text.size ≤ s.cursor.offset) : Ends d text s (.done s.cursor s.env)
  | stuck (inside : s.cursor.offset < text.size)
      (none : d.select s.env text s.cursor.offset = .ok none) : Ends d text s (.stuck s.cursor s.env)
  | refused {fault : Fault} (inside : s.cursor.offset < text.size)
      (error : d.select s.env text s.cursor.offset = .error fault) :
      Ends d text s (.refused fault s.cursor s.env)
  | raised {f : Firing} {fault : Fault} {env : Environment} (fires : d.Fires text s f)
      (acts : f.result s.env = (.error fault, env)) : Ends d text s (.failed f fault env)
  | rejected {f : Firing} {v : Value} {fault : Fault} {env : Environment} (fires : d.Fires text s f)
      (acts : f.result s.env = (.ok v, env)) (rejected : Emit.ofResult v = .error fault) :
      Ends d text s (.failed f fault env)

def runFrom (d : Definition) (text : Array Char) (s : Boundary) : Run := d.run text s.cursor s.env

end Definition

/-- A run that makes some calls first. -/
def Run.prepend (calls : List Call) (rest : Run) : Run :=
  calls.foldr (fun call rest => .fired call.firing call.emit rest) rest

namespace Run

variable {calls : List Call} {rest : Run}

@[simp] theorem environment_prepend : (prepend calls rest).environment = rest.environment := by
  induction calls with
  | nil => rfl
  | cons call calls ih => exact ih

@[simp] theorem cursor_prepend : (prepend calls rest).cursor = rest.cursor := by
  induction calls with
  | nil => rfl
  | cons call calls ih => exact ih

@[simp] theorem firings_prepend :
    (prepend calls rest).firings = calls.map (·.firing) ++ rest.firings := by
  induction calls with
  | nil => rfl
  | cons call calls ih => exact congrArg (call.firing :: ·) ih

@[simp] theorem log_prepend (label : Option String) (trace : Bool) :
    (prepend calls rest).log label trace =
      calls.flatMap (fun call => log.told label trace call.firing) ++ rest.log label trace := by
  induction calls with
  | nil => rfl
  | cons call calls ih =>
    rw [List.flatMap_cons, List.append_assoc, ← ih]
    rfl

theorem tokens_fired (text : Array Char) (label : Option String) (f : Firing) (emit : Option Emit) (r : Run) :
    (fired f emit r).tokens text label =
      (r.tokens text label).map ((emit.map (f.token label)).toList ++ ·) := by
  rw [tokens]
  cases r.tokens text label <;> rfl

@[simp] theorem tokens_prepend (text : Array Char) (label : Option String) :
    (prepend calls rest).tokens text label =
      (rest.tokens text label).map (calls.filterMap (·.token? label) ++ ·) := by
  induction calls with
  | nil =>
    cases h : rest.tokens text label <;> simp [prepend, h, Except.map]
  | cons call calls ih =>
    change (fired call.firing call.emit (prepend calls rest)).tokens text label = _
    rw [tokens_fired, ih]
    cases rest.tokens text label with
    | error fault => rfl
    | ok tokens => cases hemit : call.emit <;> simp [Except.map, Call.token?, hemit]

end Run

namespace Definition

variable {d : Definition} {text : Array Char} {s t u : Boundary} {f : Firing} {call : Call}
  {calls : List Call}

namespace Fires

theorem cursor_eq (h : d.Fires text s f) : f.cursor = s.cursor := by
  obtain ⟨c, _, rfl⟩ := h.selected
  rfl

theorem state_eq (h : d.Fires text s f) : f.state = s.env.state := by
  obtain ⟨c, _, rfl⟩ := h.selected
  rfl

theorem picks (h : d.Fires text s f) : d.policy.Picks s.env.flags text s.cursor.offset
    (d.table.get s.env.state) f.rule f.found := by
  obtain ⟨c, hc, rfl⟩ := h.selected
  exact select_eq_some hc

theorem rule_mem (h : d.Fires text s f) : f.rule ∈ d.table.get s.env.state := h.picks.mem

theorem eligible (h : d.Fires text s f) :
    f.rule.Eligible s.env.flags text s.cursor.offset f.found := h.picks.eligible

theorem unique {g : Firing} (hf : d.Fires text s f) (hg : d.Fires text s g) : f = g := by
  obtain ⟨a, ha, rfl⟩ := hf.selected
  obtain ⟨b, hb, rfl⟩ := hg.selected
  cases ha.symm.trans hb
  rfl

theorem text_eq (h : d.Fires text s f) : f.found.text = text :=
  (Matcher.tryAt_eq_some h.eligible.matched).1

theorem start_eq (h : d.Fires text s f) : f.found.start = s.cursor.offset :=
  (Matcher.tryAt_eq_some h.eligible.matched).2

theorem stop_le (h : d.Fires text s f) : f.found.stop ≤ text.size := by
  have hstop := f.found.stop_le_size
  rwa [h.text_eq] at hstop

theorem take_append_chunk (h : d.Fires text s f) :
    text.toList.take s.cursor.offset ++ f.chunk.toList = text.toList.take f.found.stop := by
  have hfound := f.found.take_append_found
  rwa [h.text_eq, h.start_eq] at hfound

theorem slice_eq (h : d.Fires text s f) : slice text s.cursor.offset f.found.stop = f.chunk := by
  rw [Firing.chunk, Match.found, h.text_eq, h.start_eq]

theorem stop_eq (h : d.Fires text s f) : f.found.stop = s.cursor.offset + f.chunk.length := by
  have hadvances := h.eligible.advances
  rw [Firing.chunk, f.found.length_found, Match.length, h.start_eq]
  omega

end Fires

/-- A run either takes a step or ends. -/
theorem runFrom_cases (d : Definition) (text : Array Char) (s : Boundary) :
    (∃ call t, d.Step text s call t ∧ d.runFrom text s = .fired call.firing call.emit (d.runFrom text t)) ∨
      d.Ends text s (d.runFrom text s) := by
  unfold runFrom
  rw [run]
  split
  · next inside =>
    split
    · next fault h => exact .inr (.refused inside h)
    · next h => exact .inr (.stuck inside h)
    · next c h =>
      have fires : d.Fires text s ⟨s.cursor, s.env.state, c.rule, c.found⟩ := ⟨inside, c, h, rfl⟩
      dsimp only
      split
      · next fault env hacts => exact .inr (.raised fires hacts)
      · next v env hacts =>
        split
        · next fault hemit => exact .inr (.rejected fires hacts hemit)
        · next emit hemit =>
          exact .inl ⟨⟨_, v, emit⟩, ⟨_, env⟩, ⟨fires, hacts, hemit, rfl⟩, rfl⟩
  · next outside => exact .inr (.done (Nat.le_of_not_lt outside))

/-- The ending at a boundary is the run from there. -/
theorem Ends.runFrom_eq {r : Run} (h : d.Ends text s r) : d.runFrom text s = r := by
  unfold runFrom
  rw [run]
  cases h with
  | done consumed => rw [if_neg (Nat.not_lt.mpr consumed)]
  | stuck inside none => rw [if_pos inside, none]
  | refused inside error => rw [if_pos inside, error]
  | raised fires acts =>
    obtain ⟨c, hc, rfl⟩ := fires.selected
    rw [if_pos fires.inside, hc]
    simp only [acts]
  | rejected fires acts rejected =>
    obtain ⟨c, hc, rfl⟩ := fires.selected
    rw [if_pos fires.inside, hc]
    simp only [acts, rejected]

theorem Ends.cursor_eq {r : Run} (h : d.Ends text s r) : r.cursor = s.cursor := by
  cases h with
  | done => rfl
  | stuck => rfl
  | refused => rfl
  | raised fires => exact fires.cursor_eq
  | rejected fires => exact fires.cursor_eq

namespace Step

/-- A boundary allows one step at most. -/
theorem unique {call' : Call} {t' : Boundary} (h : d.Step text s call t) (h' : d.Step text s call' t') :
    call = call' ∧ t = t' := by
  obtain ⟨firing, result, emit⟩ := call
  obtain ⟨firing', result', emit'⟩ := call'
  obtain ⟨cursor, env⟩ := t
  obtain ⟨cursor', env'⟩ := t'
  have hfiring : firing = firing' := h.fires.unique h'.fires
  subst hfiring
  obtain ⟨hresult, henv⟩ := Prod.mk.inj (h.acts.symm.trans h'.acts)
  cases hresult
  cases henv
  cases h.understood.symm.trans h'.understood
  cases h.moves.trans h'.moves.symm
  exact ⟨rfl, rfl⟩

theorem not_ends {r : Run} (h : d.Step text s call t) : ¬ d.Ends text s r := by
  intro hends
  obtain ⟨c, hc, _⟩ := h.fires.selected
  cases hends with
  | done consumed => exact Nat.not_lt.mpr consumed h.fires.inside
  | stuck _ none => cases hc.symm.trans none
  | refused _ error => cases hc.symm.trans error
  | raised fires acts =>
    rw [fires.unique h.fires] at acts
    cases (Prod.mk.inj (acts.symm.trans h.acts)).1
  | rejected fires acts rejected =>
    rw [fires.unique h.fires] at acts
    cases (Prod.mk.inj (acts.symm.trans h.acts)).1
    cases rejected.symm.trans h.understood

theorem runFrom_eq (h : d.Step text s call t) :
    d.runFrom text s = .fired call.firing call.emit (d.runFrom text t) := by
  rcases d.runFrom_cases text s with ⟨call', t', h', hrun⟩ | hends
  · obtain ⟨rfl, rfl⟩ := h.unique h'
    exact hrun
  · exact absurd hends h.not_ends

theorem offset_eq (h : d.Step text s call t) : t.cursor.offset = call.firing.found.stop := by
  rw [h.moves, Cursor.offset_advance]

theorem offset_lt (h : d.Step text s call t) : s.cursor.offset < t.cursor.offset := by
  rw [h.offset_eq]
  exact h.fires.eligible.advances

theorem offset_le (h : d.Step text s call t) : t.cursor.offset ≤ text.size := by
  rw [h.offset_eq]
  exact h.fires.stop_le

theorem offset_eq_add (h : d.Step text s call t) : t.cursor.offset = s.cursor.offset + call.chunk.length := by
  rw [h.offset_eq]
  exact h.fires.stop_eq

theorem position_eq {label : Option String} {token : Token} (h : d.Step text s call t)
    (htoken : call.token? label = some token) :
    token.position = some ⟨s.cursor.offset, s.cursor.line, s.cursor.column, call.chunk.length, label⟩ := by
  obtain ⟨emit, _, rfl⟩ := Option.map_eq_some_iff.mp htoken
  have hlength : call.firing.found.length = call.chunk.length := (Match.length_found _).symm
  rw [← h.fires.cursor_eq, ← hlength]
  rfl

end Step

namespace Steps

theorem of_concat (h : d.Steps text s (calls ++ [call]) u) :
    ∃ t, d.Steps text s calls t ∧ d.Step text t call u := by
  generalize hcalls : calls ++ [call] = all at h
  cases h with
  | nil => simp at hcalls
  | snoc before step =>
    obtain ⟨rfl, hcall⟩ := List.append_inj' hcalls rfl
    cases List.singleton_inj.mp hcall
    exact ⟨_, before, step⟩

theorem single (h : d.Step text s call t) : d.Steps text s [call] t := .snoc .nil h

theorem trans {calls' : List Call} (h : d.Steps text s calls t) (h' : d.Steps text t calls' u) :
    d.Steps text s (calls ++ calls') u := by
  induction h' with
  | nil => rwa [List.append_nil]
  | snoc _ step ih =>
    rw [← List.append_assoc]
    exact .snoc ih step

/-- The run is known once its completed steps are. -/
theorem runFrom_eq (h : d.Steps text s calls t) :
    d.runFrom text s = Run.prepend calls (d.runFrom text t) := by
  induction h with
  | nil => rfl
  | snoc before step ih =>
    rw [ih, step.runFrom_eq, Run.prepend, Run.prepend, List.foldr_append]
    rfl

theorem offset_le (h : d.Steps text s calls t) (hs : s.cursor.offset ≤ text.size) :
    t.cursor.offset ≤ text.size := by
  cases h with
  | nil => exact hs
  | snoc before step => exact step.offset_le

end Steps

/-- The chunks are what stands between the two boundaries. -/
theorem Steps.take_append (h : d.Steps text s calls t) :
    text.toList.take s.cursor.offset ++ calls.flatMap (·.chunk.toList) = text.toList.take t.cursor.offset := by
  induction h with
  | nil => rw [List.flatMap_nil, List.append_nil]
  | snoc before step ih =>
    rw [List.flatMap_append, ← List.append_assoc, ih, List.flatMap_singleton, step.offset_eq]
    exact step.fires.take_append_chunk

theorem Steps.offset_eq (h : d.Steps text s calls t) :
    t.cursor.offset = s.cursor.offset + (calls.map (·.chunk.length)).foldl (· + ·) 0 := by
  induction h with
  | nil => rfl
  | snoc before step ih =>
    rw [step.offset_eq_add, ih, List.map_append, List.foldl_append, Nat.add_assoc]
    rfl

/-- Steps can be cut where some of their calls are done. -/
theorem Steps.split {earlier later : List Call} (h : d.Steps text s (earlier ++ later) u) :
    ∃ t, d.Steps text s earlier t ∧ d.Steps text t later u := by
  induction later using List.reverseRecOn generalizing u with
  | nil =>
    rw [List.append_nil] at h
    exact ⟨u, h, .nil⟩
  | append_singleton later call ih =>
    rw [← List.append_assoc] at h
    obtain ⟨v, before, step⟩ := h.of_concat
    obtain ⟨t, hearlier, hlater⟩ := ih before
    exact ⟨t, hearlier, .snoc hlater step⟩

/-- The step that made a call. -/
theorem Steps.step_at {i : Nat} (h : d.Steps text s calls u) (hi : calls[i]? = some call) :
    ∃ t v, d.Steps text s (calls.take i) t ∧ d.Step text t call v := by
  obtain ⟨hlt, hcall⟩ := List.getElem?_eq_some_iff.mp hi
  rw [← List.take_append_drop (i + 1) calls, ← List.take_append_getElem hlt, hcall] at h
  obtain ⟨v, h, _⟩ := h.split
  obtain ⟨t, before, step⟩ := h.of_concat
  exact ⟨t, v, before, step⟩

theorem Steps.step_of_mem (h : d.Steps text s calls u) (hcall : call ∈ calls) :
    ∃ earlier t v, d.Steps text s earlier t ∧ d.Step text t call v := by
  obtain ⟨i, hi⟩ := List.mem_iff_getElem?.mp hcall
  obtain ⟨t, v, before, step⟩ := h.step_at hi
  exact ⟨calls.take i, t, v, before, step⟩

/-- Every run completes some steps and then ends. -/
theorem exists_steps (d : Definition) (text : Array Char) (s : Boundary) :
    ∃ calls t, d.Steps text s calls t ∧ d.Ends text t (d.runFrom text t) := by
  rcases d.runFrom_cases text s with ⟨call, t, step, _⟩ | hends
  · obtain ⟨calls, u, steps, hends⟩ := exists_steps d text t
    exact ⟨call :: calls, u, (Steps.single step).trans steps, hends⟩
  · exact ⟨[], s, .nil, hends⟩
termination_by text.size - s.cursor.offset
decreasing_by
  -- No chunk is empty, so less of the text is left after each step.
  have hlt := step.offset_lt
  have hinside := step.fires.inside
  omega

/-- The first action that a run calls from a boundary on is that of the rule that fires there. -/
theorem firings_zero {f : Firing} : (d.runFrom text s).firings[0]? = some f ↔ d.Fires text s f := by
  rcases d.runFrom_cases text s with ⟨call, t, step, hrun⟩ | hends
  · rw [hrun, Run.firings, List.getElem?_cons_zero, Option.some_inj]
    exact ⟨fun h => h ▸ step.fires, fun h => step.fires.unique h⟩
  · generalize d.runFrom text s = r at hends
    cases hends with
    | done consumed =>
      exact ⟨fun h => (by cases h), fun h => absurd h.inside (Nat.not_lt.mpr consumed)⟩
    | stuck _ none =>
      refine ⟨fun h => (by cases h), fun h => ?_⟩
      obtain ⟨c, hc, _⟩ := h.selected
      cases hc.symm.trans none
    | refused _ error =>
      refine ⟨fun h => (by cases h), fun h => ?_⟩
      obtain ⟨c, hc, _⟩ := h.selected
      cases hc.symm.trans error
    | raised fires => exact ⟨fun h => Option.some.inj h ▸ fires, fun h => congrArg some (fires.unique h)⟩
    | rejected fires => exact ⟨fun h => Option.some.inj h ▸ fires, fun h => congrArg some (fires.unique h)⟩

/-- What fires once the calls are made is told after their firings. -/
theorem Steps.firings_length {f : Firing} (h : d.Steps text s calls t) :
    (d.runFrom text s).firings[calls.length]? = some f ↔ d.Fires text t f := by
  rw [h.runFrom_eq, Run.firings_prepend, List.getElem?_append_right (by simp), List.length_map,
    Nat.sub_self]
  exact firings_zero

/-- Every firing of a run, also one whose action failed, happens at a boundary that the run reaches. -/
theorem exists_steps_of_firing {i : Nat} {f : Firing} (h : (d.runFrom text s).firings[i]? = some f) :
    ∃ calls t, d.Steps text s calls t ∧ calls.length = i ∧ d.Fires text t f := by
  induction i generalizing s with
  | zero => exact ⟨[], s, .nil, rfl, firings_zero.mp h⟩
  | succ i ih =>
    rcases d.runFrom_cases text s with ⟨call, t, step, hrun⟩ | hends
    · rw [hrun, Run.firings, List.getElem?_cons_succ] at h
      obtain ⟨calls, u, steps, hlength, fires⟩ := ih h
      exact ⟨call :: calls, u, (Steps.single step).trans steps, congrArg (· + 1) hlength, fires⟩
    · generalize d.runFrom text s = r at h hends
      cases hends <;> cases h

/-- Only a source that is consumed yields tokens. -/
theorem Ends.of_tokens {r : Run} {label : Option String} {tokens : List Token} (h : d.Ends text t r)
    (htokens : r.tokens text label = .ok tokens) :
    r = .done t.cursor t.env ∧ text.size ≤ t.cursor.offset ∧ tokens = [.endOfStream] := by
  cases h with
  | done consumed => exact ⟨rfl, consumed, (Except.ok.inj htokens).symm⟩
  | stuck => cases htokens
  | refused => cases htokens
  | raised => cases htokens
  | rejected => cases htokens

section Lex

variable {source : String} {env : Environment} {label : Option String} {trace : Bool}

/-- A pass over a source, once some of its steps are done. -/
theorem Steps.lex_eq (h : d.Steps source.toList.toArray (.start env) calls t) (label : Option String)
    (trace : Bool) :
    d.lex source env label trace =
      let rest := d.runFrom source.toList.toArray t
      ⟨(rest.tokens source.toList.toArray label).map (calls.filterMap (·.token? label) ++ ·),
        rest.environment,
        calls.flatMap (fun call => Run.log.told label trace call.firing) ++ rest.log label trace⟩ := by
  have hrun : (Scanner.ofSource d source label trace).run env = Run.prepend calls (d.runFrom _ t) :=
    h.runFrom_eq
  rw [lex, hrun, Scanner.tokens, Scanner.log, Run.tokens_prepend, Run.log_prepend, Run.environment_prepend]
  rfl

/-- A pass that returns tokens has consumed the source, and they are what its calls asked for. -/
theorem exists_steps_of_tokens {tokens : List Token} (returned : (d.lex source env label trace).tokens = .ok tokens) :
    ∃ calls t, d.Steps source.toList.toArray (.start env) calls t ∧
      source.toList.toArray.size ≤ t.cursor.offset ∧ (d.lex source env label trace).environment = t.env ∧
      tokens = calls.filterMap (·.token? label) ++ [.endOfStream] := by
  obtain ⟨calls, t, steps, hends⟩ := d.exists_steps source.toList.toArray (.start env)
  rw [steps.lex_eq] at returned ⊢
  refine ⟨calls, t, steps, ?_⟩
  dsimp only at returned ⊢
  cases hlast : (d.runFrom source.toList.toArray t).tokens source.toList.toArray label with
  | error fault =>
    rw [hlast] at returned
    cases returned
  | ok after =>
    obtain ⟨hdone, consumed, rfl⟩ := hends.of_tokens hlast
    rw [hlast] at returned
    rw [hdone]
    exact ⟨consumed, rfl, (Except.ok.inj returned).symm⟩

end Lex

end Definition

end Lexing
