import Lexing.Proofs.Calculator
import Lexing.Proofs.SessionLexing
import Lexing.Script

/-! The stack of states under whatever is done to an environment, by calls from outside or by the actions
of scans. A scan does nothing to states and flags but what its actions do, so what holds of the calls holds
of scans too. -/
namespace Lexing

namespace Environment

variable (env : Environment)

@[simp] theorem length_states : env.states.length = env.depth := by simp [states, depth]

@[simp] theorem states_push (state : String) : (env.push state).states = env.states ++ [state] := by
  simp [states, push]

@[simp] theorem states_setState (state : String) :
    (env.setState state).states = env.states.dropLast ++ [state] := by simp [states, setState]

theorem states_ne_nil : env.states ≠ [] := by simp [states]

theorem pop_of_depth (h : env.depth = 1) : env.pop = .error (.lastState env.state) ∧ env.states = [env.state] := by
  have hbelow : env.below = [] := by simpa [depth] using h
  simp [pop, states, hbelow]

theorem exists_pop (h : env.depth ≠ 1) :
    ∃ popped, env.pop = .ok popped ∧ popped.states = env.states.dropLast ∧ popped.flags = env.flags := by
  cases hbelow : env.below with
  | nil => simp [depth, hbelow] at h
  | cons state below => exact ⟨{ env with state, below }, by simp [pop, hbelow], by simp [states, hbelow], rfl⟩

end Environment

/-- A call of one of the methods for states and flags. -/
inductive Change where
  | push (state : String)
  | pop
  | setState (state : String)
  | setFlag (flag : String)
  | unsetFlag (flag : String)
  | clearFlags
deriving DecidableEq

namespace Change

def work : Change → Act Unit
  | push state => modify (·.push state)
  | pop => Script.popState
  | setState state => modify (·.setState state)
  | setFlag flag => modify (·.setFlag flag)
  | unsetFlag flag => modify (·.unsetFlag flag)
  | clearFlags => modify (·.clearFlags)

def after (change : Change) (env : Environment) : Environment := (change.work.run env).2

/-- The call does not raise a fault. -/
def succeeds (change : Change) (env : Environment) : Bool := (change.work.run env).1.isOk

/-- The call is about flags, and not about states. -/
def onFlags : Change → Bool
  | push _ | pop | setState _ => false
  | setFlag _ | unsetFlag _ | clearFlags => true

theorem run_pop (env : Environment) :
    pop.work.run env = match env.pop with
      | .ok popped => (.ok (), popped)
      | .error fault => (.error fault, env) := by
  change (liftExcept env.pop >>= fun popped => set popped : Act Unit).run env = _
  cases env.pop <;> rfl

theorem after_pop (env : Environment) : pop.after env = env.pop.toOption.getD env := by
  rw [after, run_pop]
  cases env.pop <;> rfl

theorem succeeds_pop (env : Environment) : pop.succeeds env = env.pop.isOk := by
  rw [succeeds, run_pop]
  cases env.pop <;> rfl

/-- What is about flags leaves the states alone, and what is about states the flags. -/
theorem leaves (change : Change) (env : Environment) :
    if change.onFlags then (change.after env).states = env.states
    else (change.after env).flags = env.flags := by
  cases change with
  | pop =>
    rw [if_neg (by decide), after_pop]
    by_cases h : env.depth = 1
    · rw [(env.pop_of_depth h).1]
      rfl
    · obtain ⟨popped, hpop, _, hflags⟩ := env.exists_pop h
      rw [hpop]
      exact hflags
  | push | setState | setFlag | unsetFlag | clearFlags => rfl

private theorem take_dropLast {α : Type} {items : List α} {n : Nat} (h : n < items.length) :
    items.dropLast.take n = items.take n := by
  rw [List.dropLast_eq_take, List.take_take, Nat.min_eq_left (Nat.le_sub_one_of_lt h)]

/-- A call keeps all states below the top. -/
theorem take_states (change : Change) {env : Environment} {n : Nat} (h : n < env.depth) :
    (change.after env).states.take n = env.states.take n := by
  have hlength : n < env.states.length := by rwa [Environment.length_states]
  cases change with
  | push state =>
    change (env.push state).states.take n = _
    rw [Environment.states_push, List.take_append_of_le_length (Nat.le_of_lt hlength)]
  | pop =>
    rw [after_pop]
    by_cases hone : env.depth = 1
    · rw [(env.pop_of_depth hone).1]
      rfl
    · obtain ⟨popped, hpop, hstates, _⟩ := env.exists_pop hone
      rw [hpop]
      change popped.states.take n = _
      rw [hstates, take_dropLast hlength]
  | setState state =>
    have hle : n ≤ env.states.dropLast.length := by
      rw [List.length_dropLast]
      exact Nat.le_pred_of_lt hlength
    change (env.setState state).states.take n = _
    rw [Environment.states_setState, List.take_append_of_le_length hle, take_dropLast hlength]
  | setFlag | unsetFlag | clearFlags => rfl

end Change

namespace Change

/-- The step of a session that makes the call. -/
def step (on : String) : Change → Session.Step
  | push state => .push on state
  | pop => .pop on
  | setState state => .setState on state
  | setFlag flag => .setFlag on flag
  | unsetFlag flag => .unsetFlag on flag
  | clearFlags => .clearFlags on

theorem mapError_work (change : Change) (env last : Environment) :
    (change.work.run env).1.mapError last.readFault = (change.work.run env).1 := by
  cases change with
  | pop =>
    rw [run_pop]
    by_cases h : env.depth = 1
    · rw [(env.pop_of_depth h).1]
      rfl
    · obtain ⟨popped, hpop, _⟩ := env.exists_pop h
      rw [hpop]
      rfl
  | push | setState | setFlag | unsetFlag | clearFlags => rfl

section

variable {session : Session} {on : String} {key : Nat} {env : Environment}

theorem run_answer_step (hkey : session.keyIn on = some key) (henv : session.environments[key]? = some env)
    (change : Change) :
    (Session.answer (change.step on)).run session =
      ((change.work.run env).1.map fun _ => .nothing,
        { session with environments := session.environments.set! key (change.after env) }) := by
  have hstep : Session.answer (change.step on) =
      (do
        Session.inEnvironment on change.work
        return .nothing) := by
    cases change <;> rw [step, Session.answer] <;> rfl
  rw [hstep, run_bind, Session.run_inEnvironment hkey henv, mapError_work]
  cases (change.work.run env).1 <;> rfl

/-- A call that a session makes changes the environment by that name, and nothing else. -/
theorem run_reply_step (hkey : session.keyIn on = some key) (henv : session.environments[key]? = some env)
    (change : Change) :
    (Session.reply (change.step on)).run session =
      (.mk ((change.work.run env).1.map fun _ => .nothing) (some (change.after env)),
        { session with environments := session.environments.set! key (change.after env) }) := by
  have hshown : ∀ succeeded, (change.step on).shown succeeded = some on := by
    intro succeeded
    cases change <;> rfl
  have hleft : Session.environmentIn
      { session with environments := session.environments.set! key (change.after env) } on =
        some (change.after env) := Session.environmentIn_eq hkey henv rfl rfl
  rw [Session.run_reply, run_answer_step hkey henv]
  simp only [hshown, Option.bind_some, hleft]
  cases (change.work.run env).1 <;> rfl

end

end Change

/-- A call that was made, and whether it raised no fault. -/
structure Made where
  change : Change
  succeeded : Bool
deriving DecidableEq

namespace Made

def isPush : Made → Bool
  | ⟨.push _, _⟩ => true
  | _ => false

/-- A pop that was not refused. -/
def isPop : Made → Bool
  | ⟨.pop, succeeded⟩ => succeeded
  | _ => false

/-- A push makes the stack higher by one, a pop lower by one, and no other call does either. -/
theorem depth_after (change : Change) (env : Environment) :
    (change.after env).depth + [Made.mk change (change.succeeds env)].countP (·.isPop) =
      env.depth + [Made.mk change (change.succeeds env)].countP (·.isPush) := by
  cases change with
  | pop =>
    rw [Change.after_pop, Change.succeeds_pop]
    by_cases h : env.depth = 1
    · rw [(env.pop_of_depth h).1]
      rfl
    · obtain ⟨popped, hpop, hstates, _⟩ := env.exists_pop h
      have hdepth := congrArg List.length hstates
      rw [List.length_dropLast, Environment.length_states, Environment.length_states] at hdepth
      have hpos : 0 < env.depth := Nat.succ_pos _
      rw [hpop]
      change popped.depth + 1 = env.depth
      omega
  | push | setState | setFlag | unsetFlag | clearFlags => rfl

end Made

/-- Calls that lead from one environment to another, with all environments on the way as `P` asks. Between
calls anything but states and flags may change. -/
inductive Passes (P : Environment → Prop) (env : Environment) : List Made → Environment → Prop
  | start (holds : P env) : Passes P env [] env
  | change {made : List Made} {mid : Environment} (before : Passes P env made mid) (change : Change)
      (holds : P (change.after mid)) :
      Passes P env (made ++ [⟨change, change.succeeds mid⟩]) (change.after mid)
  | other {made : List Made} {mid next : Environment} (before : Passes P env made mid)
      (states : next.states = mid.states) (flags : next.flags = mid.flags) (holds : P next) :
      Passes P env made next

namespace Passes

variable {P : Environment → Prop} {env mid last : Environment} {made made' : List Made}

theorem holds (h : Passes P env made last) : P last := by
  cases h with
  | start holds => exact holds
  | change _ _ holds => exact holds
  | other _ _ _ holds => exact holds

theorem holds_start (h : Passes P env made last) : P env := by
  induction h with
  | start holds => exact holds
  | change _ _ _ ih => exact ih
  | other _ _ _ _ ih => exact ih

theorem trans (h : Passes P env made mid) (h' : Passes P mid made' last) : Passes P env (made ++ made') last := by
  induction h' with
  | start => rwa [List.append_nil]
  | change _ change holds ih =>
    rw [← List.append_assoc]
    exact .change ih change holds
  | other _ states flags holds ih => exact .other ih states flags holds

/-- The stack grows by what is pushed and shrinks by what is popped. -/
theorem depth_eq (h : Passes P env made last) :
    last.depth + made.countP (·.isPop) = env.depth + made.countP (·.isPush) := by
  induction h with
  | start => rfl
  | @change made mid _ change _ ih =>
    have hdepth := Made.depth_after change mid
    rw [List.countP_append, List.countP_append]
    omega
  | other _ states _ _ ih =>
    rw [← Environment.length_states, states, Environment.length_states]
    exact ih

/-- The bottom of the stack stays as it is while the stack goes on above it. -/
theorem take_states {n : Nat} (h : Passes (n < ·.depth) env made last) :
    last.states.take n = env.states.take n := by
  induction h with
  | start => rfl
  | change before change _ ih => rw [change.take_states before.holds, ih]
  | other _ states _ _ ih => rw [states, ih]

end Passes

/-- What is done to an environment, by calls from outside and by scanners, new or taken up again. Of a scan
it is known what the action of each firing does, from the match that is recorded for it on. -/
inductive History (P : Environment → Prop) (env : Environment) : List Made → Environment → Prop
  | start (holds : P env) : History P env [] env
  | calls {made made' : List Made} {mid next : Environment} (before : History P env made mid)
      (calls : Passes P mid made' next) : History P env (made ++ made') next
  | scan {made : List Made} {mid : Environment} (before : History P env made mid) (scanner : Scanner)
      (did : Nat → List Made)
      (acts : ∀ calls s f, scanner.definition.Steps scanner.text ⟨scanner.cursor, mid⟩ calls s →
        scanner.definition.Fires scanner.text s f →
        Passes P { s.env with lastMatch := some f.found } (did calls.length) (f.result s.env).2) :
      History P env (made ++ (List.range (scanner.run mid).firings.length).flatMap did)
        (scanner.run mid).environment

section

variable {P : Environment → Prop} {d : Definition} {text : Array Char} {did : Nat → List Made}
  {calls : List Call} {s t : Boundary}

/-- What leads on from a match that has been recorded leads on from before it. -/
theorem Passes.of_recorded {env last : Environment} {found : Match} {made : List Made} (holds : P env)
    (h : Passes P { env with lastMatch := some found } made last) : Passes P env made last := by
  have hrecorded : Passes P env [] { env with lastMatch := some found } :=
    .other (.start holds) rfl rfl h.holds_start
  exact hrecorded.trans h

theorem Definition.Steps.passes (holds : P s.env)
    (acts : ∀ calls t f, d.Steps text s calls t → d.Fires text t f →
      Passes P { t.env with lastMatch := some f.found } (did calls.length) (f.result t.env).2)
    (h : d.Steps text s calls t) : Passes P s.env ((List.range calls.length).flatMap did) t.env := by
  induction h with
  | nil => exact .start holds
  | @snoc calls call t u before step ih =>
    have hacts := acts calls t call.firing before step.fires
    rw [step.acts] at hacts
    rw [List.length_append, List.length_singleton, List.range_succ, List.flatMap_append, List.flatMap_singleton]
    exact ih.trans (hacts.of_recorded ih.holds)

/-- A run does to states and flags what its actions do, also one that fails. -/
theorem Definition.passes_runFrom (holds : P s.env)
    (acts : ∀ calls t f, d.Steps text s calls t → d.Fires text t f →
      Passes P { t.env with lastMatch := some f.found } (did calls.length) (f.result t.env).2) :
    Passes P s.env ((List.range (d.runFrom text s).firings.length).flatMap did)
      (d.runFrom text s).environment := by
  obtain ⟨calls, t, steps, hends⟩ := d.exists_steps text s
  have hcalls := steps.passes holds acts
  have hlast : ∀ f, d.Fires text t f →
      Passes P s.env ((List.range (calls.length + 1)).flatMap did) (f.result t.env).2 := by
    intro f fires
    rw [List.range_succ, List.flatMap_append, List.flatMap_singleton]
    exact hcalls.trans ((acts calls t f steps fires).of_recorded hcalls.holds)
  rw [steps.runFrom_eq, Run.firings_prepend, Run.environment_prepend, List.length_append, List.length_map]
  generalize d.runFrom text t = r at hends
  cases hends with
  | done | stuck | refused => exact hcalls
  | raised fires hresult =>
    have hfailed := hlast _ fires
    rw [hresult] at hfailed
    exact hfailed
  | rejected fires hresult =>
    have hfailed := hlast _ fires
    rw [hresult] at hfailed
    exact hfailed

theorem History.passes {env last : Environment} {made : List Made} (h : History P env made last) :
    Passes P env made last := by
  induction h with
  | start holds => exact .start holds
  | calls _ calls ih => exact ih.trans calls
  | @scan _ mid _ scanner _ acts ih =>
    exact ih.trans (Definition.passes_runFrom (s := ⟨scanner.cursor, mid⟩) ih.holds acts)

end

namespace Environment

theorem put_eq_ok {name : String} {value : Value} {env next : Environment} (h : env.put name value = .ok next) :
    next.states = env.states ∧ next.flags = env.flags ∧ next.kind = env.kind := by
  unfold put at h
  split at h
  · cases h
  · split at h <;> cases h <;> exact ⟨rfl, rfl, rfl⟩

/-- New environments have their start state alone on the stack, and no flags. -/
theorem fresh_eq_ok {kind : EnvironmentKind} {start : String} {env : Environment}
    (h : fresh kind start = .ok env) : env.states = [start] ∧ env.flags = .empty ∧ env.kind = kind.name := by
  have hbare : (bare kind.name start).states = [start] ∧ (bare kind.name start).flags = .empty ∧
    (bare kind.name start).kind = kind.name := ⟨rfl, rfl, rfl⟩
  unfold fresh at h
  generalize bare kind.name start = first at h hbare
  generalize kind.attributes = attributes at h
  induction attributes generalizing first with
  | nil =>
    cases h
    exact hbare
  | cons entry rest ih =>
    rw [List.foldlM_cons] at h
    obtain ⟨next, hput, h⟩ := exists_of_bind_ok h
    obtain ⟨hstates, hflags, hkind⟩ := put_eq_ok hput
    exact ih next ⟨hstates.trans hbare.1, hflags.trans hbare.2.1, hkind.trans hbare.2.2⟩ h

end Environment

/-- What holds of the stack of an environment that comes from a new one by the calls that were made. -/
structure StackLaws (made : List Made) (env : Environment) : Prop where
  nonempty : env.states ≠ []
  depth : env.states.length + made.countP (·.isPop) = 1 + made.countP (·.isPush)
  refused_iff : (∃ fault, (Change.pop.work.run env).1 = .error fault) ↔ env.states.length = 1
  refused : env.states.length = 1 →
    Change.pop.work.run env = (.error (.lastState env.state), env) ∧ env.states = [env.state]
  /-- While the stack never gets lower than `floor`, all states but the top one of so many stay. -/
  bottom : ∀ floor made' last, History (floor ≤ ·.states.length) env made' last →
    last.states.take (floor - 1) = env.states.take (floor - 1)
  /-- A push and the pop that matches it leave the stack as it was. -/
  matched : ∀ state made' last,
    History (env.states.length < ·.states.length) ((Change.push state).after env) made' last →
    (Change.pop.after last).states.length = env.states.length →
    (Change.pop.after last).states = env.states
  apart : ∀ change : Change,
    if change.onFlags then (change.after env).states = env.states
    else (change.after env).flags = env.flags
  /-- In a session, a call is a step of its own. -/
  direct : ∀ (session : Session) on key, session.keyIn on = some key → session.environments[key]? = some env →
    ∀ change : Change, (Session.reply (change.step on)).run session =
      (.mk ((change.work.run env).1.map fun _ => .nothing) (some (change.after env)),
        { session with environments := session.environments.set! key (change.after env) })

theorem History.bottom {env last : Environment} {made : List Made} (floor : Nat)
    (h : History (floor ≤ ·.states.length) env made last) :
    last.states.take (floor - 1) = env.states.take (floor - 1) := by
  cases floor with
  | zero => rfl
  | succ n =>
    have hpasses : Passes (n < ·.states.length) env made last := h.passes
    simp only [Environment.length_states] at hpasses
    exact hpasses.take_states

theorem History.matched {env last : Environment} {made : List Made} (state : String)
    (h : History (env.states.length < ·.states.length) ((Change.push state).after env) made last)
    (hback : (Change.pop.after last).states.length = env.states.length) :
    (Change.pop.after last).states = env.states := by
  have hkept := h.bottom (env.states.length + 1)
  have hpushed : ((Change.push state).after env).states = env.states ++ [state] := env.states_push state
  have hhigher : env.states.length < last.states.length := h.passes.holds
  have hone : last.depth ≠ 1 := by
    have hpos : 0 < env.states.length := List.length_pos_iff.mpr env.states_ne_nil
    rw [← Environment.length_states]
    omega
  obtain ⟨popped, hpop, hstates, _⟩ := last.exists_pop hone
  have hafter : (Change.pop.after last).states = last.states.dropLast := by
    rw [Change.after_pop, hpop]
    exact hstates
  rw [hpushed, Nat.add_sub_cancel, List.take_left] at hkept
  rw [hafter, List.length_dropLast] at hback
  rw [hafter, List.dropLast_eq_take, hback, hkept]

/-- However an environment comes from a new one, by calls and by scans, failed ones included, its stack
keeps to the laws. -/
theorem stack_keeps_laws (kind : EnvironmentKind) (start : String) (new : Environment)
    (hnew : Environment.fresh kind start = .ok new) (made : List Made) (env : Environment)
    (h : History (fun _ => True) new made env) : StackLaws made env where
  nonempty := env.states_ne_nil
  depth := by
    have hdepth := h.passes.depth_eq
    rw [← Environment.length_states, ← Environment.length_states, (Environment.fresh_eq_ok hnew).1] at hdepth
    exact hdepth
  refused_iff := by
    rw [Change.run_pop, Environment.length_states]
    by_cases hone : env.depth = 1
    · simp [(env.pop_of_depth hone).1, hone]
    · obtain ⟨popped, hpop, _⟩ := env.exists_pop hone
      simp [hpop, hone]
  refused hone := by
    rw [Environment.length_states] at hone
    obtain ⟨hpop, hstates⟩ := env.pop_of_depth hone
    rw [Change.run_pop, hpop]
    exact ⟨rfl, hstates⟩
  bottom floor _ _ := History.bottom floor
  matched state _ _ := History.matched state
  apart change := change.leaves env
  direct _ _ _ hkey henv change := change.run_reply_step hkey henv

/-- A lexer whose one action enters a state, leaves it again, and then pops once too often. -/
def leaving : Definition :=
  ⟨⟨[(defaultState, [⟨.text ⟨"x", .char (.single .exact 'x'.toNat), 0, []⟩,
    Script.action "leave" [.push (.const (.str "inner")), .pop, .pop] (.const .null), defaultState, .empty⟩])]⟩,
    .longest, defaultState⟩

/-- A scan that fails in its action, and a push from outside after it. -/
theorem stack_keeps_laws_leaving :
    let made : List Made :=
      [⟨.push "inner", true⟩, ⟨.pop, true⟩, ⟨.pop, false⟩, ⟨.push "outer", true⟩]
    let failed := leaving.lex "x" (.plain "default") none false
    let env := (Change.push "outer").after failed.environment
    Environment.fresh .plain "default" = .ok (.plain "default") ∧
      (∃ fault, failed.answer = .error fault) ∧
      History (fun _ => True) (.plain "default") made env ∧ StackLaws made env := by
  intro made failed env
  have hnew : Environment.fresh .plain "default" = .ok (.plain "default") := rfl
  have hfirings : (leaving.run "x".toList.toArray .start (.plain "default")).firings.length = 1 := by
    decide +kernel
  have hfailed : failed.answer = .error (.lastState "default") := by
    decide +kernel
  have hpass : History (fun _ => True) (.plain "default")
      ([] ++ (List.range 1).flatMap fun _ => [⟨.push "inner", true⟩, ⟨.pop, true⟩, ⟨.pop, false⟩])
      failed.environment := by
    rw [← hfirings]
    refine .scan (.start trivial) (.ofSource leaving "x" none false) _ ?_
    intro calls s f steps fires
    have hf := (List.getElem?_eq_some_iff.mp (steps.firings_length.mpr fires)).1
    have hnone : calls = [] := List.length_eq_zero_iff.mp (Nat.lt_one_iff.mp (hfirings ▸ hf))
    cases steps with
    | nil =>
      obtain ⟨c, _, rfl⟩ := fires.selected
      have hrule : c.rule = _ := List.mem_singleton.mp fires.rule_mem
      simp only [Firing.result, hrule, Action.run_onMatch]
      exact .change (.change (.change (.start trivial) (.push "inner") trivial) .pop trivial) .pop trivial
    | snoc => simp at hnone
  have h : History (fun _ => True) (.plain "default") made env :=
    hpass.calls (.change (.start trivial) (.push "outer") trivial)
  exact ⟨hnew, ⟨_, hfailed⟩, h, stack_keeps_laws .plain "default" _ hnew made env h⟩

end Lexing
