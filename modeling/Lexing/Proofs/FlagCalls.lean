import Lexing.Proofs.MatchAtHand
import Lexing.Proofs.Segmentation
import Lexing.Proofs.StackDiscipline

/-! Calls about flags within actions. Several in a row come to one change of the set of flags, and all that
follows depends on the set alone, so they may be replaced by any others that come to the same. -/
namespace Lexing

/-! ## What calls come to -/

theorem FlagSet.insert_erase (flags : FlagSet) (name : String) :
    (flags.erase name).insert name = flags.insert name := by
  ext x
  cases h : x == name <;> simp [bne, h]

namespace Change

/-- What the call makes of the flags. -/
def reflag : Change → FlagSet → FlagSet
  | setFlag flag, flags => flags.insert flag
  | unsetFlag flag, flags => flags.erase flag
  | clearFlags, _ => .empty
  | push _, flags | pop, flags | setState _, flags => flags

/-- What calls in a row make of the flags. -/
def net (changes : List Change) (flags : FlagSet) : FlagSet :=
  changes.foldl (fun flags change => change.reflag flags) flags

theorem run_work_of_onFlags {change : Change} (h : change.onFlags) (env : Environment) :
    change.work.run env = (.ok (), { env with flags := change.reflag env.flags }) := by
  cases change with
  | push | pop | setState => cases h
  | setFlag | unsetFlag | clearFlags => rfl

theorem run_forM_work {changes : List Change} (h : ∀ change ∈ changes, change.onFlags) (env : Environment) :
    (forM changes work).run env = (.ok (), { env with flags := net changes env.flags }) := by
  induction changes generalizing env with
  | nil => rfl
  | cons change changes ih =>
    rw [List.forM_cons, run_bind, run_work_of_onFlags (h change List.mem_cons_self)]
    exact ih (fun other hother => h other (List.mem_cons_of_mem _ hother)) _

/-- The statement that makes the call. -/
def stmt : Change → Stmt
  | push state => .push (.const (.str state))
  | pop => .pop
  | setState state => .set (.const (.str state))
  | setFlag flag => .flag (.const (.str flag))
  | unsetFlag flag => .unflag (.const (.str flag))
  | clearFlags => .clear

end Change

/-! ## Actions with other calls -/

namespace Act

/-- The second work, from an environment on, is the first with some calls about flags in a row replaced by others
that come to the same there. What comes after is taken as it goes on from where the first has come to. -/
inductive Reflagged : {α : Type} → Environment → Act α → Act α → Prop
  | refl {α : Type} {env : Environment} (work : Act α) : Reflagged env work work
  | calls {env : Environment} {changes changes' : List Change} (flags : ∀ change ∈ changes, change.onFlags)
      (flags' : ∀ change ∈ changes', change.onFlags)
      (net : Change.net changes' env.flags = Change.net changes env.flags) :
      Reflagged env (forM changes Change.work) (forM changes' Change.work)
  | bind {α β : Type} {env : Environment} {work work' : Act α} {next next' : α → Act β}
      (first : Reflagged env work work')
      (rest : ∀ a last, work.run env = (.ok a, last) → Reflagged last (next a) (next' a)) :
      Reflagged env (work >>= next) (work' >>= next')
  | recover {α : Type} {env : Environment} {work work' : Act α} {handle handle' : Fault → Act α}
      (first : Reflagged env work work')
      (rest : ∀ fault last, work.run env = (.error fault, last) → Reflagged last (handle fault) (handle' fault)) :
      Reflagged env (tryCatch work handle) (tryCatch work' handle')

theorem Reflagged.run_eq {α : Type} {env : Environment} {work work' : Act α} (h : Reflagged env work work') :
    work'.run env = work.run env := by
  induction h with
  | refl => rfl
  | calls flags flags' net => rw [Change.run_forM_work flags, Change.run_forM_work flags', net]
  | @bind _ _ env work work' _ _ _ _ ih ihrest =>
    rw [run_bind, run_bind, ih]
    rcases hrun : work.run env with ⟨fault | a, last⟩
    · rfl
    · exact ihrest a last hrun
  | @recover _ env work work' _ _ _ _ ih ihrest =>
    rw [run_tryCatch, run_tryCatch, ih]
    rcases hrun : work.run env with ⟨fault | a, last⟩
    · exact ihrest fault last hrun
    · rfl

end Act

/-- Run on a text in an environment, the second action is the first but for calls about flags. -/
def Action.Reflagged (action action' : Action) (env : Environment) (text : String) : Prop :=
  Act.Reflagged env (action.body text) (action'.body text)

/-! ## Statements with other calls -/

namespace Script

open Act

/-- What is done after a statement: nothing more if it returned a value. -/
def onward (text : String) (rest : List Stmt) : Option Value → Act (Option Value)
  | some v => return some v
  | none => execAll text rest

theorem execAll_cons (text : String) (s : Stmt) (rest : List Stmt) :
    execAll text (s :: rest) = exec text s >>= onward text rest := by
  rw [execAll]
  rfl

theorem exec_stmt (text : String) (change : Change) :
    exec text change.stmt = change.work >>= fun _ => return none := by
  cases change <;> rw [Change.stmt, exec] <;> rfl

theorem execAll_stmts (text : String) (changes : List Change) (rest : List Stmt) :
    execAll text (changes.map (·.stmt) ++ rest) = forM changes Change.work >>= fun _ => execAll text rest := by
  induction changes with
  | nil => rfl
  | cons change changes ih =>
    have hnext : onward text (changes.map (·.stmt) ++ rest) none =
        forM changes Change.work >>= fun _ => execAll text rest := ih
    rw [List.map_cons, List.cons_append, execAll_cons, exec_stmt, List.forM_cons, bind_assoc, bind_assoc, ← hnext]
    rfl

/-- Statements, with some calls about flags in a row replaced by others that always come to the same, also
in branches. -/
inductive Reflagged : List Stmt → List Stmt → Prop
  | nil : Reflagged [] []
  | cons (s : Stmt) {rest rest' : List Stmt} (after : Reflagged rest rest') : Reflagged (s :: rest) (s :: rest')
  | branch (condition : Expr) {yes yes' no no' rest rest' : List Stmt} (ifTrue : Reflagged yes yes')
      (ifFalse : Reflagged no no') (after : Reflagged rest rest') :
      Reflagged (.branch condition yes no :: rest) (.branch condition yes' no' :: rest')
  | calls {changes changes' : List Change} {rest rest' : List Stmt} (flags : ∀ change ∈ changes, change.onFlags)
      (flags' : ∀ change ∈ changes', change.onFlags)
      (net : ∀ flags, Change.net changes' flags = Change.net changes flags) (after : Reflagged rest rest') :
      Reflagged (changes.map (·.stmt) ++ rest) (changes'.map (·.stmt) ++ rest')

theorem reflagged_onward {text : String} {rest rest' : List Stmt} {env : Environment}
    (h : Act.Reflagged env (execAll text rest) (execAll text rest')) (v? : Option Value) :
    Act.Reflagged env (onward text rest v?) (onward text rest' v?) := by
  cases v? with
  | some v => exact .refl _
  | none => exact h

theorem Reflagged.execAll {body body' : List Stmt} (h : Reflagged body body') (text : String)
    (env : Environment) : Act.Reflagged env (execAll text body) (execAll text body') := by
  induction h generalizing env with
  | nil => exact .refl _
  | cons s _ ih =>
    rw [execAll_cons, execAll_cons]
    exact .bind (.refl _) fun v? last _ => reflagged_onward (ih last) v?
  | branch condition _ _ _ ihtrue ihfalse ih =>
    rw [execAll_cons, execAll_cons, exec, exec]
    refine .bind (.bind (.refl _) fun v _ _ => .bind (.refl _) fun opened last _ => ?_) fun v? last _ =>
      reflagged_onward (ih last) v?
    split
    · exact ihtrue last
    · exact ihfalse last
  | calls flags flags' net _ ih =>
    rw [execAll_stmts, execAll_stmts]
    exact .bind (.calls flags flags' (net _)) fun _ last _ => ih last

/-- Actions with such statements. -/
theorem Reflagged.action {body body' : List Stmt} (h : Reflagged body body') (name : String) (result : Expr)
    (env : Environment) (text : String) :
    (Script.action name body result).Reflagged (Script.action name body' result) env text :=
  .bind (h.execAll text env) fun _ _ _ => .refl _

end Script

/-! ## Runs -/

/-- The rule in the same place fires at the same cursor, in the same state and on the same match. -/
structure Firing.InPlace (d d' : Definition) (f f' : Firing) : Prop where
  rules : d.Corresponds d' f.state f.rule f'.rule
  firing : f' = { f with rule := f'.rule }

/-- The action in the same place answers the same and asks for the same token. -/
structure Call.Repeats (d d' : Definition) (call call' : Call) : Prop where
  inPlace : call.firing.InPlace d d' call'.firing
  result : call'.result = call.result
  emit : call'.emit = call.emit

/-- But for which of two rules in the same place fires, the runs are the same. -/
structure Run.Repeats (d d' : Definition) (text : Array Char) (r r' : Run) : Prop where
  firings : List.Forall₂ (Firing.InPlace d d') r.firings r'.firings
  tokens : ∀ label, r'.tokens text label = r.tokens text label
  log : ∀ label trace, r'.log label trace = r.log label trace
  environment : r'.environment = r.environment
  cursor : r'.cursor = r.cursor

section

variable {d d' : Definition} {text : Array Char} {s t : Boundary} {f f' : Firing} {calls calls' : List Call}

namespace Firing.InPlace

theorem cursor_eq (h : f.InPlace d d' f') : f'.cursor = f.cursor := by rw [h.firing]

theorem found_eq (h : f.InPlace d d' f') : f'.found = f.found := by rw [h.firing]

theorem token_eq (h : f.InPlace d d' f') (label : Option String) : f'.token label = f.token label := by
  rw [h.firing]
  rfl

/-- What is told of a firing names its pattern, which both rules have. -/
theorem told_eq (h : f.InPlace d d' f') (hsame : d.SamePatterns d') (label : Option String) (trace : Bool) :
    Run.log.told label trace f' = Run.log.told label trace f := by
  have hrules : f.rule.SamePattern f'.rule := (List.forall₂_iff_zip.mp (hsame.rules f.state)).2 h.rules
  have htext : f'.traceText label = f.traceText label := by
    rw [h.firing]
    unfold traceText
    dsimp only [chunk]
    rw [← hrules.matcher]
  rw [Run.log.told, Run.log.told, htext]

end Firing.InPlace

theorem Run.Repeats.prepend (hsame : d.SamePatterns d') (hcalls : List.Forall₂ (Call.Repeats d d') calls calls')
    {r r' : Run} (h : r.Repeats d d' text r') : (prepend calls r).Repeats d d' text (prepend calls' r') where
  firings := by
    rw [firings_prepend, firings_prepend]
    refine List.rel_append ?_ h.firings
    rw [List.forall₂_map_left_iff, List.forall₂_map_right_iff]
    exact hcalls.imp fun _ _ => Call.Repeats.inPlace
  tokens label := by
    have htokens : calls'.filterMap (·.token? label) = calls.filterMap (·.token? label) := by
      induction hcalls with
      | nil => rfl
      | @cons call call' _ _ hcall _ ih =>
        have htoken : call'.token? label = call.token? label := by
          rw [Call.token?, Call.token?, hcall.emit, hcall.inPlace.token_eq]
        rw [List.filterMap_cons, List.filterMap_cons, htoken, ih]
    rw [tokens_prepend, tokens_prepend, htokens, h.tokens]
  log label trace := by
    have htold : calls'.flatMap (fun call => log.told label trace call.firing) =
        calls.flatMap fun call => log.told label trace call.firing := by
      induction hcalls with
      | nil => rfl
      | cons hcall _ ih => rw [List.flatMap_cons, List.flatMap_cons, hcall.inPlace.told_eq hsame, ih]
    rw [log_prepend, log_prepend, htold, h.log]
  environment := by rw [environment_prepend, environment_prepend, h.environment]
  cursor := by rw [cursor_prepend, cursor_prepend, h.cursor]

namespace Definition

/-- Whenever the first definition calls an action on its way from a boundary, the action in the same place of
the other one is the same there but for calls about flags. -/
def Reflags (d d' : Definition) (text : Array Char) (s : Boundary) : Prop :=
  ∀ calls t f rule', d.Steps text s calls t → d.Fires text t f → d.Corresponds d' f.state f.rule rule' →
    f.rule.action.Reflagged rule'.action { t.env with lastMatch := some f.found } f.chunk

/-- From a boundary on, steps of the first definition are steps of the other one, between the same boundaries,
and the runs are the same. -/
structure RepeatsFrom (d d' : Definition) (text : Array Char) (s : Boundary) : Prop where
  steps : ∀ calls t, d.Steps text s calls t →
    ∃ calls', d'.Steps text s calls' t ∧ List.Forall₂ (Call.Repeats d d') calls calls'
  run : (d.runFrom text s).Repeats d d' text (d'.runFrom text s)

/-- Where a rule fires, the rule in its place does, and its action comes to the same. -/
theorem Fires.repeats (fires : d.Fires text t f) (hsame : d.SamePatterns d') (hflags : d.Reflags d' text s)
    (steps : d.Steps text s calls t) :
    ∃ f', f.InPlace d d' f' ∧ d'.Fires text t f' ∧ f'.result t.env = f.result t.env := by
  obtain ⟨rule', hcorresponds, fires'⟩ := fires.parallel hsame
  refine ⟨_, ⟨hcorresponds, rfl⟩, fires', ?_⟩
  exact (hflags calls t f rule' steps fires hcorresponds).run_eq

theorem Steps.repeats (steps : d.Steps text s calls t) (hsame : d.SamePatterns d') (hflags : d.Reflags d' text s) :
    ∃ calls', d'.Steps text s calls' t ∧ List.Forall₂ (Call.Repeats d d') calls calls' := by
  induction steps with
  | nil => exact ⟨[], .nil, .nil⟩
  | snoc before step ih =>
    obtain ⟨calls', before', hcalls⟩ := ih
    obtain ⟨f', hf, fires', hresult⟩ := step.fires.repeats hsame hflags before
    refine ⟨calls' ++ [⟨f', _, _⟩], .snoc before' ⟨fires', hresult.trans step.acts, step.understood, ?_⟩,
      List.rel_append hcalls (.cons ⟨hf, rfl, rfl⟩ .nil)⟩
    rw [hf.found_eq]
    exact step.moves

theorem Ends.repeats {r : Run} (hends : d.Ends text t r) (hsame : d.SamePatterns d')
    (hflags : d.Reflags d' text s) (steps : d.Steps text s calls t) : r.Repeats d d' text (d'.runFrom text t) := by
  cases hends with
  | done consumed =>
    rw [(Ends.done consumed).runFrom_eq]
    exact ⟨.nil, fun _ => rfl, fun _ _ => rfl, rfl, rfl⟩
  | stuck inside none =>
    rw [(Ends.stuck inside (hsame.select_eq_none none)).runFrom_eq]
    exact ⟨.nil, fun _ => rfl, fun _ _ => rfl, rfl, rfl⟩
  | refused inside error =>
    have hagree := hsame.select_agree t.env text t.cursor.offset
    rw [error] at hagree
    rw [(Ends.refused inside hagree.eq_error).runFrom_eq]
    exact ⟨.nil, fun _ => rfl, fun _ _ => rfl, rfl, rfl⟩
  | raised fires acts =>
    obtain ⟨f', hf, fires', hresult⟩ := fires.repeats hsame hflags steps
    rw [(Ends.raised fires' (hresult.trans acts)).runFrom_eq]
    exact ⟨.cons hf .nil, fun _ => rfl, hf.told_eq hsame, rfl, hf.cursor_eq⟩
  | rejected fires acts rejected =>
    obtain ⟨f', hf, fires', hresult⟩ := fires.repeats hsame hflags steps
    rw [(Ends.rejected fires' (hresult.trans acts) rejected).runFrom_eq]
    exact ⟨.cons hf .nil, fun _ => rfl, hf.told_eq hsame, rfl, hf.cursor_eq⟩

/-- Only what calls about flags come to counts. -/
theorem repeatsFrom (hsame : d.SamePatterns d') (hflags : d.Reflags d' text s) : d.RepeatsFrom d' text s where
  steps _ _ steps := steps.repeats hsame hflags
  run := by
    obtain ⟨calls, t, steps, hends⟩ := d.exists_steps text s
    obtain ⟨calls', steps', hcalls⟩ := steps.repeats hsame hflags
    rw [steps.runFrom_eq, steps'.runFrom_eq]
    exact (hends.repeats hsame hflags steps).prepend hsame hcalls

theorem RepeatsFrom.lex_eq {source : String} {env : Environment}
    (h : d.RepeatsFrom d' source.toList.toArray (.start env)) (label : Option String) (trace : Bool) :
    d'.lex source env label trace = d.lex source env label trace := by
  have hrun : ((Scanner.ofSource d source label trace).run env).Repeats d d' source.toList.toArray
      ((Scanner.ofSource d' source label trace).run env) := h.run
  rw [lex, lex, Scanner.tokens, Scanner.tokens, Scanner.log, Scanner.log, hrun.environment]
  congr 1
  · exact hrun.tokens label
  · exact hrun.log label trace

end Definition

end

end Lexing
