import Lexing.Proofs.Failures
import Lexing.Proofs.Lockstep
import Lexing.Proofs.Retelling
import Lexing.Proofs.Sessions
import Lexing.Script

/-! The match at hand while an action runs, and what is left of it afterwards. It is recorded before each call
and says the same as the text of the call and the place it was found at. -/
namespace Lexing

/-! ## Work that leaves the match alone -/

/-- The work leaves the match at hand as it is, also where it fails. -/
def Act.LeavesMatch {α : Type} (work : Act α) : Prop := ∀ env, (work.run env).2.lastMatch = env.lastMatch

namespace Act

variable {α β : Type} {work : Act α} {next : α → Act β}

theorem leavesMatch_pure (a : α) : (pure a : Act α).LeavesMatch := fun _ => rfl

theorem leavesMatch_throw (fault : Fault) : (throw fault : Act α).LeavesMatch := fun _ => rfl

theorem leavesMatch_lift (x : Except Fault α) : (liftExcept x : Act α).LeavesMatch := by
  intro env
  cases x <;> rfl

theorem leavesMatch_get : (get : Act Environment).LeavesMatch := fun _ => rfl

theorem LeavesMatch.bind (h : work.LeavesMatch) (hnext : ∀ a, (next a).LeavesMatch) :
    (work >>= next).LeavesMatch := by
  intro env
  have hwork := h env
  rw [run_bind]
  rcases hrun : work.run env with ⟨fault | a, last⟩
  · rw [hrun] at hwork
    exact hwork
  · rw [hrun] at hwork
    exact (hnext a last).trans hwork

/-- What is worked out from the environment may be used to replace it. -/
theorem leavesMatch_update {f : Environment → Except Fault α}
    (h : ∀ env a, f env = .ok a → ((next a).run env).2.lastMatch = env.lastMatch) :
    (do next (← liftExcept (f (← get)))).LeavesMatch := by
  intro env
  change ((liftExcept (f env) >>= next : Act β).run env).2.lastMatch = _
  cases hf : f env with
  | error fault => rfl
  | ok a => exact h env a hf

end Act

theorem Environment.lastMatch_pop {env changed : Environment} (h : env.pop = .ok changed) :
    changed.lastMatch = env.lastMatch := by
  unfold pop at h
  split at h
  · cases h
  · cases h
    rfl

theorem Environment.lastMatch_put {name : String} {v : Value} {env changed : Environment}
    (hname : name ≠ matchAttribute) (h : env.put name v = .ok changed) : changed.lastMatch = env.lastMatch := by
  unfold put at h
  split at h
  · cases h
  · split at h
    · next hmatch => exact absurd hmatch.1 hname
    · cases h
      rfl

namespace Script

open Act

theorem currentMatch_leavesMatch (wanted : String) : (currentMatch wanted).LeavesMatch := by
  refine leavesMatch_get.bind fun env => ?_
  cases env.lastMatch with
  | none => exact leavesMatch_throw _
  | some m => exact leavesMatch_pure m

theorem opened_leavesMatch (v : Value) : (opened v).LeavesMatch := fun _ => rfl

theorem current_leavesMatch (v : Value) : (current v).LeavesMatch := fun _ => rfl

mutual

/-- An expression only looks at the environment. -/
theorem eval_leavesMatch (text : String) (e : Expr) : (eval text e).LeavesMatch := by
  cases e with
  | const | text | state | states | depth | flags =>
    rw [eval]
    exact fun _ => rfl
  | int e =>
    rw [eval]
    exact (eval_leavesMatch text e).bind fun v => leavesMatch_lift _
  | group key =>
    rw [eval]
    exact (currentMatch_leavesMatch _).bind fun m => (leavesMatch_lift _).bind fun _ => leavesMatch_pure _
  | groups =>
    rw [eval]
    exact (currentMatch_leavesMatch _).bind fun _ => leavesMatch_pure _
  | span key =>
    rw [eval]
    exact (currentMatch_leavesMatch _).bind fun m => (leavesMatch_lift _).bind fun _ => leavesMatch_pure _
  | hasFlag e =>
    rw [eval]
    refine (eval_leavesMatch text e).bind fun v => ?_
    cases v with
    | str name => exact leavesMatch_get.bind fun _ => leavesMatch_pure _
    | _ => exact (leavesMatch_lift _).bind fun _ => leavesMatch_pure _
  | tuple items | list items =>
    rw [eval]
    exact (evalAll_leavesMatch text items).bind fun _ => leavesMatch_pure _
  | dict entries =>
    rw [eval]
    exact (evalEntries_leavesMatch text entries).bind fun _ => leavesMatch_lift _
  | emit type value =>
    rw [eval]
    exact (eval_leavesMatch text type).bind fun _ => (eval_leavesMatch text value).bind fun _ => leavesMatch_pure _
  | cat items =>
    rw [eval]
    exact (evalAll_leavesMatch text items).bind fun _ => (leavesMatch_lift _).bind fun _ => leavesMatch_pure _
  | join e | len e =>
    rw [eval]
    exact (eval_leavesMatch text e).bind fun v => (opened_leavesMatch v).bind fun _ => leavesMatch_lift _
  | add left right =>
    rw [eval]
    exact (eval_leavesMatch text left).bind fun a => (eval_leavesMatch text right).bind fun b =>
      (opened_leavesMatch a).bind fun _ => (opened_leavesMatch b).bind fun _ => leavesMatch_lift _
  | eq left right =>
    rw [eval]
    exact (eval_leavesMatch text left).bind fun a => (eval_leavesMatch text right).bind fun b =>
      (current_leavesMatch a).bind fun _ => (current_leavesMatch b).bind fun _ => leavesMatch_pure _
  | slice e first past =>
    rw [eval]
    exact (eval_leavesMatch text e).bind fun v => (eval_leavesMatch text first).bind fun _ =>
      (eval_leavesMatch text past).bind fun _ => (opened_leavesMatch v).bind fun _ => leavesMatch_lift _
  | get name =>
    rw [eval]
    exact leavesMatch_get.bind fun _ => leavesMatch_lift _

theorem evalAll_leavesMatch (text : String) (items : List Expr) : (evalAll text items).LeavesMatch := by
  cases items with
  | nil =>
    rw [evalAll]
    exact leavesMatch_pure _
  | cons e rest =>
    rw [evalAll]
    exact (eval_leavesMatch text e).bind fun _ => (evalAll_leavesMatch text rest).bind fun _ => leavesMatch_pure _

theorem evalEntries_leavesMatch (text : String) (entries : List (Expr × Expr)) :
    (evalEntries text entries).LeavesMatch := by
  match entries with
  | [] =>
    rw [evalEntries]
    exact leavesMatch_pure _
  | (k, e) :: rest =>
    rw [evalEntries]
    exact (eval_leavesMatch text k).bind fun _ => (eval_leavesMatch text e).bind fun _ =>
      (evalEntries_leavesMatch text rest).bind fun _ => leavesMatch_pure _

end

theorem evalName_leavesMatch (text : String) (e : Expr) : (evalName text e).LeavesMatch := by
  refine (eval_leavesMatch text e).bind fun v => ?_
  cases v with
  | str s => exact leavesMatch_pure s
  | _ => exact leavesMatch_throw _

end Script

mutual

/-- The statement puts something in the place of the match at hand. -/
def Stmt.putsMatch : Stmt → Bool
  | .put name _ => name == matchAttribute
  | .branch _ yes no => Stmt.anyPutsMatch yes || Stmt.anyPutsMatch no
  | _ => false

def Stmt.anyPutsMatch : List Stmt → Bool
  | [] => false
  | s :: rest => s.putsMatch || Stmt.anyPutsMatch rest

end

namespace Script

open Act

mutual

theorem exec_leavesMatch (text : String) (s : Stmt) (h : s.putsMatch = false) : (exec text s).LeavesMatch := by
  cases s with
  | push e | set e | flag e | unflag e =>
    rw [exec]
    exact (evalName_leavesMatch text e).bind fun _ _ => rfl
  | pop =>
    rw [exec]
    exact (leavesMatch_update fun _ _ => Environment.lastMatch_pop).bind fun _ => leavesMatch_pure none
  | clear =>
    rw [exec]
    exact fun _ => rfl
  | put name e =>
    have hname : name ≠ matchAttribute := by simpa [Stmt.putsMatch] using h
    rw [exec]
    exact (eval_leavesMatch text e).bind fun v =>
      leavesMatch_update fun _ _ => Environment.lastMatch_put hname
  | append name e =>
    rw [exec]
    refine leavesMatch_get.bind fun env => (leavesMatch_lift _).bind fun v => ?_
    cases v with
    | kept place =>
      exact (eval_leavesMatch text e).bind fun _ _ => rfl
    | _ => exact leavesMatch_throw _
  | raise kind arguments =>
    rw [exec]
    exact (evalAll_leavesMatch text arguments).bind fun _ => leavesMatch_throw _
  | branch condition yes no =>
    obtain ⟨hyes, hno⟩ : Stmt.anyPutsMatch yes = false ∧ Stmt.anyPutsMatch no = false := by
      simpa [Stmt.putsMatch] using h
    rw [exec]
    refine (eval_leavesMatch text condition).bind fun v => (opened_leavesMatch v).bind fun v => ?_
    split
    · exact execAll_leavesMatch text yes hyes
    · exact execAll_leavesMatch text no hno
  | «return» e =>
    rw [exec]
    exact (eval_leavesMatch text e).bind fun _ => leavesMatch_pure _

theorem execAll_leavesMatch (text : String) (body : List Stmt) (h : Stmt.anyPutsMatch body = false) :
    (execAll text body).LeavesMatch := by
  cases body with
  | nil =>
    rw [execAll]
    exact leavesMatch_pure none
  | cons s rest =>
    obtain ⟨hs, hrest⟩ : s.putsMatch = false ∧ Stmt.anyPutsMatch rest = false := by
      simpa [Stmt.anyPutsMatch] using h
    rw [execAll]
    refine (exec_leavesMatch text s hs).bind fun v => ?_
    cases v with
    | some v => exact leavesMatch_pure _
    | none => exact execAll_leavesMatch text rest hrest

end

/-- An action none of whose statements puts something in its place keeps its match. -/
theorem action_keepsMatch (name : String) (body : List Stmt) (result : Expr)
    (h : Stmt.anyPutsMatch body = false) : (action name body result).KeepsMatch := by
  intro env m
  rw [Action.run_onMatch]
  have hbody : ((action name body result).body m.found).LeavesMatch := by
    refine (execAll_leavesMatch m.found body h).bind fun v => ?_
    cases v with
    | some v => exact opened_leavesMatch v
    | none => exact (eval_leavesMatch m.found result).bind fun v => opened_leavesMatch v
  exact hbody _

/-- Whole texts and spans are those of the match at hand, whatever was done since it was recorded. -/
theorem run_eval_match {env : Environment} {m : Match} (h : env.lastMatch = some m) (text : String) :
    (eval text (.span (.number 0))).run env = (.ok (.tuple [.int m.start, .int m.stop]), env) ∧
      (eval text (.group (.number 0))).run env = (.ok (.str m.found), env) := by
  have hmatch (wanted : String) : (currentMatch wanted).run env = (.ok m, env) := by
    cases env
    cases h
    rfl
  constructor
  · rw [eval, run_bind, hmatch]
    rfl
  · rw [eval, run_bind, hmatch]
    rfl

end Script

/-! ## Runs -/

namespace Definition

variable {d : Definition} {text : Array Char} {s t : Boundary} {calls : List Call} {f g : Firing}

/-- At its call an action has the match of the rule that was picked, at the offset of the call and as long as
the text it is called with. It has it as long as its statements put nothing in its place. -/
structure SeesMatch (d : Definition) (text : Array Char) (before : Environment) (f : Firing) : Prop where
  picked : d.policy.Picks before.flags text f.cursor.offset (d.table.get before.state) f.rule f.found
  matched : f.rule.matcher.tryAt text f.cursor.offset = .ok (some f.found)
  called : f.result before = (f.rule.action.body f.chunk).run { before with lastMatch := some f.found }
  whole : f.found.text = text
  start : f.found.start = f.cursor.offset
  stop : f.found.stop = f.cursor.offset + f.chunk.length
  chunk : f.chunk = slice text f.cursor.offset (f.cursor.offset + f.chunk.length)
  told : ∀ done, Stmt.anyPutsMatch done = false →
    let here := ((Script.execAll f.chunk done).run { before with lastMatch := some f.found }).2
    here.lastMatch = some f.found ∧
      (Script.eval f.chunk (.span (.number 0))).run here =
        (.ok (.tuple [.int f.cursor.offset, .int (f.cursor.offset + f.chunk.length)]), here) ∧
      (Script.eval f.chunk (.group (.number 0))).run here = (.ok (.str f.chunk), here)

theorem Fires.seesMatch (h : d.Fires text s f) : d.SeesMatch text s.env f := by
  have hstart : f.found.start = f.cursor.offset := by rw [h.start_eq, h.cursor_eq]
  have hstop : f.found.stop = f.cursor.offset + f.chunk.length := by rw [h.stop_eq, h.cursor_eq]
  refine ⟨h.cursor_eq ▸ h.picks, h.cursor_eq ▸ h.eligible.matched, Action.run_onMatch _ _ _ _, h.text_eq, hstart,
    hstop, ?_, fun done hdone => ?_⟩
  · rw [← hstop, h.cursor_eq, h.slice_eq]
  · have hkept := Script.execAll_leavesMatch f.chunk done hdone { s.env with lastMatch := some f.found }
    obtain ⟨hspan, hgroup⟩ := Script.run_eval_match hkept f.chunk
    refine ⟨hkept, ?_, hgroup⟩
    rw [hstart, hstop, Int.natCast_add] at hspan
    exact hspan

/-- Consecutive firings are adjacent. -/
theorem start_of_firings {i : Nat} (hf : (d.runFrom text s).firings[i]? = some f)
    (hg : (d.runFrom text s).firings[i + 1]? = some g) : g.found.start = f.found.stop := by
  obtain ⟨calls, t, steps, hlength, fires⟩ := exists_steps_of_firing hg
  rcases calls.eq_nil_or_concat with rfl | ⟨earlier, call, rfl⟩
  · cases hlength
  · rw [List.concat_eq_append] at steps hlength
    obtain ⟨u, before, step⟩ := steps.of_concat
    have hearlier : earlier.length = i := by simpa using hlength
    rw [← hearlier] at hf
    rw [fires.start_eq, step.offset_eq, step.fires.unique (before.firings_length.mp hf)]

/-- Actions see their own match. At every call the match at hand is that of the rule which fires, at the offset
of the call, and spans the text the action is called with; one call begins where the one before it ended, the
first with the source. Once a pass is over, and however it ended, the match of the last call is at hand, also
of one that raised or answered what is not understood, or that from before the pass if there was none; where
the scanner itself finds nothing to match, it leaves the environment alone. This asks that actions leave the
match in its place, as all do none of whose statements puts something there. -/
theorem actions_see_their_match (d : Definition) (source : String) (env : Environment) :
    let text := source.toList.toArray
    let firings := (d.run text .start env).firings
    (∀ i f, firings[i]? = some f → ∃ calls s, d.Steps text (.start env) calls s ∧ calls.length = i ∧
      f.cursor = s.cursor ∧ d.SeesMatch text s.env f) ∧
    (∀ f, firings[0]? = some f → f.found.start = 0) ∧
    (∀ i f g, firings[i]? = some f → firings[i + 1]? = some g → g.found.start = f.found.stop) ∧
    (d.KeepsMatch → ∀ label trace, (d.lex source env label trace).environment.lastMatch =
      (firings.getLast?.map (·.found)).or env.lastMatch) ∧
    (∀ calls s f fault last, d.Steps text (.start env) calls s → d.Ends text s (.failed f fault last) →
      firings = calls.map (·.firing) ++ [f] ∧
        ∀ label trace, (d.lex source env label trace).environment = last) ∧
    (∀ calls s, d.Steps text (.start env) calls s → d.NothingMatches text s →
      firings = calls.map (·.firing) ∧ ∀ label trace,
        (d.lex source env label trace).tokens = .error (.unmatched (Run.unmatched text label s.cursor)) ∧
          (d.lex source env label trace).environment = s.env) ∧
    ∀ name body result, Stmt.anyPutsMatch body = false → (Script.action name body result).KeepsMatch := by
  intro text firings
  refine ⟨?_, ?_, fun i f g => start_of_firings (s := .start env),
    fun hkeeps _ _ => lastMatch_runFrom hkeeps (.start env), ?_, ?_, Script.action_keepsMatch⟩
  · intro i f hf
    obtain ⟨calls, s, steps, hlength, fires⟩ := exists_steps_of_firing (s := .start env) hf
    exact ⟨calls, s, steps, hlength, fires.cursor_eq, fires.seesMatch⟩
  · intro f hf
    exact (firings_zero (s := .start env).mp hf).start_eq
  · intro calls s f fault last steps hends
    have hrun : d.run text .start env = Run.prepend calls (.failed f fault last) :=
      hends.runFrom_eq ▸ steps.runFrom_eq
    refine ⟨?_, fun label trace => ?_⟩
    · change (d.run text .start env).firings = _
      rw [hrun, Run.firings_prepend]
      rfl
    · rw [steps.lex_eq, hends.runFrom_eq]
      rfl
  · intro calls s steps hnone
    obtain ⟨inside, none⟩ := nothingMatches_iff.mp hnone
    have hends : d.Ends text s (.stuck s.cursor s.env) := .stuck inside none
    have hrun : d.run text .start env = Run.prepend calls (.stuck s.cursor s.env) :=
      hends.runFrom_eq ▸ steps.runFrom_eq
    refine ⟨?_, fun label trace => ?_⟩
    · change (d.run text .start env).firings = _
      rw [hrun, Run.firings_prepend]
      exact List.append_nil _
    · rw [steps.lex_eq, hends.runFrom_eq]
      exact ⟨rfl, rfl⟩

/-- Numbers told with where they stand, with blanks between them. -/
def spanned : Definition :=
  .ofRules .longest [
    Calculator.compiled "[0-9]+" Calculator.digits
      (Script.action "spanned" [.put "last" .text] (.emit (.get "last") (.span (.number 0)))),
    Calculator.blankRule]

theorem keepsMatch_spanned : spanned.KeepsMatch := by
  intro state rule hrule
  rw [spanned, get_ofRules] at hrule
  split at hrule
  · rcases List.mem_pair.mp hrule with rfl | rfl
    · exact Script.action_keepsMatch _ _ _ rfl
    · exact fun _ _ => rfl
  · cases hrule

/-- The second number stands where the whole source has it. -/
theorem actions_see_their_match_spanned :
    let text := "12 345".toList.toArray
    let env := Environment.plain "default"
    let firings := (spanned.run text .start env).firings
    (spanned.lex "12 345" env none false).tokens =
        .ok [⟨.str "12", .tuple [.int 0, .int 2], some ⟨0, 1, 0, 2, none⟩⟩,
          ⟨.str "345", .tuple [.int 3, .int 6], some ⟨3, 1, 3, 3, none⟩⟩, ⟨.str "EOS", .null, none⟩] ∧
      (∀ i f, firings[i]? = some f → ∃ calls s, spanned.Steps text (.start env) calls s ∧ calls.length = i ∧
        f.cursor = s.cursor ∧ spanned.SeesMatch text s.env f) ∧
      (∀ label trace, (spanned.lex "12 345" env label trace).environment.lastMatch =
        (firings.getLast?.map (·.found)).or env.lastMatch) ∧
      Stmt.anyPutsMatch [.put "last" .text] = false := by
  intro text env firings
  obtain ⟨hsees, _, _, hlast, _⟩ := actions_see_their_match spanned "12 345" env
  exact ⟨by decide +kernel, hsees, hlast keepsMatch_spanned, rfl⟩

end Definition

end Lexing
