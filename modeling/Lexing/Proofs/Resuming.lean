import Lexing.Proofs.Sessions
import Lexing.Proofs.Steps

/-! What a call on a scanner leaves of it. A step fails in one of four ways; in each of them the cursor
stays where the step began, so the next call goes on from there. -/
namespace Lexing

/-- Where in a step something can go wrong. -/
inductive FailurePoint where
  | noCandidate
  /-- A pattern cannot be tried. -/
  | pattern
  /-- The action raises a fault, whatever it has done to the environment by then. -/
  | action
  | result
deriving DecidableEq

namespace Definition

/-- A step that fails at a boundary: the fault, and the environment as it is left. -/
inductive Fails (d : Definition) (text : Array Char) (label : Option String) (s : Boundary) :
    FailurePoint → Fault → Environment → Prop
  | noCandidate (inside : s.cursor.offset < text.size)
      (none : d.select s.env text s.cursor.offset = .ok none) :
      Fails d text label s .noCandidate (.unmatched (Run.unmatched text label s.cursor)) s.env
  | pattern {fault : Fault} (inside : s.cursor.offset < text.size)
      (error : d.select s.env text s.cursor.offset = .error fault) : Fails d text label s .pattern fault s.env
  | action {f : Firing} {fault : Fault} {last : Environment} (fires : d.Fires text s f)
      (raised : f.result s.env = (.error fault, last)) : Fails d text label s .action fault last
  | result {f : Firing} {v : Value} {fault : Fault} {last : Environment} (fires : d.Fires text s f)
      (returned : f.result s.env = (.ok v, last)) (rejected : Emit.ofResult v = .error fault) :
      Fails d text label s .result fault last

variable {d : Definition} {text : Array Char} {label : Option String} {s t : Boundary} {calls : List Call}
  {point : FailurePoint} {fault : Fault} {last : Environment}

/-- The run from a boundary where a step fails yields the fault and nothing else. -/
theorem Fails.exists_ends (h : d.Fails text label s point fault last) :
    ∃ r, d.Ends text s r ∧ r.tokens text label = .error fault ∧ r.environment = last := by
  cases h with
  | noCandidate inside none => exact ⟨_, .stuck inside none, rfl, rfl⟩
  | pattern inside error => exact ⟨_, .refused inside error, rfl, rfl⟩
  | action fires raised => exact ⟨_, .raised fires raised, rfl, rfl⟩
  | result fires returned rejected => exact ⟨_, .rejected fires returned rejected, rfl, rfl⟩

theorem Ends.done_or_fails {r : Run} (h : d.Ends text s r) (label : Option String) :
    r = .done s.cursor s.env ∧ text.size ≤ s.cursor.offset ∨
      ∃ point fault last, d.Fails text label s point fault last := by
  cases h with
  | done consumed => exact .inl ⟨rfl, consumed⟩
  | stuck inside none => exact .inr ⟨_, _, _, .noCandidate inside none⟩
  | refused inside error => exact .inr ⟨_, _, _, .pattern inside error⟩
  | raised fires acts => exact .inr ⟨_, _, _, .action fires acts⟩
  | rejected fires acts rejected => exact .inr ⟨_, _, _, .result fires acts rejected⟩

/-- What a run yields, and where it leaves off, follows from its ending. -/
theorem Steps.run_eq {r : Run} (h : d.Steps text s calls t) (hends : d.Ends text t r)
    (label : Option String) :
    (d.runFrom text s).tokens text label =
        (r.tokens text label).map (calls.filterMap (·.token? label) ++ ·) ∧
      (d.runFrom text s).environment = r.environment ∧ (d.runFrom text s).cursor = t.cursor := by
  rw [h.runFrom_eq, hends.runFrom_eq, Run.tokens_prepend, Run.environment_prepend, Run.cursor_prepend,
    hends.cursor_eq]
  exact ⟨rfl, rfl, rfl⟩

theorem Steps.offset_mono (h : d.Steps text s calls t) : s.cursor.offset ≤ t.cursor.offset := by
  rw [h.offset_eq]
  exact Nat.le_add_right _ _

end Definition

namespace Scanner

open Definition

/-- What the next call has to do with: the text from the cursor on, and the environment as it then is. -/
structure Resumes (scanner : Scanner) (now : Environment) : Prop where
  first : ∀ f, (scanner.run now).firings[0]? = some f → f.cursor = scanner.cursor
  onward : ∀ f ∈ (scanner.run now).firings, scanner.cursor.offset ≤ f.cursor.offset
  tokens : ∀ tokens, scanner.tokens (scanner.run now) = .ok tokens →
    ∃ calls t, scanner.definition.Steps scanner.text ⟨scanner.cursor, now⟩ calls t ∧
      scanner.text.toList.take scanner.cursor.offset ++ calls.flatMap (·.chunk.toList) =
        scanner.text.toList ∧
      tokens = calls.filterMap (·.token? scanner.label) ++ [.endOfStream]

theorem resumes (scanner : Scanner) (now : Environment) : scanner.Resumes now where
  first := by
    intro f hf
    have fires := (firings_zero (s := ⟨scanner.cursor, now⟩)).mp hf
    exact fires.cursor_eq
  onward := by
    intro f hf
    obtain ⟨i, hi⟩ := List.mem_iff_getElem?.mp hf
    obtain ⟨calls, t, steps, _, fires⟩ := exists_steps_of_firing (s := ⟨scanner.cursor, now⟩) hi
    rw [fires.cursor_eq]
    exact steps.offset_mono
  tokens := by
    intro tokens htokens
    obtain ⟨calls, t, steps, hends⟩ :=
      scanner.definition.exists_steps scanner.text ⟨scanner.cursor, now⟩
    refine ⟨calls, t, steps, ?_⟩
    have hall := (steps.run_eq hends scanner.label).1.symm.trans htokens
    rcases hends.done_or_fails scanner.label with ⟨hdone, consumed⟩ | ⟨point, fault, last, fails⟩
    · rw [hdone] at hall
      refine ⟨?_, (Except.ok.inj hall).symm⟩
      rw [steps.take_append]
      exact List.take_of_length_le (by simpa using consumed)
    · obtain ⟨r, hends, hfault, _⟩ := fails.exists_ends
      rw [hends.runFrom_eq, hfault] at hall
      cases hall

end Scanner

namespace Session

/-- Under the name is a scanner, and its environment is as given. -/
structure Holds (session : Session) (name : String) (scanner : Scanner) (key : Nat) (env : Environment) :
    Prop where
  object : session.objects.lookup name = some (.scanner scanner key)
  environment : session.environments[key]? = some env

theorem run_environmentAt {s : Session} {key : Nat} {env : Environment}
    (h : s.environments[key]? = some env) : (environmentAt key).run s = (.ok env, s) := by
  have hget : (get : Work Session).run s = (.ok s, s) := rfl
  unfold environmentAt
  rw [run_bind, hget]
  dsimp only
  rw [h]
  rfl

/-- A call on a scanner answers what its run yields, and keeps what the run leaves. -/
theorem Holds.resume {session : Session} {name : String} {scanner : Scanner} {key : Nat}
    {env : Environment} (h : session.Holds name scanner key env) :
    let run := scanner.run env
    let replied := (resume name).run session
    replied.1 = (run.environment.readTokens (scanner.tokens run)).map .tokens ∧
      replied.2.Holds name (scanner.after run) key run.environment := by
  intro run replied
  have hlt : key < session.environments.size := (Array.getElem?_eq_some_iff.mp h.environment).1
  have hreplied : replied =
      ((run.environment.readTokens (scanner.tokens run)).map .tokens,
        { session with
          environments := session.environments.set! key run.environment
          log := session.log ++ scanner.log run }.store name (.scanner (scanner.after run) key)) := by
    simp only [replied, Session.resume, run_bind, run_find, h.object, run_environmentAt h.environment]
    cases run.environment.readTokens (scanner.tokens run) <;> rfl
  rw [hreplied]
  refine ⟨rfl, lookup_store_self _ _ _, ?_⟩
  change (session.environments.set! key run.environment)[key]? = _
  simp [hlt]

end Session

namespace Scanner

section

variable {scanner : Scanner} {env last : Environment} {calls : List Call} {t : Boundary}
  {point : FailurePoint} {fault : Fault}

theorem after_run_eq {r : Run} (steps : scanner.definition.Steps scanner.text ⟨scanner.cursor, env⟩ calls t)
    (hends : scanner.definition.Ends scanner.text t r) :
    scanner.after (scanner.run env) = { scanner with cursor := t.cursor } :=
  congrArg (fun cursor => { scanner with cursor := cursor }) (steps.run_eq hends scanner.label).2.2

theorem run_of_fails (steps : scanner.definition.Steps scanner.text ⟨scanner.cursor, env⟩ calls t)
    (fails : scanner.definition.Fails scanner.text scanner.label t point fault last) :
    scanner.tokens (scanner.run env) = .error fault ∧ (scanner.run env).environment = last ∧
      scanner.after (scanner.run env) = { scanner with cursor := t.cursor } := by
  obtain ⟨r, hends, hfault, hlast⟩ := fails.exists_ends
  obtain ⟨htokens, henvironment, _⟩ := steps.run_eq hends scanner.label
  rw [hfault] at htokens
  exact ⟨htokens, henvironment.trans hlast, after_run_eq steps hends⟩

/-- Where nothing matched, nothing matches as long as nothing changes. -/
theorem again_of_noCandidate (steps : scanner.definition.Steps scanner.text ⟨scanner.cursor, env⟩ calls t)
    (fails : scanner.definition.Fails scanner.text scanner.label t .noCandidate fault last) :
    let left := scanner.after (scanner.run env)
    left.tokens (left.run last) = .error fault ∧ (left.run last).environment = last ∧
      left.after (left.run last) = left := by
  intro left
  obtain ⟨r, hends, hfault, hlast⟩ := fails.exists_ends
  have hleft : left = { scanner with cursor := t.cursor } := after_run_eq steps hends
  -- No action has run, so the step begins again just as it did before.
  have hsame : last = t.env := by
    cases fails
    rfl
  have hagain : left.run last = r := by
    rw [hleft, hsame]
    exact hends.runFrom_eq
  rw [hagain, hleft]
  refine ⟨hfault, hlast, ?_⟩
  simp only [Scanner.after, hends.cursor_eq]

theorem again_of_tokens {tokens : List Token} (htokens : scanner.tokens (scanner.run env) = .ok tokens)
    (now : Environment) :
    let left := scanner.after (scanner.run env)
    left.tokens (left.run now) = .ok [.endOfStream] ∧ (left.run now).firings = [] ∧
      (left.run now).environment = now ∧ left.after (left.run now) = left := by
  intro left
  obtain ⟨calls, t, steps, hends⟩ := scanner.definition.exists_steps scanner.text ⟨scanner.cursor, env⟩
  have hleft : left = { scanner with cursor := t.cursor } := after_run_eq steps hends
  rcases hends.done_or_fails scanner.label with ⟨_, consumed⟩ | ⟨point, fault, last, fails⟩
  · have hagain : left.run now = .done t.cursor now := by
      rw [hleft]
      exact (Definition.Ends.done (s := ⟨t.cursor, now⟩) consumed).runFrom_eq
    rw [hagain, hleft]
    exact ⟨rfl, rfl, rfl, rfl⟩
  · cases (run_of_fails steps fails).1.symm.trans htokens

end

/-- A call on a scanner returns tokens or fails in one of its steps. A failing step yields its fault and
nothing else, and leaves the scanner at the place before it, whence the next call goes on. If nothing
matched there and nothing has changed since, the next call tells the same; after the end of the text it
returns the last token alone. -/
theorem failed_step_keeps_place (scanner : Scanner) (env : Environment) :
    let d := scanner.definition
    let text := scanner.text
    let run := scanner.run env
    let left := scanner.after run
    (∀ (session : Session) name key, session.Holds name scanner key env →
      let replied := (Session.resume name).run session
      replied.1 = (run.environment.readTokens (scanner.tokens run)).map .tokens ∧
        replied.2.Holds name left key run.environment) ∧
    ((∃ tokens, scanner.tokens run = .ok tokens) ∨
      ∃ calls t point fault last, d.Steps text ⟨scanner.cursor, env⟩ calls t ∧
        d.Fails text scanner.label t point fault last) ∧
    (∀ calls t point fault last, d.Steps text ⟨scanner.cursor, env⟩ calls t →
      d.Fails text scanner.label t point fault last →
        scanner.tokens run = .error fault ∧ run.environment = last ∧
        left = { scanner with cursor := t.cursor } ∧ (∀ now, left.Resumes now) ∧
        (point = .noCandidate →
          left.tokens (left.run last) = .error fault ∧ (left.run last).environment = last ∧
            left.after (left.run last) = left)) ∧
    ∀ tokens, scanner.tokens run = .ok tokens → ∀ now,
      left.tokens (left.run now) = .ok [.endOfStream] ∧ (left.run now).firings = [] ∧
        (left.run now).environment = now ∧ left.after (left.run now) = left := by
  intro d text run left
  refine ⟨fun session name key h => h.resume, ?_, ?_, fun tokens htokens now => again_of_tokens htokens now⟩
  · obtain ⟨calls, t, steps, hends⟩ := d.exists_steps text ⟨scanner.cursor, env⟩
    rcases hends.done_or_fails scanner.label with ⟨hdone, _⟩ | ⟨point, fault, last, fails⟩
    · rw [hdone] at hends
      exact .inl ⟨_, (steps.run_eq hends scanner.label).1⟩
    · exact .inr ⟨calls, t, point, fault, last, steps, fails⟩
  · intro calls t point fault last steps fails
    obtain ⟨htokens, henvironment, hleft⟩ := run_of_fails steps fails
    refine ⟨htokens, henvironment, hleft, left.resumes, ?_⟩
    rintro rfl
    exact again_of_noCandidate steps fails

end Scanner

end Lexing
