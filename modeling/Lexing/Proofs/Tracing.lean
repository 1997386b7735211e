import Lexing.Proofs.LineTracking
import Lexing.Proofs.SessionLexing

/-! What tracing and labels have to do with lexing: nothing but what is logged, and the label that places
carry. The log of a pass is its firings in their order, if they are traced, and that no rule matched, if
that is how the pass ends. -/
namespace Lexing

/-- The token with another label on its place. -/
def Token.relabel (label : Option String) (t : Token) : Token :=
  { t with position := t.position.map ({ · with source := label }) }

theorem Call.relabel_token? (call : Call) (label label' : Option String) :
    (call.token? label).map (·.relabel label') = call.token? label' := by
  rw [token?, token?, Option.map_map]
  rfl

theorem Call.map_relabel (calls : List Call) (label label' : Option String) :
    (calls.filterMap (·.token? label)).map (·.relabel label') = calls.filterMap (·.token? label') := by
  simp only [List.map_filterMap, relabel_token?]

/-- What is logged of a firing that is traced. -/
def Firing.record (label : Option String) (f : Firing) : Record := ⟨.scanner, f.traceText label⟩

namespace Run

/-- What is logged of a run that is stuck, after all its firings. -/
def lastRecord : Run → List Record
  | stuck cursor env => [⟨.scanner, stuckText env.state cursor⟩]
  | fired _ _ rest => rest.lastRecord
  | done .. | refused .. | failed .. => []

@[simp] theorem lastRecord_prepend {calls : List Call} {rest : Run} :
    (prepend calls rest).lastRecord = rest.lastRecord := by
  induction calls with
  | nil => rfl
  | cons call calls ih => exact ih

theorem log_eq (r : Run) (label : Option String) (trace : Bool) :
    r.log label trace = (if trace then r.firings.map (·.record label) else []) ++ r.lastRecord := by
  induction r with
  | done | stuck | refused => cases trace <;> rfl
  | failed f fault env => cases trace <;> rfl
  | fired f emit rest ih =>
    rw [log, ih]
    cases trace <;> rfl

end Run

namespace Definition

variable {d : Definition} {text : Array Char} {env : Environment} {s t : Boundary} {calls : List Call}

/-- The run comes to a place where text is left and no rule matches. -/
def StopsAt (d : Definition) (text : Array Char) (env : Environment) (s : Boundary) : Prop :=
  ∃ calls, d.Steps text (.start env) calls s ∧ s.cursor.offset < text.size ∧
    d.select s.env text s.cursor.offset = .ok none

/-- A run that does not stop for want of a rule ends in the same way under all labels. -/
theorem Ends.stops_or_same {r : Run} (h : d.Ends text t r) :
    (t.cursor.offset < text.size ∧ d.select t.env text t.cursor.offset = .ok none) ∨
      r.lastRecord = [] ∧ ((∀ label, r.tokens text label = .ok [.endOfStream]) ∨
        ∃ fault, ∀ label, r.tokens text label = .error fault) := by
  cases h with
  | done => exact .inr ⟨rfl, .inl fun _ => rfl⟩
  | stuck inside none => exact .inl ⟨inside, none⟩
  | refused => exact .inr ⟨rfl, .inr ⟨_, fun _ => rfl⟩⟩
  | raised => exact .inr ⟨rfl, .inr ⟨_, fun _ => rfl⟩⟩
  | rejected => exact .inr ⟨rfl, .inr ⟨_, fun _ => rfl⟩⟩

section

variable {source : String}

/-- What a pass that stops for want of a rule answers. -/
theorem StopsAt.answer_eq (h : d.StopsAt source.toList.toArray env s) (label : Option String) (trace : Bool) :
    (d.lex source env label trace).answer = .error (.unmatched ⟨s.cursor.offset, s.cursor.line,
      s.cursor.column, slice source.toList.toArray s.cursor.offset source.toList.toArray.size, label⟩) := by
  obtain ⟨calls, steps, inside, none⟩ := h
  exact (steps.tells label trace).unmatched inside none

theorem StopsAt.lastRecord_eq (h : d.StopsAt text env s) :
    (d.runFrom text (.start env)).lastRecord = [⟨.scanner, Run.stuckText s.env.state s.cursor⟩] := by
  obtain ⟨calls, steps, inside, none⟩ := h
  rw [steps.runFrom_eq, Run.lastRecord_prepend, runFrom_stuck inside none]
  rfl

/-- Tokens are the same but for their label, and so are faults that no label is in. -/
theorem answer_relabel (h : ¬ ∃ s, d.StopsAt source.toList.toArray env s) (label label' : Option String)
    (trace trace' : Bool) :
    (d.lex source env label' trace').answer =
      (d.lex source env label trace).answer.map (·.map (·.relabel label')) := by
  obtain ⟨calls, t, steps, hends⟩ := d.exists_steps source.toList.toArray (.start env)
  rw [Lexed.answer, Lexed.answer, steps.lex_eq label trace, steps.lex_eq label' trace']
  rcases hends.stops_or_same with ⟨inside, none⟩ | ⟨_, htokens | ⟨fault, hfault⟩⟩
  · exact absurd ⟨t, calls, steps, inside, none⟩ h
  · simp only [htokens, Except.map, Environment.readTokens]
    rw [← Call.map_relabel calls label label']
    simp [Token.relabel, Token.mapValues, Token.endOfStream, Function.comp_def]
  · simp only [hfault, Except.map, Environment.readTokens]

theorem lastRecord_eq_nil (h : ¬ ∃ s, d.StopsAt text env s) :
    (d.runFrom text (.start env)).lastRecord = [] := by
  obtain ⟨calls, t, steps, hends⟩ := d.exists_steps text (.start env)
  rw [steps.runFrom_eq, Run.lastRecord_prepend]
  rcases hends.stops_or_same with ⟨inside, none⟩ | ⟨hlast, _⟩
  · exact absurd ⟨t, calls, steps, inside, none⟩ h
  · exact hlast

/-- Where the last chunk that an action received ends. -/
def lastStop (firings : List Firing) : Nat := (firings.getLast?.map (·.found.stop)).getD 0

theorem Steps.lastStop_eq (h : d.Steps text (.start env) calls t) :
    lastStop (calls.map (·.firing)) = t.cursor.offset := by
  cases h with
  | nil => rfl
  | snoc before step =>
    rw [step.offset_eq, lastStop, List.map_append, List.getLast?_append]
    rfl

/-- All that the actions of a run received, the last one included, is the text up to where it ends. -/
theorem flatMap_chunk_firings (d : Definition) (text : Array Char) (env : Environment) :
    let firings := (d.run text .start env).firings
    firings.flatMap (·.chunk.toList) = text.toList.take (lastStop firings) := by
  intro firings
  obtain ⟨calls, t, steps, hends⟩ := d.exists_steps text (.start env)
  have hfirings : firings = calls.map (·.firing) ++ (d.runFrom text t).firings := by
    rw [← Run.firings_prepend, ← steps.runFrom_eq]
    rfl
  have hcalls : (calls.map (·.firing)).flatMap (·.chunk.toList) = text.toList.take t.cursor.offset := by
    rw [← steps.take_append, List.flatMap_map]
    rfl
  have hlast : ∀ f, d.Fires text t f → (calls.map (·.firing) ++ [f]).flatMap (·.chunk.toList) =
      text.toList.take (lastStop (calls.map (·.firing) ++ [f])) := by
    intro f fires
    rw [List.flatMap_append, hcalls, List.flatMap_singleton, fires.take_append_chunk, lastStop,
      List.getLast?_append]
    rfl
  rw [hfirings]
  generalize d.runFrom text t = r at hends
  cases hends with
  | done | stuck | refused =>
    simp only [Run.firings, List.append_nil]
    rw [hcalls, steps.lastStop_eq]
  | raised fires => exact hlast _ fires
  | rejected fires => exact hlast _ fires

/-- Only patterns over text have matches. -/
theorem Fires.exists_pattern {f : Firing} (h : d.Fires text s f) :
    ∃ pattern, f.rule.matcher = .text pattern := by
  have hmatched := h.eligible.matched
  cases hmatcher : f.rule.matcher with
  | text pattern => exact ⟨pattern, rfl⟩
  | bytes source =>
    rw [hmatcher] at hmatched
    cases hmatched

end

/-- Two passes over a source in the same environment, that differ in label and tracing. -/
structure SameApartFromLabel (d : Definition) (source : String) (env : Environment)
    (label label' : Option String) (trace trace' : Bool) : Prop where
  firings : ((Scanner.ofSource d source label trace).run env).firings =
    ((Scanner.ofSource d source label' trace').run env).firings
  environment : (d.lex source env label trace).environment = (d.lex source env label' trace').environment
  tokens : ∀ tokens, (d.lex source env label trace).answer = .ok tokens →
    (d.lex source env label' trace').answer = .ok (tokens.map (·.relabel label'))
  unmatched : ∀ s, d.StopsAt source.toList.toArray env s →
    ∃ u : Unmatched, (d.lex source env label trace).answer = .error (.unmatched { u with source := label }) ∧
      (d.lex source env label' trace').answer = .error (.unmatched { u with source := label' })
  fault : (¬ ∃ s, d.StopsAt source.toList.toArray env s) →
    ∀ fault, (d.lex source env label trace).answer = .error fault →
      (d.lex source env label' trace').answer = .error fault

/-- What is logged of a pass: each firing, before its action runs, and then that no rule matches. -/
structure LogTells (d : Definition) (source : String) (env : Environment) (label : Option String)
    (firings : List Firing) : Prop where
  fired : ∀ i f, firings[i]? = some f →
    ∃ calls s pattern, d.Steps source.toList.toArray (.start env) calls s ∧ calls.length = i ∧
      d.Fires source.toList.toArray s f ∧ f.rule.matcher = .text pattern ∧
      f.record label = ⟨.scanner,
        s!"{shownLabel label} {s.cursor.line}:{s.cursor.column} state={s.env.state} " ++
          Text.quote pattern.source ++ " matched " ++ Text.quote f.chunk⟩
  joined : String.join (firings.map (·.chunk)) = String.ofList (source.toList.take (lastStop firings))
  stops : ∀ s, d.StopsAt source.toList.toArray env s → ∀ trace,
    (d.lex source env label trace).log = (if trace then firings.map (·.record label) else []) ++
      [⟨.scanner, "No rule in state " ++ Text.quote s.env.state ++
        s!" matched at {s.cursor.line}:{s.cursor.column}"⟩]
  otherwise : (¬ ∃ s, d.StopsAt source.toList.toArray env s) → ∀ trace,
    (d.lex source env label trace).log = if trace then firings.map (·.record label) else []

theorem sameApartFromLabel (d : Definition) (source : String) (env : Environment)
    (label label' : Option String) (trace trace' : Bool) :
    d.SameApartFromLabel source env label label' trace trace' where
  firings := rfl
  environment := rfl
  tokens tokens htokens := by
    have hstops : ¬ ∃ s, d.StopsAt source.toList.toArray env s := by
      rintro ⟨s, stops⟩
      cases htokens.symm.trans (stops.answer_eq label trace)
    rw [answer_relabel hstops label label' trace trace', htokens]
    rfl
  unmatched s stops := ⟨Run.unmatched source.toList.toArray none s.cursor,
    stops.answer_eq label trace, stops.answer_eq label' trace'⟩
  fault hstops fault hfault := by
    rw [answer_relabel hstops label label' trace trace', hfault]
    rfl

theorem logTells (d : Definition) (source : String) (env : Environment) (label : Option String) :
    d.LogTells source env label (d.run source.toList.toArray .start env).firings where
  fired i f hf := by
    obtain ⟨calls, s, steps, hlength, fires⟩ := exists_steps_of_firing (s := .start env) hf
    obtain ⟨pattern, hpattern⟩ := fires.exists_pattern
    refine ⟨calls, s, pattern, steps, hlength, fires, hpattern, ?_⟩
    rw [Firing.record, Firing.traceText_eq, fires.cursor_eq, fires.state_eq, hpattern]
    rfl
  joined := by
    rw [← String.toList_inj, String.toList_join, List.flatMap_map, flatMap_chunk_firings]
    simp
  stops s stops trace := by
    have hlog : (d.lex source env label trace).log = _ := Run.log_eq _ _ _
    have hlast : ((Scanner.ofSource d source label trace).run env).lastRecord = _ := stops.lastRecord_eq
    rw [hlog, hlast]
    rfl
  otherwise hstops trace := by
    have hlog : (d.lex source env label trace).log = _ := Run.log_eq _ _ _
    have hlast : ((Scanner.ofSource d source label trace).run env).lastRecord = _ :=
      lastRecord_eq_nil hstops
    rw [hlog, hlast, List.append_nil]
    rfl

/-- Tracing and labels change nothing but the log and the labels of places. What is logged is told by the
firings alone; whether a session traces is up to its settings. -/
theorem tracing_changes_only_log (d : Definition) (source : String) (env : Environment) :
    (∀ label label' trace trace', d.SameApartFromLabel source env label label' trace trace') ∧
    (∀ label, d.LogTells source env label (d.run source.toList.toArray .start env).firings) ∧
    ∀ (session : Session) key label trace, session.environments[key]? = some env →
      let traced := { session with config := { session.config with trace := .bool trace } }
      let lexed := d.lex source env label trace
      (Session.lexAt key d source label).run traced = (lexed.answer, traced.keep key lexed) :=
  ⟨d.sameApartFromLabel source env, d.logTells source env,
    fun session _ label trace h =>
      Session.run_lexAt (s := { session with config := { session.config with trace := .bool trace } }) h
        d source label⟩

end Definition

end Lexing
