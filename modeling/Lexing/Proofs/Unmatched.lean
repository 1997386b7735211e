import Lexing.Proofs.LineTracking
import Lexing.Proofs.RuleChoice

/-! When lexing ends with unmatched input, and what is told of it. As long as the actions do their part,
a pass fails only where it is stuck: inside the source, at a boundary without a candidate. -/
namespace Lexing

/-- What stands in front of a line and a column: a label that has text, and a colon. -/
def labelText : Option String → String
  | some label => if label = "" then "" else label ++ ":"
  | none => ""

theorem locate_eq (label : Option String) (line column : Int) :
    locate label line column = labelText label ++ s!"{line}:{column}" := by
  cases label with
  | none => simp [locate, labelText]
  | some name =>
    by_cases h : name = ""
    · simp [locate, labelText, h]
    · simp [locate, labelText, h, String.append_assoc]
      rfl

theorem slice_size (source : String) (start : Nat) :
    slice source.toList.toArray start source.toList.toArray.size =
      String.ofList (source.toList.drop start) := by
  rw [slice, Array.toList_extract, List.extract_eq_take_drop, List.take_of_length_le (by simp)]

/-- The fault of the action that a run ends with. -/
def Run.failure? : Run → Option Fault
  | .done .. | .stuck .. | .refused .. => none
  | .failed _ fault _ => some fault
  | .fired _ _ rest => rest.failure?

@[simp] theorem Run.failure?_prepend {calls : List Call} {rest : Run} :
    (prepend calls rest).failure? = rest.failure? := by
  induction calls with
  | nil => rfl
  | cons call calls ih => exact ih

namespace Definition

variable {d : Definition} {text : Array Char} {s : Boundary} {calls : List Call} {env : Environment}

/-- No action that is called in the run raises a fault, and all results are understood. -/
def Complies (d : Definition) (text : Array Char) (env : Environment) : Prop :=
  ∀ calls s f, d.Steps text (.start env) calls s → d.Fires text s f →
    ∃ v emit last, f.result s.env = (.ok v, last) ∧ Emit.ofResult v = .ok emit

/-- Whether actions comply can be told by running them. -/
theorem complies_iff : d.Complies text env ↔ (d.runFrom text (.start env)).failure? = none := by
  constructor
  · intro h
    obtain ⟨calls, s, steps, hends⟩ := d.exists_steps text (.start env)
    rw [steps.runFrom_eq, Run.failure?_prepend]
    generalize d.runFrom text s = r at hends
    cases hends with
    | done => rfl
    | stuck => rfl
    | refused => rfl
    | raised fires acts =>
      obtain ⟨v, emit, last, hresult, _⟩ := h calls s _ steps fires
      cases (Prod.mk.inj (hresult.symm.trans acts)).1
    | rejected fires acts rejected =>
      obtain ⟨v, emit, last, hresult, hemit⟩ := h calls s _ steps fires
      cases (Prod.mk.inj (hresult.symm.trans acts)).1
      cases hemit.symm.trans rejected
  · intro h calls s f steps fires
    rw [steps.runFrom_eq, Run.failure?_prepend] at h
    rcases hresult : f.result s.env with ⟨outcome, last⟩
    cases outcome with
    | error fault =>
      rw [(Ends.raised fires hresult).runFrom_eq] at h
      cases h
    | ok v =>
      cases hemit : Emit.ofResult v with
      | error fault =>
        rw [(Ends.rejected fires hresult hemit).runFrom_eq] at h
        cases h
      | ok emit => exact ⟨v, emit, last, rfl, hemit⟩

/-- There is text left, and no rule to match it. -/
structure StuckAt (d : Definition) (text : Array Char) (s : Boundary) : Prop where
  inside : s.cursor.offset < text.size
  noCandidate : ¬ d.HasCandidate text s

theorem stuckAt_iff (htextual : d.Textual) :
    d.StuckAt text s ↔ s.cursor.offset < text.size ∧ d.select s.env text s.cursor.offset = .ok none := by
  constructor
  · intro h
    obtain ⟨c?, hselect⟩ : ∃ c?, d.select s.env text s.cursor.offset = .ok c? := exists_select htextual
    cases c? with
    | none => exact ⟨h.inside, hselect⟩
    | some c =>
      have hpicks := select_eq_some hselect
      exact absurd ⟨c.rule, hpicks.mem, c.found, hpicks.eligible⟩ h.noCandidate
  · rintro ⟨inside, hselect⟩
    refine ⟨inside, ?_⟩
    rintro ⟨rule, hrule, found, heligible⟩
    exact select_eq_none hselect rule hrule found heligible

/-- A run whose actions comply goes on to the end of the text, or to where it is stuck. -/
theorem Complies.exists_steps (hcomplies : d.Complies text env) (htextual : d.Textual) :
    ∃ calls s, d.Steps text (.start env) calls s ∧
      (text.size ≤ s.cursor.offset ∧ d.runFrom text s = .done s.cursor s.env ∨ d.StuckAt text s) := by
  obtain ⟨calls, s, steps, hends⟩ := d.exists_steps text (.start env)
  refine ⟨calls, s, steps, ?_⟩
  have hfailure := complies_iff.mp hcomplies
  rw [steps.runFrom_eq, Run.failure?_prepend] at hfailure
  generalize d.runFrom text s = r at hends hfailure
  cases hends with
  | done consumed => exact .inl ⟨consumed, rfl⟩
  | stuck inside none => exact .inr ((stuckAt_iff htextual).mpr ⟨inside, none⟩)
  | refused _ error =>
    obtain ⟨c?, hselect⟩ : ∃ c?, d.select s.env text s.cursor.offset = .ok c? := exists_select htextual
    cases hselect.symm.trans error
  | raised => cases hfailure
  | rejected => cases hfailure

end Definition

/-- The fault tells of the boundary and of all that is left there. -/
structure Unmatched.Reports (source : String) (label : Option String) (calls : List Call) (s : Boundary)
    (u : Unmatched) : Prop where
  offset : u.offset = s.cursor.offset
  line : u.line = s.cursor.line
  column : u.column = s.cursor.column
  labelled : u.source = label
  remainder : u.remainder = String.ofList (source.toList.drop s.cursor.offset)
  nonempty : u.remainder ≠ ""
  joined : String.join (calls.map (·.chunk)) ++ u.remainder = source
  place : ∀ length, (Position.mk u.offset u.line u.column length u.source).display =
    labelText label ++ s!"{s.cursor.line}:{s.cursor.column}"
  message : ∀ length, (Fault.unmatched u).message =
    (Position.mk u.offset u.line u.column length u.source).display ++
      " Unable to match string with any of the given rules: " ++ u.remainder

namespace Definition

variable {d : Definition} {text : Array Char} {s : Boundary} {calls : List Call} {env : Environment}

theorem Steps.reports {source : String} (h : d.Steps source.toList.toArray (.start env) calls s)
    (inside : s.cursor.offset < source.toList.toArray.size) (label : Option String) :
    (Run.unmatched source.toList.toArray label s.cursor).Reports source label calls s where
  offset := rfl
  line := rfl
  column := rfl
  labelled := rfl
  remainder := slice_size source s.cursor.offset
  nonempty := by
    have hlt : s.cursor.offset < source.toList.length := by simpa using inside
    intro hempty
    have hdrop : source.toList.drop s.cursor.offset = [] := by
      rw [Run.unmatched, slice_size] at hempty
      simpa using congrArg String.toList hempty
    have hlength := List.drop_eq_nil_iff.mp hdrop
    omega
  joined := by
    have htake : calls.flatMap (·.chunk.toList) = source.toList.take s.cursor.offset := by
      simpa [Boundary.start, Cursor.start] using h.take_append
    rw [Run.unmatched, slice_size, ← String.toList_inj, String.toList_append, String.toList_join,
      List.flatMap_map, htake, String.toList_ofList, List.take_append_drop]
  place := fun length => locate_eq label _ _
  message := fun length => rfl

/-- Lexing under actions that comply returns tokens or tells of unmatched input, the latter exactly if
its run gets stuck. Then the fault reports the place, and the last action's environment is kept. -/
theorem unmatched_iff_stuck (d : Definition) (htextual : d.Textual) (source : String) (env : Environment)
    (hcomplies : d.Complies source.toList.toArray env) (label : Option String) (trace : Bool) :
    let text := source.toList.toArray
    let lexed := d.lex source env label trace
    ((∃ tokens, lexed.answer = .ok tokens) ∨ ∃ u, lexed.answer = .error (.unmatched u)) ∧
    ((∃ u, lexed.answer = .error (.unmatched u)) ↔
      ∃ calls s, d.Steps text (.start env) calls s ∧ d.StuckAt text s) ∧
    ∀ calls s, d.Steps text (.start env) calls s → d.StuckAt text s →
      ∃ u, lexed.answer = .error (.unmatched u) ∧ u.Reports source label calls s ∧
        lexed.environment = s.env := by
  intro text lexed
  have hstuck : ∀ calls s, d.Steps text (.start env) calls s → d.StuckAt text s →
      ∃ u, lexed.answer = .error (.unmatched u) ∧ u.Reports source label calls s ∧
        lexed.environment = s.env := by
    intro calls s steps stuck
    obtain ⟨inside, hnone⟩ := (stuckAt_iff htextual).mp stuck
    have hlexed := steps.lex_eq label trace
    rw [runFrom_stuck inside hnone] at hlexed
    refine ⟨Run.unmatched text label s.cursor, (steps.tells label trace).unmatched inside hnone,
      steps.reports inside label, ?_⟩
    simp only [lexed, hlexed, Run.environment]
  obtain ⟨calls, s, steps, ⟨consumed, hdone⟩ | stuck⟩ := hcomplies.exists_steps htextual
  · have hanswer : ∃ tokens, lexed.answer = .ok tokens := by
      simp only [lexed, steps.lex_eq, hdone]
      exact ⟨_, rfl⟩
    obtain ⟨tokens, hanswer⟩ := hanswer
    refine ⟨.inl ⟨tokens, hanswer⟩, ⟨?_, ?_⟩, hstuck⟩
    · rintro ⟨u, hu⟩
      cases hanswer.symm.trans hu
    · rintro ⟨calls, s, steps, stuck⟩
      obtain ⟨u, hu, _⟩ := hstuck calls s steps stuck
      exact ⟨u, hu⟩
  · obtain ⟨u, hu, _⟩ := hstuck calls s steps stuck
    exact ⟨.inr ⟨u, hu⟩, ⟨fun _ => ⟨calls, s, steps, stuck⟩, fun _ => ⟨u, hu⟩⟩, hstuck⟩

/-- No rule takes the sign of equality on the second line. -/
theorem unmatched_iff_stuck_equation :
    let d := Calculator.lexer.definition
    let source := "(1 +\n 2) = 3"
    let text := source.toList.toArray
    let env := Environment.plain "default"
    let lexed := d.lex source env (some "sums.txt") false
    d.Textual ∧ d.Complies text env ∧ (d.run text .start env).cursor = ⟨9, 2, 4⟩ ∧
      ((∃ tokens, lexed.answer = .ok tokens) ∨ ∃ u, lexed.answer = .error (.unmatched u)) ∧
      ((∃ u, lexed.answer = .error (.unmatched u)) ↔
        ∃ calls s, d.Steps text (.start env) calls s ∧ d.StuckAt text s) ∧
      ∀ calls s, d.Steps text (.start env) calls s → d.StuckAt text s →
        ∃ u, lexed.answer = .error (.unmatched u) ∧ u.Reports source (some "sums.txt") calls s ∧
          lexed.environment = s.env := by
  have hcomplies : Calculator.lexer.definition.Complies "(1 +\n 2) = 3".toList.toArray
      (.plain "default") := by
    rw [complies_iff, Calculator.lexer_definition]
    decide +kernel
  have hcursor : (Calculator.lexer.definition.run "(1 +\n 2) = 3".toList.toArray .start
      (.plain "default")).cursor = ⟨9, 2, 4⟩ := by
    rw [Calculator.lexer_definition]
    decide +kernel
  exact ⟨Calculator.textual, hcomplies, hcursor,
    unmatched_iff_stuck Calculator.lexer.definition Calculator.textual "(1 +\n 2) = 3" (.plain "default")
      hcomplies (some "sums.txt") false⟩

end Definition

end Lexing
