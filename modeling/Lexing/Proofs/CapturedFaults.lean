import Lexing.Proofs.Failures
import Lexing.Proofs.Isolation

/-! Lexing that keeps unmatched input as a result. Faults are told apart by their kind alone, so unmatched
input that an action reports counts as that of the pass, and only faults of the other kinds come through. -/
namespace Lexing

theorem Environment.readFault_eq_unmatched {env : Environment} {fault : Fault} {u : Unmatched} :
    env.readFault fault = .unmatched u ↔ fault = .unmatched u := by
  constructor
  · intro h
    cases fault with
    | unmatched input => exact h
    | resultSize result =>
      simp only [readFault, Fault.mapValues, Fault.told] at h
      split at h <;> cases h
    | _ => cases h
  · rintro rfl
    rfl

namespace LexResult

variable {tokens : Except Fault (List Token)}

theorem ofTokens_failed {r : LexResult} :
    ofTokens tokens = .ok r ∧ r.ok = false ↔ ∃ u, tokens = .error (.unmatched u) ∧ r = ⟨[], some u⟩ := by
  constructor
  · rintro ⟨hr, hok⟩
    unfold ofTokens at hr
    split at hr
    · cases hr
      cases hok
    · next u =>
      cases hr
      exact ⟨u, rfl, rfl⟩
    · cases hr
  · rintro ⟨u, rfl, rfl⟩
    exact ⟨rfl, rfl⟩

theorem ofTokens_error {fault : Fault} (h : ∀ u, fault ≠ .unmatched u) :
    ofTokens (.error fault) = .error fault := by
  unfold ofTokens
  split
  · next hfault => cases hfault
  · next u hfault =>
    cases hfault
    exact absurd rfl (h u)
  · next hfault =>
    cases hfault
    rfl

end LexResult

namespace Definition

/-- In the run from the start, an action raises a fault. -/
def ActionRaises (d : Definition) (text : Array Char) (env : Environment) (fault : Fault)
    (last : Environment) : Prop :=
  ∃ calls s f, d.Steps text (.start env) calls s ∧ d.Fires text s f ∧ f.result s.env = (.error fault, last)

variable {d : Definition} {source : String} {env : Environment} {label : Option String} {trace : Bool}

theorem ActionRaises.answer_eq {fault : Fault} {last : Environment}
    (h : d.ActionRaises source.toList.toArray env fault last) (label : Option String) (trace : Bool) :
    (d.lex source env label trace).answer = .error (last.readFault fault) := by
  obtain ⟨calls, s, f, steps, fires, raised⟩ := h
  have fails : d.Fails source.toList.toArray label s .action fault last := .action fires raised
  exact fails.answer_eq steps trace

/-- Unmatched input is answered where no rule matches, and where an action says so. -/
theorem answer_eq_unmatched {u : Unmatched} :
    (d.lex source env label trace).answer = .error (.unmatched u) ↔
      (∃ calls s, d.Steps source.toList.toArray (.start env) calls s ∧
        d.NothingMatches source.toList.toArray s ∧ u = Run.unmatched source.toList.toArray label s.cursor) ∨
      ∃ last, d.ActionRaises source.toList.toArray env (.unmatched u) last := by
  constructor
  · intro h
    rcases d.answer_ok_or_fails source env label trace with
      ⟨tokens, hok⟩ | ⟨calls, s, point, fault, last, steps, fails, herror⟩
    · cases hok.symm.trans h
    · obtain rfl := Environment.readFault_eq_unmatched.mp (Except.error.inj (herror.symm.trans h))
      generalize hfault : Fault.unmatched u = fault at fails
      cases fails with
      | noCandidate inside none =>
        cases hfault
        exact .inl ⟨calls, s, steps, nothingMatches_iff.mpr ⟨inside, none⟩, rfl⟩
      | pattern inside error => cases hfault.trans (select_eq_error.mp error).1
      | action fires raised => exact .inr ⟨last, calls, s, _, steps, fires, hfault ▸ raised⟩
      | result fires returned rejected => cases hfault.trans (Emit.ofResult_eq_error rejected)
  · rintro (⟨calls, s, steps, hnothing, rfl⟩ | ⟨last, hraises⟩)
    · obtain ⟨inside, none⟩ := nothingMatches_iff.mp hnothing
      exact (Fails.noCandidate inside none).answer_eq steps trace
    · exact hraises.answer_eq label trace

end Definition

namespace Session

variable {session : Session} {on : String} {t : LexerType} {key : Nat} {env : Environment}

/-- What a step is answered. -/
def answered (session : Session) (step : Step) : Except Fault Answer := ((answer step).run session).1

/-- What a lexer is answered, with unmatched input raised and with unmatched input kept. -/
theorem run_lexer_answers (hobject : session.objects.lookup on = some (.lexer t key))
    (henv : session.environments[key]? = some env) (text : String) (label : Option String) :
    let answer := (t.definition.lex text env label session.config.traces).answer
    session.answered (.lex on text label) = answer.map .tokens ∧
      session.answered (.tryLex on text label) = (LexResult.ofTokens answer).map .result := by
  have hlex := LexerCall.run_answer hobject ⟨text, label, false⟩
  have htry := LexerCall.run_answer hobject ⟨text, label, true⟩
  rw [run_lexAt henv] at hlex htry
  exact ⟨congrArg Prod.fst hlex, congrArg Prod.fst htry⟩

/-- A failed result is unmatched input that was kept. -/
theorem map_ofTokens_failed {tokens : Except Fault (List Token)} :
    (∃ r, (LexResult.ofTokens tokens).map Answer.result = .ok (.result r) ∧ r.ok = false) ↔
      ∃ u, tokens = .error (.unmatched u) := by
  constructor
  · rintro ⟨r, hr, hok⟩
    cases hresult : LexResult.ofTokens tokens with
    | error fault =>
      rw [hresult] at hr
      cases hr
    | ok r' =>
      rw [hresult] at hr
      cases hr
      obtain ⟨u, hu, _⟩ := LexResult.ofTokens_failed.mp ⟨hresult, hok⟩
      exact ⟨u, hu⟩
  · rintro ⟨u, rfl⟩
    exact ⟨_, rfl, rfl⟩

/-- How lexing a text in an environment is answered where unmatched input is to be kept as a result. -/
structure KeepsByKind (session : Session) (on : String) (d : Definition) (env : Environment) (text : String)
    (label : Option String) : Prop where
  failed : (∃ r, session.answered (.tryLex on text label) = .ok (.result r) ∧ r.ok = false) ↔
    (∃ calls s, d.Steps text.toList.toArray (.start env) calls s ∧ d.NothingMatches text.toList.toArray s) ∨
      ∃ u last, d.ActionRaises text.toList.toArray env (.unmatched u) last
  unmatched : ∀ calls s, d.Steps text.toList.toArray (.start env) calls s →
    d.NothingMatches text.toList.toArray s →
      session.answered (.tryLex on text label) =
        .ok (.result ⟨[], some (Run.unmatched text.toList.toArray label s.cursor)⟩)
  hidden : ∀ u last, d.ActionRaises text.toList.toArray env (.unmatched u) last →
    session.answered (.lex on text label) = .error (.unmatched u) ∧
      session.answered (.tryLex on text label) = .ok (.result ⟨[], some u⟩)
  through : ∀ fault last, d.ActionRaises text.toList.toArray env fault last → (∀ u, fault ≠ .unmatched u) →
    session.answered (.lex on text label) = .error (last.readFault fault) ∧
      session.answered (.tryLex on text label) = .error (last.readFault fault)

/-- A lexer that is to keep unmatched input keeps it where no rule matches, but also where an action raises
it; then the result is what the action said. All other faults of actions are told just as without the
keeping. -/
theorem tryLex_keeps_by_kind (session : Session) (on : String) (t : LexerType) (key : Nat) (env : Environment)
    (hobject : session.objects.lookup on = some (.lexer t key)) (henv : session.environments[key]? = some env)
    (text : String) (label : Option String) :
    session.KeepsByKind on t.definition env text label := by
  obtain ⟨hplain, htried⟩ := run_lexer_answers hobject henv text label
  refine ⟨?_, ?_, ?_, ?_⟩
  · rw [htried, map_ofTokens_failed]
    simp only [Definition.answer_eq_unmatched]
    constructor
    · rintro ⟨u, ⟨calls, s, steps, hnothing, _⟩ | ⟨last, hraises⟩⟩
      · exact .inl ⟨calls, s, steps, hnothing⟩
      · exact .inr ⟨u, last, hraises⟩
    · rintro (⟨calls, s, steps, hnothing⟩ | ⟨u, last, hraises⟩)
      · exact ⟨_, .inl ⟨calls, s, steps, hnothing, rfl⟩⟩
      · exact ⟨u, .inr ⟨last, hraises⟩⟩
  · intro calls s steps hnothing
    rw [htried, Definition.answer_eq_unmatched.mpr (.inl ⟨calls, s, steps, hnothing, rfl⟩)]
    rfl
  · intro u last hraises
    rw [hplain, htried, hraises.answer_eq]
    exact ⟨rfl, rfl⟩
  · intro fault last hraises hother
    have htold : ∀ u, last.readFault fault ≠ .unmatched u := fun u hu =>
      hother u (Environment.readFault_eq_unmatched.mp hu)
    rw [hplain, htried, hraises.answer_eq, LexResult.ofTokens_error htold]
    exact ⟨rfl, rfl⟩

/-- What the action of the one rule below raises. -/
def actionReport : Unmatched := ⟨0, 1, 0, "from the action", none⟩

def reportingAction : Action := .perform "report" fun _ => throw (.unmatched actionReport)

def reportingRule : Rule := Calculator.compiled "a" (.char (.single .exact 'a'.toNat)) reportingAction

def reportingType : LexerType :=
  { LexerType.base with
    name := "Reporting"
    definition := ⟨⟨[(defaultState, [reportingRule])]⟩, .longest, defaultState⟩ }

/-- A session with a lexer of that kind. -/
def reportingSession : Session := (initial.grown (.plain defaultState)).store "x" (.lexer reportingType 0)

theorem lookup_reportingSession : reportingSession.objects.lookup "x" = some (.lexer reportingType 0) :=
  lookup_store_self _ _ _

theorem tryLex_keeps_by_kind_reporting :
    reportingSession.objects.lookup "x" = some (.lexer reportingType 0) ∧
      reportingSession.environments[0]? = some (.plain defaultState) ∧
      reportingSession.KeepsByKind "x" reportingType.definition (.plain defaultState) "a" none :=
  ⟨lookup_reportingSession, rfl,
    tryLex_keeps_by_kind reportingSession "x" reportingType 0 (.plain defaultState)
      lookup_reportingSession rfl "a" none⟩

/-- The text is matched by the rule, yet what its action raises is returned as a result. -/
theorem tryLex_hides_fault_of_action :
    let d := reportingType.definition
    let text := "a".toList.toArray
    LexerType.base.extend "Reporting" [⟨.text "a", defaultState, [], .action reportingAction⟩] {} =
        .ok reportingType ∧
      reportingSession.answered (.tryLex "x" "a" none) = .ok (.result ⟨[], some actionReport⟩) ∧
      (∃ last, d.ActionRaises text (.plain defaultState) (.unmatched actionReport) last) ∧
      ¬ ∃ calls s, d.Steps text (.start (.plain defaultState)) calls s ∧ d.NothingMatches text s := by
  intro d text
  have hanswer : (d.lex "a" (.plain defaultState) none false).answer = .error (.unmatched actionReport) := by
    decide +kernel
  have hstuck : ¬ ∃ calls s, d.Steps text (.start (.plain defaultState)) calls s ∧
      d.NothingMatches text s := by
    rintro ⟨calls, s, steps, hnothing⟩
    have hsame := hanswer.symm.trans
      (Definition.answer_eq_unmatched.mpr (.inl ⟨calls, s, steps, hnothing, rfl⟩))
    have hzero : s.cursor.offset = 0 := Nat.lt_one_iff.mp hnothing.inside
    have hremainder : "from the action" = slice text s.cursor.offset text.size :=
      congrArg Unmatched.remainder (Fault.unmatched.inj (Except.error.inj hsame))
    rw [hzero] at hremainder
    exact absurd hremainder (by decide)
  refine ⟨rfl, ?_, ?_, hstuck⟩
  · rw [(run_lexer_answers lookup_reportingSession rfl "a" none).2]
    exact congrArg (fun answer => (LexResult.ofTokens answer).map _) hanswer
  · rcases Definition.answer_eq_unmatched.mp hanswer with ⟨calls, s, steps, hnothing, _⟩ | hraises
    · exact absurd ⟨calls, s, steps, hnothing⟩ hstuck
    · exact hraises

end Session

end Lexing
