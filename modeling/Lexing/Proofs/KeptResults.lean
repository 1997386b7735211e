import Lexing.Proofs.CapturedFaults
import Lexing.Proofs.EndOfStream

/-! Calls that keep unmatched input next to calls that raise it. The two do the same to the session and say
the same, one in a result and the other by raising, so one may stand in the place of the other anywhere among
the steps of a session. -/
namespace Lexing

namespace LexResult

/-- The result holds the tokens, which end with the one for the end of the source. -/
structure Succeeds (r : LexResult) (made : List Token) : Prop where
  tokens_eq : r.tokens = made
  error_eq : r.error = none
  ok_eq : r.ok = true
  unwrap_eq : r.unwrap = .ok made
  last : made.getLast? = some .endOfStream

/-- The result holds what was left unmatched and no tokens. -/
structure FailsWith (r : LexResult) (u : Unmatched) : Prop where
  tokens_eq : r.tokens = []
  error_eq : r.error = some u
  ok_eq : r.ok = false
  unwrap_eq : r.unwrap = .error u

end LexResult

namespace Session

/-- The answer of a call that raises, and that of a call that keeps unmatched input. -/
inductive KeptAnswer : Except Fault Answer → Except Fault Answer → Prop
  | returned {tokens : List Token} {r : LexResult} (succeeds : r.Succeeds tokens) :
      KeptAnswer (.ok (.tokens tokens)) (.ok (.result r))
  | kept {u : Unmatched} {r : LexResult} (fails : r.FailsWith u) :
      KeptAnswer (.error (.unmatched u)) (.ok (.result r))
  | raised {fault : Fault} (other : ∀ u, fault ≠ .unmatched u) : KeptAnswer (.error fault) (.error fault)

theorem KeptAnswer.of_tokens {tokens : Except Fault (List Token)}
    (last : ∀ ts, tokens = .ok ts → ts.getLast? = some .endOfStream) :
    KeptAnswer (tokens.map .tokens) ((LexResult.ofTokens tokens).map .result) := by
  cases tokens with
  | ok ts => exact .returned ⟨rfl, rfl, rfl, rfl, last ts rfl⟩
  | error fault =>
    by_cases hfault : ∃ u, fault = .unmatched u
    · obtain ⟨u, rfl⟩ := hfault
      exact .kept ⟨rfl, rfl, rfl, rfl⟩
    · rw [LexResult.ofTokens_error (not_exists.mp hfault)]
      exact .raised (not_exists.mp hfault)

theorem lexAt_last {s : Session} {key : Nat} {d : Definition} {text : String} {label : Option String}
    {tokens : List Token} (h : ((lexAt key d text label).run s).1 = .ok tokens) :
    tokens.getLast? = some .endOfStream := by
  cases henv : s.environments[key]? with
  | none =>
    rw [run_lexAt_of_none henv] at h
    cases h
  | some env =>
    rw [run_lexAt henv] at h
    obtain ⟨calls, t, _, _, rfl⟩ := Definition.exists_steps_of_answer h
    exact List.getLast?_concat

/-- One call: what is answered, and that the session is left the same. -/
theorem kept_answer (s : Session) (on text : String) (label : Option String) :
    let lexed := (answer (.lex on text label)).run s
    let tried := (answer (.tryLex on text label)).run s
    KeptAnswer lexed.1 tried.1 ∧ tried.2 = lexed.2 := by
  intro lexed tried
  rcases run_findLexer_cases s on with ⟨t, key, hobject⟩ | hfault
  · have hlexed : lexed = _ := LexerCall.run_answer hobject ⟨text, label, false⟩
    have htried : tried = _ := LexerCall.run_answer hobject ⟨text, label, true⟩
    rw [hlexed, htried]
    exact ⟨.of_tokens fun _ => lexAt_last, rfl⟩
  · have hlexed : lexed = (.error (.unknownName on), s) := by
      simp only [lexed, answer, run_bind, hfault]
    have htried : tried = (.error (.unknownName on), s) := by
      simp only [tried, answer, run_bind, hfault]
    rw [hlexed, htried]
    exact ⟨.raised (by simp), rfl⟩

/-! ## Steps of a session -/

mutual

/-- A step in the place of another: some calls that raise have become calls that keep unmatched input, also
among steps that are taken under other settings. -/
inductive Relaxes : Step → Step → Prop
  | same (step : Step) : Relaxes step step
  | call (on text : String) (label : Option String) : Relaxes (.lex on text label) (.tryLex on text label)
  | within (settings : List (String × Value)) (raising : Option String) {steps steps' : List Step}
      (inner : RelaxesAll steps steps') : Relaxes (.within settings steps raising) (.within settings steps' raising)

inductive RelaxesAll : List Step → List Step → Prop
  | nil : RelaxesAll [] []
  | cons {step step' : Step} {steps steps' : List Step} (first : Relaxes step step')
      (rest : RelaxesAll steps steps') : RelaxesAll (step :: steps) (step' :: steps')

end

mutual

/-- The replies to a step and to the one in its place: the same, unless a call in it keeps what was raised. -/
inductive RepliesAlike : Step → Step → Reply → Reply → Prop
  | same (step : Step) (reply : Reply) : RepliesAlike step step reply reply
  | call (on text : String) (label : Option String) (env : Option Environment)
      {answer answer' : Except Fault Answer} (kept : KeptAnswer answer answer') :
      RepliesAlike (.lex on text label) (.tryLex on text label) (.mk answer env) (.mk answer' env)
  | within (settings : List (String × Value)) (raising : Option String) (config former : Config)
      (env : Option Environment) {steps steps' : List Step} {replies replies' : List Reply}
      (inner : AllRepliesAlike steps steps' replies replies') :
      RepliesAlike (.within settings steps raising) (.within settings steps' raising)
        (.mk (.ok (.within config replies raising former)) env)
        (.mk (.ok (.within config replies' raising former)) env)
  | refused (settings : List (String × Value)) (raising : Option String) (steps steps' : List Step)
      (reply : Reply) : RepliesAlike (.within settings steps raising) (.within settings steps' raising) reply reply

inductive AllRepliesAlike : List Step → List Step → List Reply → List Reply → Prop
  | nil : AllRepliesAlike [] [] [] []
  | cons {step step' : Step} {steps steps' : List Step} {reply reply' : Reply} {replies replies' : List Reply}
      (first : RepliesAlike step step' reply reply') (rest : AllRepliesAlike steps steps' replies replies') :
      AllRepliesAlike (step :: steps) (step' :: steps') (reply :: replies) (reply' :: replies')

end

/-- Steps under other settings are taken with these, and the former ones hold again after them. -/
theorem run_within (s : Session) (settings : List (String × Value)) (steps : List Step)
    (raising : Option String) :
    (answer (.within settings steps raising)).run s =
      match Config.ofSettings settings with
      | .error fault => (.error fault, s)
      | .ok config =>
        let under : Session := { s with config }
        (.ok (.within config (under.told steps) raising s.config), { under.after steps with config := s.config }) := by
  rw [answer, run_bind, run_liftExcept]
  cases Config.ofSettings settings <;> rfl

/-- Numbers too long to be told are too long in a result too. -/
theorem KeptAnswer.ofAnswer {answer answer' : Except Fault Answer} (h : KeptAnswer answer answer')
    (env : Option Environment) : ∃ told told', Reply.ofAnswer answer env = .mk told env ∧
      Reply.ofAnswer answer' env = .mk told' env ∧ KeptAnswer told told' := by
  cases h with
  | @returned tokens r succeeds =>
    have hwritable : (Answer.result r).isWritable = (Answer.tokens tokens).isWritable :=
      congrArg (fun ts : List Token => ts.all (·.isWritable)) succeeds.tokens_eq
    refine ⟨_, _, rfl, rfl, ?_⟩
    rw [hwritable]
    split
    · exact .returned succeeds
    · exact .raised (by simp)
  | @kept u r fails =>
    have hwritable : (Answer.result r).isWritable = true :=
      congrArg (fun ts : List Token => ts.all (·.isWritable)) fails.tokens_eq
    refine ⟨_, _, rfl, rfl, ?_⟩
    rw [if_pos hwritable]
    exact .kept fails
  | raised other => exact ⟨_, _, rfl, rfl, .raised other⟩

theorem reply_call (s : Session) (on text : String) (label : Option String) :
    RepliesAlike (.lex on text label) (.tryLex on text label) ((reply (.lex on text label)).run s).1
        ((reply (.tryLex on text label)).run s).1 ∧
      ((reply (.tryLex on text label)).run s).2 = ((reply (.lex on text label)).run s).2 := by
  obtain ⟨hanswer, hsession⟩ := kept_answer s on text label
  have hshown : ∀ succeeded, (Step.tryLex on text label).shown succeeded = some on ∧
      (Step.lex on text label).shown succeeded = some on := fun _ => ⟨rfl, rfl⟩
  simp only [run_reply, hsession, hshown]
  obtain ⟨told, told', htold, htold', hkept⟩ :=
    hanswer.ofAnswer (((answer (.lex on text label)).run s).2.environmentIn on)
  rw [Option.bind_some, htold, htold']
  exact ⟨.call _ _ _ _ hkept, trivial⟩

mutual

theorem reply_relaxes {step step' : Step} (h : Relaxes step step') (s : Session) :
    RepliesAlike step step' ((reply step).run s).1 ((reply step').run s).1 ∧
      ((reply step').run s).2 = ((reply step).run s).2 := by
  cases h with
  | same => exact ⟨.same _ _, rfl⟩
  | call on text label => exact reply_call s on text label
  | @within settings raising steps steps' inner =>
    rw [run_reply, run_reply, run_within, run_within]
    cases Config.ofSettings settings with
    | error fault => exact ⟨.refused _ _ _ _ _, rfl⟩
    | ok config =>
      obtain ⟨hreplies, hafter⟩ := told_relaxes inner { s with config }
      dsimp only
      rw [hafter]
      exact ⟨.within _ _ _ _ _ hreplies, rfl⟩

theorem told_relaxes {steps steps' : List Step} (h : RelaxesAll steps steps') (s : Session) :
    AllRepliesAlike steps steps' (s.told steps) (s.told steps') ∧ s.after steps' = s.after steps := by
  cases h with
  | nil =>
    rw [told_nil]
    exact ⟨.nil, rfl⟩
  | @cons step step' steps steps' first rest =>
    obtain ⟨hreply, hsession⟩ := reply_relaxes first s
    rw [told_cons, told_cons, after_cons, after_cons, hsession]
    obtain ⟨hreplies, hafter⟩ := told_relaxes rest ((reply step).run s).2
    exact ⟨.cons hreply hreplies, hafter⟩

end

/-- A step that stays is answered as before, whatever became of those before it. -/
theorem told_of_same {steps steps' : List Step} (h : RelaxesAll steps steps') (s : Session) {i : Nat}
    (hsame : steps'[i]? = steps[i]?) : (s.told steps')[i]? = (s.told steps)[i]? := by
  induction steps generalizing steps' s i with
  | nil =>
    cases h
    rfl
  | cons step steps ih =>
    cases h with
    | @cons _ step' _ steps' first rest =>
      rw [told_cons, told_cons, (reply_relaxes first s).2]
      cases i with
      | zero =>
        obtain rfl : step' = step := Option.some.inj hsame
        rfl
      | succ i => exact ih rest _ hsame

/-- A call that keeps unmatched input returns what the call that raises it would, or holds what that would
raise, or raises what is not of that kind; either leaves the same session. So calls of the one sort may stand
in the place of the other anywhere among steps: the session comes out the same, and so do all replies but
theirs. -/
theorem keeping_simulates_raising (s : Session) :
    (∀ on text label,
      let lexed := (answer (.lex on text label)).run s
      let tried := (answer (.tryLex on text label)).run s
      KeptAnswer lexed.1 tried.1 ∧ tried.2 = lexed.2) ∧
    ∀ steps steps', RelaxesAll steps steps' →
      AllRepliesAlike steps steps' (s.told steps) (s.told steps') ∧ s.after steps' = s.after steps ∧
        ∀ i : Nat, steps'[i]? = steps[i]? → (s.told steps')[i]? = (s.told steps)[i]? := by
  refine ⟨kept_answer s, fun steps steps' h => ?_⟩
  obtain ⟨hreplies, hafter⟩ := told_relaxes h s
  exact ⟨hreplies, hafter, fun i => told_of_same h s⟩

/-- Of the calls, the first meets an action that raises, the second text that no rule matches, and the third
neither. -/
def raisingSteps : List Step :=
  [.lex "x" "a" none, .within [("trace_matches", .bool true)] [.lex "x" "?" none, .lex "x" "" none] none,
    .lex "x" "" none]

def keepingSteps : List Step :=
  [.tryLex "x" "a" none, .within [("trace_matches", .bool true)] [.tryLex "x" "?" none, .lex "x" "" none] none,
    .lex "x" "" none]

theorem raisingSteps_relaxes : RelaxesAll raisingSteps keepingSteps :=
  .cons (.call _ _ _) (.cons (.within _ _ (.cons (.call _ _ _) (.cons (.same _) .nil))) (.cons (.same _) .nil))

theorem keeping_simulates_raising_reporting :
    RelaxesAll raisingSteps keepingSteps ∧
      reportingSession.after keepingSteps = reportingSession.after raisingSteps ∧
      (reportingSession.told keepingSteps)[2]? = (reportingSession.told raisingSteps)[2]? := by
  obtain ⟨_, hafter, hsame⟩ :=
    (keeping_simulates_raising reportingSession).2 raisingSteps keepingSteps raisingSteps_relaxes
  exact ⟨raisingSteps_relaxes, hafter, hsame 2 rfl⟩

end Session

end Lexing
