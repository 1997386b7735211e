import Lexing.Proofs.LexingSteps

/-! Settings under programs that put some in force, lex, and open blocks with settings of their own. What is
in force at a point depends on the innermost open block alone: on what was put in force directly in it, or
else on what it was given. However a block is left, those from before it hold again. -/
namespace Lexing.Session

theorem allowsLexing_config : AllowsLexing fun s t => t.config = s.config where
  refl _ := rfl
  trans hst htu := htu.trans hst
  environment _ _ _ := rfl
  log _ _ := rfl
  scanner _ _ _ _ := rfl

/-! ## Programs -/

inductive Instruction where
  /-- Puts settings in force. -/
  | set (config : Config)
  /-- Puts the usual settings in force. -/
  | reset
  | call (step : Step) (lexes : step.lexes = true)
  | raise (fault : Fault)
  /-- A block with settings of its own. -/
  | within (config : Config) (body : List Instruction)
  /-- Goes on with the handler if the body raises a fault. -/
  | attempt (body handler : List Instruction)

mutual

def exec : Instruction → Work Unit
  | .set config => setConfig config
  | .reset => setConfig .initial
  | .call step _ => do
    let _ ← answer step
  | .raise fault => throw fault
  | .within config body => withConfig config (execAll body)
  | .attempt body handler => tryCatch (execAll body) fun _ => execAll handler

def execAll : List Instruction → Work Unit
  | [] => return
  | instruction :: rest => do
    exec instruction
    execAll rest

end

mutual

/-- The settings that are put in force directly, in order: not those in a block within. -/
def puts (s : Session) : Instruction → List Config
  | .set config => [config]
  | .reset => [.initial]
  | .call .. | .raise _ | .within .. => []
  | .attempt body handler =>
    putsAll s body ++
      match (execAll body).run s with
      | (.ok _, _) => []
      | (.error _, t) => putsAll t handler

def putsAll (s : Session) : List Instruction → List Config
  | [] => []
  | instruction :: rest =>
    puts s instruction ++
      match (exec instruction).run s with
      | (.ok _, t) => putsAll t rest
      | (.error _, _) => []

end

/-- An open block: what it was given, and what has been put in force directly in it since. -/
structure Block where
  given : Config
  since : List Config

namespace Block

def inForce (b : Block) : Config := b.since.getLast?.getD b.given

/-- The block after more has been put in force. -/
def after (b : Block) (more : List Config) : Block := { b with since := b.since ++ more }

@[simp] theorem after_nil (b : Block) : b.after [] = b := by simp [after]

theorem after_after (b : Block) (first rest : List Config) :
    (b.after first).after rest = b.after (first ++ rest) := by
  simp [after]

@[simp] theorem inForce_after_singleton (b : Block) (config : Config) : (b.after [config]).inForce = config := by
  simp [after, inForce]

end Block

/-- The points that a run comes to. Say that `b` is the innermost open block and that the program is about to
run from `s`; then the run comes to a point where `here` is the innermost open block, and `t` the session. -/
inductive Visits : Block → List Instruction → Session → Block → Session → Prop
  | here {b : Block} {program : List Instruction} {s : Session} : Visits b program s b s
  /-- The first instruction has come to its end. -/
  | past {b here : Block} {first : Instruction} {program : List Instruction} {s t u : Session}
      (ran : (exec first).run s = (.ok (), t)) (rest : Visits (b.after (puts s first)) program t here u) :
      Visits b (first :: program) s here u
  /-- The first instruction has raised a fault, which is about to leave the block. -/
  | raised {b : Block} {first : Instruction} {program : List Instruction} {s t : Session} {fault : Fault}
      (ran : (exec first).run s = (.error fault, t)) : Visits b (first :: program) s (b.after (puts s first)) t
  | inside {b here : Block} {config : Config} {body program : List Instruction} {s t : Session}
      (inner : Visits ⟨config, []⟩ body { s with config } here t) :
      Visits b (.within config body :: program) s here t
  | attempting {b here : Block} {body handler program : List Instruction} {s t : Session}
      (inner : Visits b body s here t) : Visits b (.attempt body handler :: program) s here t
  | handling {b here : Block} {body handler program : List Instruction} {s t u : Session} {fault : Fault}
      (ran : (execAll body).run s = (.error fault, t))
      (inner : Visits (b.after (putsAll s body)) handler t here u) :
      Visits b (.attempt body handler :: program) s here u

/-- The fault comes out of the program: some instruction in it raises the fault, in as many blocks as may be,
and no handler stands in between. -/
inductive Raises : List Instruction → Session → Fault → Prop
  | call {step : Step} {lexes : step.lexes = true} {program : List Instruction} {s : Session} {fault : Fault}
      (fails : ((answer step).run s).1 = .error fault) : Raises (.call step lexes :: program) s fault
  | raise {program : List Instruction} {s : Session} {fault : Fault} : Raises (.raise fault :: program) s fault
  | inside {config : Config} {body program : List Instruction} {s : Session} {fault : Fault}
      (inner : Raises body { s with config } fault) : Raises (.within config body :: program) s fault
  | handling {body handler program : List Instruction} {s t : Session} {caught fault : Fault}
      (ran : (execAll body).run s = (.error caught, t)) (inner : Raises handler t fault) :
      Raises (.attempt body handler :: program) s fault
  | past {first : Instruction} {program : List Instruction} {s t : Session} {fault : Fault}
      (ran : (exec first).run s = (.ok (), t)) (rest : Raises program t fault) : Raises (first :: program) s fault

/-! ## What is in force -/

theorem run_set (config : Config) (s : Session) : (exec (.set config)).run s = (.ok (), { s with config }) := by
  rw [exec]
  rfl

theorem run_reset (s : Session) : (exec .reset).run s = (.ok (), { s with config := .initial }) := by
  rw [exec]
  rfl

theorem run_raise (fault : Fault) (s : Session) : (exec (.raise fault)).run s = (.error fault, s) := by
  rw [exec]
  rfl

theorem run_call (step : Step) (lexes : step.lexes = true) (s : Session) :
    (exec (.call step lexes)).run s = (((answer step).run s).1.map fun _ => (), ((answer step).run s).2) := by
  rw [exec]
  exact run_return (answer step) (fun _ => ()) s

/-- However the body comes out, the block comes out so, under the settings from before. -/
theorem run_block (config : Config) (body : List Instruction) (s : Session) :
    let inside := (execAll body).run { s with config }
    (exec (.within config body)).run s = (inside.1, { inside.2 with config := s.config }) := by
  rw [exec]
  exact run_withConfig config (execAll body) s

mutual

/-- The induction is on the program, with any block around it. -/
theorem config_exec (instruction : Instruction) (b : Block) (s : Session) (hs : s.config = b.inForce) :
    ((exec instruction).run s).2.config = (b.after (puts s instruction)).inForce := by
  cases instruction with
  | set config => rw [run_set, puts, Block.inForce_after_singleton]
  | reset => rw [run_reset, puts, Block.inForce_after_singleton]
  | raise fault => rw [run_raise, puts, Block.after_nil, hs]
  | within config body => rw [run_block, puts, Block.after_nil, hs]
  | call step lexes =>
    rw [run_call, puts, Block.after_nil, ← hs]
    exact allowsLexing_config.leads_answer lexes s
  | attempt body handler =>
    have hbody := config_execAll body b s hs
    rw [exec, run_tryCatch, puts]
    rcases hran : (execAll body).run s with ⟨fault | _, t⟩
    · rw [hran] at hbody
      rw [← Block.after_after]
      exact config_execAll handler (b.after (putsAll s body)) t hbody
    · rw [hran] at hbody
      rw [List.append_nil]
      exact hbody

theorem config_execAll (program : List Instruction) (b : Block) (s : Session) (hs : s.config = b.inForce) :
    ((execAll program).run s).2.config = (b.after (putsAll s program)).inForce := by
  cases program with
  | nil =>
    rw [execAll, putsAll, Block.after_nil, ← hs]
    rfl
  | cons first program =>
    have hfirst := config_exec first b s hs
    rw [execAll, run_bind, putsAll]
    rcases hran : (exec first).run s with ⟨fault | _, t⟩
    · rw [hran] at hfirst
      rw [List.append_nil]
      exact hfirst
    · rw [hran] at hfirst
      rw [← Block.after_after]
      exact config_execAll program (b.after (puts s first)) t hfirst

end

/-- What holds at a point on the way there holds at the point. -/
theorem Visits.config_eq {b here : Block} {program : List Instruction} {s t : Session}
    (h : Visits b program s here t) (hs : s.config = b.inForce) : t.config = here.inForce := by
  induction h with
  | here => exact hs
  | @past b _ first _ s t _ ran _ ih =>
    have hfirst := config_exec first b s hs
    rw [ran] at hfirst
    exact ih hfirst
  | @raised b first _ s t _ ran =>
    have hfirst := config_exec first b s hs
    rw [ran] at hfirst
    exact hfirst
  | inside _ ih => exact ih rfl
  | attempting _ ih => exact ih hs
  | @handling b _ body _ _ s t _ _ ran _ ih =>
    have hbody := config_execAll body b s hs
    rw [ran] at hbody
    exact ih hbody

/-- The end of the run, by a fault or without one, is a point that it comes to. -/
theorem visits_end (program : List Instruction) (b : Block) (s : Session) :
    Visits b program s (b.after (putsAll s program)) ((execAll program).run s).2 := by
  induction program generalizing b s with
  | nil =>
    rw [putsAll, Block.after_nil, execAll]
    exact .here
  | cons first program ih =>
    rw [execAll, run_bind, putsAll]
    rcases hran : (exec first).run s with ⟨fault | _, t⟩
    · rw [List.append_nil]
      exact .raised hran
    · rw [← Block.after_after]
      exact .past hran (ih _ t)

/-! ## What is raised -/

theorem run_lex_unknown {name text : String} {label : Option String} {s : Session}
    (h : s.objects.lookup name = none) : (answer (.lex name text label)).run s = (.error (.unknownName name), s) := by
  rw [answer, run_bind, findLexer, run_bind, run_find, h]

namespace Raises

variable {first : Instruction} {program : List Instruction} {s : Session} {fault : Fault}

theorem execAll_eq_error (h : ((exec first).run s).1 = .error fault) :
    ((execAll (first :: program)).run s).1 = .error fault := by
  rw [execAll, run_bind]
  generalize (exec first).run s = ran at h
  obtain ⟨result, t⟩ := ran
  cases h
  rfl

theorem run_eq (h : Raises program s fault) : ((execAll program).run s).1 = .error fault := by
  induction h with
  | call fails =>
    refine execAll_eq_error ?_
    rw [run_call, fails]
    rfl
  | raise =>
    refine execAll_eq_error ?_
    rw [run_raise]
  | inside _ ih =>
    refine execAll_eq_error ?_
    rw [run_block]
    exact ih
  | handling ran _ ih =>
    refine execAll_eq_error ?_
    rw [exec, run_tryCatch, ran]
    exact ih
  | past ran _ ih =>
    rw [execAll, run_bind, ran]
    exact ih

mutual

theorem of_exec (first : Instruction) (program : List Instruction) {s : Session} {fault : Fault}
    (h : ((exec first).run s).1 = .error fault) : Raises (first :: program) s fault := by
  cases first with
  | set config =>
    rw [run_set] at h
    cases h
  | reset =>
    rw [run_reset] at h
    cases h
  | call step lexes =>
    rw [run_call] at h
    refine .call ?_
    generalize (answer step).run s = answered at h ⊢
    obtain ⟨result | fault, t⟩ := answered <;> cases h
    rfl
  | raise =>
    rw [run_raise] at h
    cases h
    exact .raise
  | within config body =>
    rw [run_block] at h
    exact .inside (of_execAll body h)
  | attempt body handler =>
    rw [exec, run_tryCatch] at h
    rcases hran : (execAll body).run s with ⟨caught | _, t⟩
    · rw [hran] at h
      exact .handling hran (of_execAll handler h)
    · rw [hran] at h
      cases h

/-- What comes out was raised by some instruction. -/
theorem of_execAll (program : List Instruction) {s : Session} {fault : Fault}
    (h : ((execAll program).run s).1 = .error fault) : Raises program s fault := by
  cases program with
  | nil =>
    rw [execAll] at h
    cases h
  | cons first program =>
    rcases hran : (exec first).run s with ⟨other | _, t⟩
    · have herror : ((exec first).run s).1 = .error other := by rw [hran]
      cases h.symm.trans (execAll_eq_error herror)
      exact of_exec first program herror
    · rw [execAll, run_bind, hran] at h
      exact .past hran (of_execAll program h)

end

end Raises

/-! ## Blocks -/

/-- What is put in force in a block is not put in force around it. -/
theorem putsAll_within (config : Config) (body : List Instruction) (s : Session) :
    putsAll s [.within config body] = [] := by
  rw [putsAll, puts, List.nil_append]
  split
  · rw [putsAll]
  · rfl

/-- The block that a step opens ends like any other. -/
theorem config_answer_within (settings : List (String × Value)) (steps : List Step) (raising : Option String)
    (s : Session) :
    ((answer (.within settings steps raising)).run s).2.config = s.config := by
  rw [answer, run_bind, run_liftExcept]
  cases Config.ofSettings settings with
  | error fault => rfl
  | ok config =>
    show ((do
      let replies ← withConfig config (liftM (replyAll steps))
      return Answer.within config replies raising (← get).config : Work Answer).run s).2.config = s.config
    rw [run_bind, run_withConfig]
    generalize ExceptT.run (liftM (replyAll steps) : Work (List Reply)) { s with config } = inside
    obtain ⟨fault | replies, t⟩ := inside <;> rfl

/-- What is in force wherever a program comes to: what was last put in force directly in the innermost open
block, or what that was given. At the end of a block, also by a fault, that from before holds again; a fault
comes out as it was raised; and no step that lexes makes a difference. -/
theorem settings_are_scoped :
    initial.config = .initial ∧
    (∀ program s here t, Visits ⟨s.config, []⟩ program s here t →
      t.config = here.inForce ∧ (answer .showConfig).run t = (.ok (.config here.inForce), t)) ∧
    (∀ program s,
      Visits ⟨s.config, []⟩ program s ⟨s.config, putsAll s program⟩ ((execAll program).run s).2) ∧
    (∀ config body s, let inside := (execAll body).run { s with config }
      (exec (.within config body)).run s = (inside.1, { inside.2 with config := s.config })) ∧
    (∀ settings steps raising s, ((answer (.within settings steps raising)).run s).2.config = s.config) ∧
    (∀ program s fault, ((execAll program).run s).1 = .error fault ↔ Raises program s fault) ∧
    ∀ step s, step.lexes = true → ((answer step).run s).2.config = s.config := by
  refine ⟨rfl, fun program s here t visits => ?_, fun program s => ?_, run_block, config_answer_within,
    fun program s fault => ⟨Raises.of_execAll program, Raises.run_eq⟩,
    fun step s lexes => allowsLexing_config.leads_answer lexes s⟩
  · have hconfig : t.config = here.inForce := visits.config_eq rfl
    refine ⟨hconfig, ?_⟩
    rw [answer, ← hconfig]
    rfl
  · have hend := visits_end program ⟨s.config, []⟩ s
    rwa [Block.after, List.nil_append] at hend

/-- A fault out of two blocks, to a handler: in the inner one, and in the handler. -/
theorem settings_in_and_after_blocks :
    let traced : Config := ⟨.str "utf-8", .bool true⟩
    let greek : Config := ⟨.str "iso8859-7", .bool false⟩
    let lexing : Instruction := .call (.lex "lexer" "1" none) rfl
    let inner : Instruction := .within traced [.set greek, lexing, .set traced]
    let outer : Instruction := .within greek [.reset, inner]
    let program : List Instruction := [.set traced, .attempt [outer] [.reset, .set greek], .reset]
    (∃ t, Visits ⟨.initial, []⟩ program initial ⟨traced, [greek]⟩ t ∧ t.config = greek) ∧
    (∃ t, Visits ⟨.initial, []⟩ program initial ⟨.initial, [traced]⟩ t ∧ t.config = traced) ∧
    ((execAll [outer]).run initial).1 = .error (.unknownName "lexer") ∧
    ((answer (.lex "lexer" "1" none)).run initial).2.config = .initial := by
  intro traced greek lexing inner outer program
  have hfault (config : Config) : Raises [outer] { initial with config } (.unknownName "lexer") :=
    .inside (.past rfl (.inside (.past rfl (.call (congrArg Prod.fst (run_lex_unknown rfl))))))
  have hinner : Visits ⟨.initial, []⟩ program initial ⟨traced, [greek]⟩ { initial with config := greek } :=
    .past rfl (.attempting (.inside (.past rfl (.inside (.past rfl .here)))))
  have hhandler : Visits ⟨.initial, []⟩ program initial ⟨.initial, [traced]⟩
      ((execAll [outer]).run { initial with config := traced }).2 := by
    refine .past rfl (.handling (Prod.ext (hfault traced).run_eq rfl) ?_)
    rw [putsAll_within]
    exact .here
  exact ⟨⟨_, hinner, (settings_are_scoped.2.1 program initial _ _ hinner).1⟩,
    ⟨_, hhandler, (settings_are_scoped.2.1 program initial _ _ hhandler).1⟩,
    (settings_are_scoped.2.2.2.2.2.1 [outer] initial _).mpr (hfault .initial),
    settings_are_scoped.2.2.2.2.2.2 _ initial rfl⟩

end Lexing.Session
