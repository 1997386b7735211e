import Lexing.Proofs.Resuming

/-! What lexing does to the session it is done in. It reads the settings and one environment, and leaves
all but that environment and the log as they are. -/
namespace Lexing.Session

variable {s : Session} {name : String} {key : Nat} {env : Environment}

theorem run_get (s : Session) : (get : Work Session).run s = (.ok s, s) := rfl

theorem run_liftExcept {α : Type} (result : Except Fault α) (s : Session) :
    (liftExcept result : Work α).run s = (result, s) := by
  cases result <;> rfl

theorem run_modify (f : Session → Session) (s : Session) :
    (modify f : Work Unit).run s = (.ok (), f s) := rfl

theorem run_return {α β : Type} (work : Work α) (f : α → β) (s : Session) :
    (do return f (← work) : Work β).run s = ((work.run s).1.map f, (work.run s).2) := by
  rw [run_bind]
  rcases work.run s with ⟨fault | a, t⟩ <;> rfl

/-- Work whose fault is taken for a result. -/
theorem run_liftM {α : Type} (work : Work α) (s : Session) :
    (liftM work.run : Work (Except Fault α)).run s = (.ok (work.run s).1, (work.run s).2) := rfl

theorem run_write (records : List Record) (s : Session) :
    (write records).run s = (.ok (), { s with log := s.log ++ records }) := rfl

/-- What is done in the end is done after a fault too, and the fault goes on as it is. -/
theorem run_finally {α : Type} (work : Work α) (f : Session → Session) (s : Session) :
    (tryFinally work (modify f : Work Unit)).run s = ((work.run s).1, f (work.run s).2) := by
  simp only [tryFinally, tryFinally', ExceptT.run_map]
  simp only [ExceptT.run, ExceptT.mk, bind, StateT.bind, Functor.map, StateT.map]
  rcases work s with ⟨fault | a, t⟩ <;> rfl

/-- Under other settings work has the outcome it has there, and the settings are those before. -/
theorem run_withConfig {α : Type} (config : Config) (work : Work α) (s : Session) :
    let worked := work.run { s with config }
    (withConfig config work).run s = (worked.1, { worked.2 with config := s.config }) := by
  unfold withConfig
  rw [run_bind, run_get]
  exact run_finally work ({ · with config := s.config }) { s with config }

theorem run_setEnvironment (key : Nat) (env : Environment) (s : Session) :
    (setEnvironment key env).run s =
      (.ok (), { s with environments := s.environments.set! key env }) := rfl

theorem run_findType {t : LexerType} (h : s.objects.lookup name = some (.type t)) :
    (findType name).run s = (.ok t, s) := by
  unfold findType
  rw [run_bind, run_find, h]
  rfl

theorem run_findLexer {t : LexerType} (h : s.objects.lookup name = some (.lexer t key)) :
    (findLexer name).run s = (.ok (t, key), s) := by
  unfold findLexer
  rw [run_bind, run_find, h]
  rfl

theorem run_findType_cases (s : Session) (name : String) :
    (∃ t, s.objects.lookup name = some (.type t)) ∨ ∃ fault, (findType name).run s = (.error fault, s) := by
  unfold findType
  rw [run_bind, run_find]
  cases hobject : s.objects.lookup name with
  | none => exact .inr ⟨_, rfl⟩
  | some object =>
    cases object with
    | type t => exact .inl ⟨t, rfl⟩
    | builder | definition | declaration | environment | lexer | scanner => exact .inr ⟨_, rfl⟩

theorem run_findLexer_cases (s : Session) (name : String) :
    (∃ t key, s.objects.lookup name = some (.lexer t key)) ∨
      (findLexer name).run s = (.error (.unknownName name), s) := by
  unfold findLexer
  rw [run_bind, run_find]
  cases hobject : s.objects.lookup name with
  | none => exact .inr rfl
  | some object =>
    cases object with
    | lexer t key => exact .inl ⟨t, key, rfl⟩
    | builder | definition | declaration | environment | type | scanner => exact .inr rfl

theorem run_findKey_of_none (h : s.keyIn name = none) :
    (findKey name).run s = (.error (.unknownName name), s) := by
  unfold findKey
  rw [run_bind, run_get]
  dsimp only
  rw [h]
  rfl

theorem run_findKey (h : s.keyIn name = some key) : (findKey name).run s = (.ok key, s) := by
  unfold findKey
  rw [run_bind, run_get]
  dsimp only
  rw [h]
  rfl

theorem keyIn_of_lexer {t : LexerType} (h : s.objects.lookup name = some (.lexer t key)) :
    s.keyIn name = some key := by
  rw [keyIn, h]

theorem getElem?_set {envs : Array Environment} (h : envs[key]? = some env) (next : Environment) :
    (envs.set! key next)[key]? = some next := by
  have hlt : key < envs.size := (Array.getElem?_eq_some_iff.mp h).1
  simp [hlt]

/-- What is put in the place of an environment is found under the names of that environment. -/
theorem environmentIn_eq {next : Environment} {t : Session} (hkey : s.keyIn name = some key)
    (henv : s.environments[key]? = some env) (hobjects : t.objects = s.objects)
    (henvs : t.environments = s.environments.set! key next) : t.environmentIn name = some next := by
  have hkey' : t.keyIn name = some key := by
    rw [← hkey, keyIn, keyIn, hobjects]
  rw [environmentIn, hkey', henvs]
  exact getElem?_set henv next

/-- Work in an environment changes that environment, whether it fails or not. -/
theorem run_inEnvironment {α : Type} (hkey : s.keyIn name = some key)
    (henv : s.environments[key]? = some env) (work : Act α) :
    let worked := work.run env
    (inEnvironment name work).run s =
      (worked.1.mapError worked.2.readFault,
        { s with environments := s.environments.set! key worked.2 }) := by
  intro worked
  unfold inEnvironment
  simp only [run_bind, run_findKey hkey, run_environmentAt henv]
  change (setEnvironment key worked.2 >>= fun _ => liftExcept (worked.1.mapError worked.2.readFault)).run s = _
  rw [run_bind, run_setEnvironment]
  exact run_liftExcept _ _

/-- The session with one more environment. -/
def grown (s : Session) (env : Environment) : Session := { s with environments := s.environments.push env }

theorem run_lexer {type : String} {t : LexerType} (hobject : s.objects.lookup type = some (.type t)) (name : String) :
    (answer (.lexer type name)).run s =
      match t.newEnvironment with
      | .ok env => (.ok .nothing, (s.grown env).store name (.lexer t s.environments.size))
      | .error fault => (.error fault, s) := by
  rw [answer, run_bind, run_findType hobject]
  dsimp only
  rw [run_bind, run_liftExcept]
  cases t.newEnvironment <;> rfl

/-- The session with what lexing in an environment has left there, and with what it has logged. -/
def keep (s : Session) (key : Nat) (lexed : Lexed) : Session :=
  { s with environments := s.environments.set! key lexed.environment, log := s.log ++ lexed.log }

theorem run_lexAt (h : s.environments[key]? = some env) (d : Definition) (source : String)
    (label : Option String) :
    let lexed := d.lex source env label s.config.traces
    (lexAt key d source label).run s = (lexed.answer, s.keep key lexed) := by
  intro lexed
  unfold lexAt
  simp only [run_bind, run_environmentAt h, run_get, run_setEnvironment, run_write, run_liftExcept]
  cases (d.lex source env label s.config.traces).answer <;> rfl

theorem run_lexAt_of_none (h : s.environments[key]? = none) (d : Definition) (source : String)
    (label : Option String) : (lexAt key d source label).run s = (.error (.unknownName ""), s) := by
  unfold lexAt environmentAt
  rw [run_bind, run_bind, run_get]
  dsimp only
  rw [h]
  rfl

/-- Lexing in an environment of its own leaves the environments of the session alone. -/
theorem run_lexFresh (s : Session) (env : Environment) (d : Definition) (source : String)
    (label : Option String) :
    let lexed := d.lex source env label s.config.traces
    (lexFresh env d source label).run s = (lexed.answer, { s with log := s.log ++ lexed.log }) := by
  intro lexed
  unfold lexFresh
  simp only [run_bind, run_get, run_write, run_liftExcept]
  cases (d.lex source env label s.config.traces).answer <;> rfl

end Lexing.Session
