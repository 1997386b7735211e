import Lexing.Proofs.SessionLexing

/-! Steps that lex. All they do to a session is to change environments that are there, to log, and to store
scanners, so a relation between sessions that allows these changes holds from before each such step to after
it. -/
namespace Lexing.Session

/-- The step lexes, or readies a pass over a source. -/
def Step.lexes : Step → Bool
  | .lex .. | .tryLex .. | .tokenize .. | .scan .. | .scanner .. | .resume _ | .tokenizeFile .. | .lexFile .. => true
  | _ => false

/-- Each session is related to the one that the work leaves, also where it fails. -/
def Leads {α : Type} (R : Session → Session → Prop) (work : Work α) : Prop :=
  ∀ s : Session, R s (work.run s).2

/-- What lexing may change makes no difference to the relation. -/
structure AllowsLexing (R : Session → Session → Prop) : Prop where
  refl : ∀ s, R s s
  trans : ∀ {s t u}, R s t → R t u → R s u
  environment : ∀ (s : Session) key env, R s { s with environments := s.environments.set! key env }
  log : ∀ (s : Session) records, R s { s with log := s.log ++ records }
  scanner : ∀ (s : Session) name scanner key, R s (s.store name (.scanner scanner key))

namespace AllowsLexing

variable {α β : Type} {R : Session → Session → Prop}

protected theorem pure (h : AllowsLexing R) (a : α) : Leads R (pure a) := fun s => h.refl s

protected theorem throw (h : AllowsLexing R) (fault : Fault) : Leads R (throw fault : Work α) :=
  fun s => h.refl s

protected theorem get (h : AllowsLexing R) : Leads R get := fun s => h.refl s

protected theorem liftExcept (h : AllowsLexing R) (result : Except Fault α) :
    Leads R (liftExcept result : Work α) := by
  intro s
  rw [run_liftExcept]
  exact h.refl s

protected theorem bind (h : AllowsLexing R) {work : Work α} {next : α → Work β} (hwork : Leads R work)
    (hnext : ∀ a, Leads R (next a)) : Leads R (work >>= next) := by
  intro s
  have hfirst := hwork s
  rw [run_bind]
  generalize work.run s = worked at hfirst
  rcases worked with ⟨fault | a, t⟩
  · exact hfirst
  · exact h.trans hfirst (hnext a t)

protected theorem find (h : AllowsLexing R) (name : String) : Leads R (find name) := by
  refine h.bind h.get fun s => ?_
  split
  · exact h.pure _
  · exact h.throw _

protected theorem findBuilder (h : AllowsLexing R) (name : String) : Leads R (findBuilder name) := by
  refine h.bind (h.find name) fun object => ?_
  split
  · exact h.pure _
  · exact h.throw _

protected theorem findType (h : AllowsLexing R) (name : String) : Leads R (findType name) := by
  refine h.bind (h.find name) fun object => ?_
  split
  · exact h.pure _
  · exact h.throw _

protected theorem findDefinition (h : AllowsLexing R) (name : String) : Leads R (findDefinition name) := by
  refine h.bind (h.find name) fun object => ?_
  split
  · exact h.pure _
  · exact h.pure _
  · exact h.throw _

protected theorem findLexer (h : AllowsLexing R) (name : String) : Leads R (findLexer name) := by
  refine h.bind (h.find name) fun object => ?_
  split
  · exact h.pure _
  · exact h.throw _

protected theorem findKey (h : AllowsLexing R) (name : String) : Leads R (findKey name) := by
  refine h.bind h.get fun s => ?_
  split
  · exact h.pure _
  · exact h.throw _

protected theorem environmentAt (h : AllowsLexing R) (key : Nat) : Leads R (environmentAt key) := by
  refine h.bind h.get fun s => ?_
  split
  · exact h.pure _
  · exact h.throw _

protected theorem readFile (h : AllowsLexing R) (path : PathName) : Leads R (readFile path) := by
  refine h.bind h.get fun s => ?_
  split
  · exact h.pure _
  · exact h.throw _

protected theorem setEnvironment (h : AllowsLexing R) (key : Nat) (env : Environment) :
    Leads R (setEnvironment key env) :=
  fun s => h.environment s key env

protected theorem write (h : AllowsLexing R) (records : List Record) : Leads R (write records) :=
  fun s => h.log s records

protected theorem put (h : AllowsLexing R) (name : String) (scanner : Scanner) (key : Nat) :
    Leads R (put name (.scanner scanner key)) :=
  fun s => h.scanner s name scanner key

protected theorem lexAt (h : AllowsLexing R) (key : Nat) (d : Definition) (source : String)
    (label : Option String) : Leads R (lexAt key d source label) :=
  h.bind (h.environmentAt key) fun _ => h.bind h.get fun _ => h.bind (h.setEnvironment _ _) fun _ =>
    h.bind (h.write _) fun _ => h.liftExcept _

protected theorem lexFresh (h : AllowsLexing R) (env : Environment) (d : Definition) (source : String)
    (label : Option String) : Leads R (lexFresh env d source label) :=
  h.bind h.get fun _ => h.bind (h.write _) fun _ => h.liftExcept _

protected theorem lexIn (h : AllowsLexing R) (environment : Option String) (make : Except Fault Environment)
    (d : Definition) (source : String) (label : Option String) :
    Leads R (lexIn environment make d source label) := by
  cases environment with
  | some name => exact h.bind (h.findKey name) fun key => h.lexAt key d source label
  | none => exact h.bind (h.liftExcept make) fun env => h.lexFresh env d source label

protected theorem resume (h : AllowsLexing R) (name : String) : Leads R (resume name) := by
  refine h.bind (h.find name) fun object => ?_
  split
  · exact h.bind (h.environmentAt _) fun _ => h.bind (h.setEnvironment _ _) fun _ =>
      h.bind (h.write _) fun _ => h.bind (h.put _ _ _) fun _ => h.bind (h.liftExcept _) fun _ => h.pure _
  · exact h.throw _

/-- A step that lexes keeps to the relation, whether it is answered or fails. -/
theorem leads_answer (h : AllowsLexing R) {step : Step} (hlexes : step.lexes = true) : Leads R (answer step) := by
  cases step with
  | lex =>
    rw [answer]
    exact h.bind (h.findLexer _) fun _ => h.bind (h.lexAt _ _ _ _) fun _ => h.pure _
  | tryLex on text label =>
    rw [answer]
    refine h.bind (h.findLexer _) fun found => h.bind (fun s => ?_) fun _ =>
      h.bind (h.liftExcept _) fun _ => h.pure _
    rw [run_liftM]
    exact h.lexAt found.2 found.1.definition text label s
  | tokenize =>
    rw [answer]
    exact h.bind (h.findType _) fun _ => h.bind (h.lexIn _ _ _ _ _) fun _ => h.pure _
  | scan =>
    rw [answer]
    exact h.bind (h.findDefinition _) fun _ => h.bind (h.lexIn _ _ _ _ _) fun _ => h.pure _
  | scanner =>
    rw [answer]
    exact h.bind (h.findDefinition _) fun _ => h.bind (h.findKey _) fun _ => h.bind h.get fun _ =>
      h.bind (h.put _ _ _) fun _ => h.pure _
  | resume =>
    rw [answer]
    exact h.resume _
  | tokenizeFile =>
    rw [answer]
    exact h.bind (h.findType _) fun _ => h.bind (h.readFile _) fun _ => h.bind (h.lexIn _ _ _ _ _) fun _ =>
      h.pure _
  | lexFile =>
    rw [answer]
    exact h.bind (h.findLexer _) fun _ => h.bind (h.readFile _) fun _ => h.bind (h.lexAt _ _ _ _) fun _ =>
      h.pure _
  | _ => cases hlexes

end AllowsLexing

end Lexing.Session
