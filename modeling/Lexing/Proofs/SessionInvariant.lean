import Lexing.Proofs.Bodies
import Lexing.Proofs.LexingSteps

/-! What holds of a session whatever steps it takes: lexers have environments of their own, and
declarations numbers of their own. Each piece of work keeps this, so each step does, and so do all
together. -/
namespace Lexing

namespace Session

/-- What is neither a lexer nor a declaration. -/
def Object.Free : Object → Prop
  | .lexer .. | .declaration _ => False
  | _ => True

/-- Lexers and declarations go by one name each, and what tells them apart has been given out. -/
structure Sound (s : Session) : Prop where
  lexer_lt : ∀ name t key, s.objects.lookup name = some (.lexer t key) → key < s.environments.size
  lexers_apart : ∀ a b t u key, s.objects.lookup a = some (.lexer t key) →
    s.objects.lookup b = some (.lexer u key) → a = b
  declared_lt : ∀ name d, s.objects.lookup name = some (.declaration d) → d.id < s.nextDeclared
  declared_apart : ∀ a b d e, s.objects.lookup a = some (.declaration d) →
    s.objects.lookup b = some (.declaration e) → d.id = e.id → a = b

theorem sound_initial : initial.Sound := by
  have hlookup : ∀ name object, initial.objects.lookup name = some object → ∃ t, object = .type t := by
    intro name object hname
    obtain ⟨before, after, heq, _⟩ := List.lookup_eq_some_iff.mp hname
    have hmem : (name, object) ∈ initial.objects := by
      rw [heq]
      simp
    simp only [initial, List.mem_cons, List.not_mem_nil, or_false] at hmem
    rcases hmem with hmem | hmem <;> cases hmem <;> exact ⟨_, rfl⟩
  constructor
  case lexer_lt =>
    intro name t key hname
    obtain ⟨u, heq⟩ := hlookup _ _ hname
    cases heq
  case lexers_apart =>
    intro a b t u key ha
    obtain ⟨v, heq⟩ := hlookup _ _ ha
    cases heq
  case declared_lt =>
    intro name d hname
    obtain ⟨u, heq⟩ := hlookup _ _ hname
    cases heq
  case declared_apart =>
    intro a b d e ha
    obtain ⟨u, heq⟩ := hlookup _ _ ha
    cases heq

namespace Sound

variable {s t : Session}

theorem mono (h : s.Sound) (objects : t.objects = s.objects)
    (environments : s.environments.size ≤ t.environments.size) (declared : s.nextDeclared ≤ t.nextDeclared) :
    t.Sound where
  lexer_lt name u key hname := Nat.lt_of_lt_of_le (h.lexer_lt name u key (objects ▸ hname)) environments
  lexers_apart a b u v key ha hb := h.lexers_apart a b u v key (objects ▸ ha) (objects ▸ hb)
  declared_lt name d hname := Nat.lt_of_lt_of_le (h.declared_lt name d (objects ▸ hname)) declared
  declared_apart a b d e ha hb := h.declared_apart a b d e (objects ▸ ha) (objects ▸ hb)

theorem store (h : s.Sound) {name : String} {object : Object}
    (hlexer : ∀ t key, object = .lexer t key → key < s.environments.size ∧
      ∀ other u, s.objects.lookup other = some (.lexer u key) → other = name)
    (hdeclared : ∀ d, object = .declaration d → d.id < s.nextDeclared ∧
      ∀ other e, s.objects.lookup other = some (.declaration e) → e.id = d.id → other = name) :
    (s.store name object).Sound where
  lexer_lt a t key ha := by
    rw [lookup_store] at ha
    split at ha
    · exact (hlexer t key (Option.some.inj ha)).1
    · exact h.lexer_lt a t key ha
  lexers_apart a b t u key ha hb := by
    rw [lookup_store] at ha hb
    split at ha <;> split at hb
    · next hname hname' => exact hname.trans hname'.symm
    · next hname _ => exact hname.trans ((hlexer t key (Option.some.inj ha)).2 b u hb).symm
    · next _ hname => exact ((hlexer u key (Option.some.inj hb)).2 a t ha).trans hname.symm
    · exact h.lexers_apart a b t u key ha hb
  declared_lt a d ha := by
    rw [lookup_store] at ha
    split at ha
    · exact (hdeclared d (Option.some.inj ha)).1
    · exact h.declared_lt a d ha
  declared_apart a b d e ha hb hid := by
    rw [lookup_store] at ha hb
    split at ha <;> split at hb
    · next hname hname' => exact hname.trans hname'.symm
    · next hname _ => exact hname.trans ((hdeclared d (Option.some.inj ha)).2 b e hb hid.symm).symm
    · next _ hname => exact ((hdeclared e (Option.some.inj hb)).2 a d ha hid).trans hname.symm
    · exact h.declared_apart a b d e ha hb hid

/-- Names of anything but lexers and declarations may be given freely. -/
theorem store_other (h : s.Sound) {name : String} {object : Object} (hfree : object.Free) :
    (s.store name object).Sound := by
  refine h.store ?_ ?_
  · rintro t key rfl
    exact hfree.elim
  · rintro d rfl
    exact hfree.elim

end Sound

/-- Lexing leaves names and numbers as they are, and a scanner is neither a lexer nor a declaration. -/
theorem allowsLexing_sound : AllowsLexing fun s t => s.Sound → t.Sound where
  refl _ hs := hs
  trans hst htu hs := htu (hst hs)
  environment _ _ _ hs := hs.mono rfl (by simp) (Nat.le_refl _)
  log _ _ hs := hs.mono rfl (Nat.le_refl _) (Nat.le_refl _)
  scanner _ _ _ _ hs := hs.store_other trivial

/-- Work that leaves a sound session sound, also if it fails. -/
def Keeps {α : Type} (work : Work α) : Prop := ∀ s : Session, s.Sound → (work.run s).2.Sound

section

variable {α β : Type}

theorem keeps_pure (a : α) : Keeps (pure a) := allowsLexing_sound.pure a

theorem keeps_throw (fault : Fault) : Keeps (throw fault : Work α) := allowsLexing_sound.throw fault

theorem keeps_get : Keeps get := allowsLexing_sound.get

theorem keeps_liftExcept (result : Except Fault α) : Keeps (liftExcept result : Work α) :=
  allowsLexing_sound.liftExcept result

theorem keeps_bind {work : Work α} {next : α → Work β} (h : Keeps work) (hnext : ∀ a, Keeps (next a)) :
    Keeps (work >>= next) := allowsLexing_sound.bind h hnext

theorem keeps_modify {f : Session → Session} (objects : ∀ s, (f s).objects = s.objects)
    (environments : ∀ s, s.environments.size ≤ (f s).environments.size)
    (declared : ∀ s, s.nextDeclared ≤ (f s).nextDeclared) : Keeps (modify f : Work Unit) :=
  fun s h => h.mono (objects s) (environments s) (declared s)

theorem keeps_map {work : Work α} (f : α → β) (h : Keeps work) : Keeps (f <$> work) := by
  rw [← bind_pure_comp]
  exact keeps_bind h fun a => keeps_pure (f a)

/-- Work that cannot fail of itself. -/
theorem keeps_lift {work : StateM Session α} (h : ∀ s : Session, s.Sound → (work.run s).2.Sound) :
    Keeps (liftM work) := h

theorem keeps_findBuilder (name : String) : Keeps (findBuilder name) := allowsLexing_sound.findBuilder name

theorem keeps_findType (name : String) : Keeps (findType name) := allowsLexing_sound.findType name

theorem keeps_findDefinition (name : String) : Keeps (findDefinition name) :=
  allowsLexing_sound.findDefinition name

theorem keeps_findLexer (name : String) : Keeps (findLexer name) := allowsLexing_sound.findLexer name

theorem keeps_findKey (name : String) : Keeps (findKey name) := allowsLexing_sound.findKey name

theorem keeps_environmentAt (key : Nat) : Keeps (environmentAt key) := allowsLexing_sound.environmentAt key

theorem keeps_setEnvironment (key : Nat) (env : Environment) : Keeps (setEnvironment key env) :=
  allowsLexing_sound.setEnvironment key env

theorem keeps_write (records : List Record) : Keeps (write records) := allowsLexing_sound.write records

theorem keeps_addEnvironment (env : Environment) : Keeps (addEnvironment env) :=
  keeps_bind keeps_get fun _ =>
    keeps_bind (keeps_modify (fun _ => rfl) (fun s => by simp) fun _ => Nat.le_refl _) fun _ => keeps_pure _

theorem keeps_setConfig (config : Config) : Keeps (setConfig config) :=
  keeps_modify (fun _ => rfl) (fun _ => Nat.le_refl _) fun _ => Nat.le_refl _

theorem keeps_withConfig (config : Config) {work : Work α} (h : Keeps work) : Keeps (withConfig config work) := by
  intro s hs
  have hunder : ({ s with config } : Session).Sound := hs.mono rfl (Nat.le_refl _) (Nat.le_refl _)
  rw [run_withConfig]
  exact (h _ hunder).mono rfl (Nat.le_refl _) (Nat.le_refl _)

theorem keeps_put {name : String} {object : Object} (hfree : object.Free) : Keeps (put name object) :=
  fun _ h => h.store_other hfree

theorem keeps_inEnvironment (name : String) (work : Act α) : Keeps (inEnvironment name work) :=
  keeps_bind (keeps_findKey name) fun _ => keeps_bind (keeps_environmentAt _) fun _ =>
    keeps_bind (keeps_setEnvironment _ _) fun _ => keeps_liftExcept _

theorem keeps_change (name : String) (f : Environment → Environment) : Keeps (change name f) :=
  keeps_bind (keeps_inEnvironment name _) fun _ => keeps_pure _

theorem keeps_writeFile (path : String) (bytes : List UInt8) : Keeps (writeFile path bytes) := by
  refine keeps_bind keeps_get fun s => ?_
  split
  · exact keeps_modify (fun _ => rfl) (fun _ => Nat.le_refl _) fun _ => Nat.le_refl _
  · exact keeps_throw _

theorem keeps_build (name : String) (f : Definition → Except Fault Definition) : Keeps (build name f) :=
  keeps_bind (keeps_findBuilder name) fun _ => keeps_bind (keeps_liftExcept _) fun _ =>
    keeps_bind (keeps_put trivial) fun _ => keeps_pure _

theorem keeps_performIn (name : String) (pattern : PatternSource) (text : String) (action : ActionSource) :
    Keeps (performIn name pattern text action) := by
  refine keeps_bind (keeps_liftExcept _) fun matcher => keeps_bind (keeps_liftExcept _) fun found => ?_
  split
  · split
    · exact keeps_bind (keeps_inEnvironment _ _) fun _ => keeps_pure _
    · exact keeps_bind (keeps_inEnvironment _ _) fun _ => keeps_throw _
    · exact keeps_bind (keeps_inEnvironment _ _) fun _ => keeps_throw _
  · exact keeps_throw _

/-- A declaration gets a number that none had before. -/
theorem keeps_addDeclaration (name : String) (d : Declaration) : Keeps (addDeclaration name d) := by
  intro s hs
  have hmore : ({ s with nextDeclared := s.nextDeclared + 1 } : Session).Sound :=
    hs.mono rfl (Nat.le_refl _) (Nat.le_succ _)
  refine hmore.store (fun _ _ => nofun) ?_
  rintro _ ⟨⟩
  refine ⟨Nat.lt_succ_self _, fun other e hother hid => ?_⟩
  exact absurd hid (Nat.ne_of_lt (hs.declared_lt other e hother))

/-- A lexer gets an environment that none had before. -/
theorem keeps_addLexer (name : String) (t : LexerType) (env : Environment) :
    Keeps (do
      put name (.lexer t (← addEnvironment env))
      return Answer.nothing) := by
  intro s hs
  have hmore : ({ s with environments := s.environments.push env } : Session).Sound :=
    hs.mono rfl (by simp) (Nat.le_refl _)
  refine hmore.store ?_ fun _ => nofun
  rintro _ _ ⟨⟩
  refine ⟨by simp, fun other u hother => ?_⟩
  exact absurd (hs.lexer_lt other u _ hother) (Nat.lt_irrefl _)

/-- The definition that is handed to a new kind, if one is. -/
def TypeSpec.handed (spec : TypeSpec) : Work (Option Definition) :=
  match spec.definition with
  | some name => some <$> findDefinition name
  | none => pure none

/-- What is set for a kind from outside its body. -/
def TypeSpec.settings (spec : TypeSpec) (definition : Option Definition) : TypeSettings :=
  { policy := spec.policy, start := spec.start, environment := spec.environmentKind.map .kind, definition }

/-- What is left to do for a kind once its body has run and the definition that is handed to it is known. -/
def TypeSpec.finish (spec : TypeSpec) (body : Body) (definition : Option Definition) : Work LexerType := do
  let parent ← findType spec.parent
  let own ← liftExcept body.settings
  let type ← liftExcept (parent.extend spec.name body.declarations ((spec.settings definition).orElse own))
  write [type.record]
  put spec.name (.type type)
  return type

/-- A kind is made in three parts, of which its body is the first. -/
theorem run_makeType (spec : TypeSpec) (s : Session) :
    (makeType spec).run s =
      match Body.ofItems s.declaredIn s.nextDeclared spec.body with
      | .ok body => (spec.handed >>= spec.finish body).run { s with nextDeclared := body.next }
      | .error fault => (.error fault, s) := by
  unfold makeType TypeSpec.handed
  rw [run_bind, run_get]
  dsimp only
  rw [run_bind, run_liftExcept]
  cases Body.ofItems s.declaredIn s.nextDeclared spec.body with
  | error fault => rfl
  | ok body =>
    dsimp only
    rw [run_bind, run_modify]
    cases spec.definition <;> rfl

theorem keeps_handed (spec : TypeSpec) : Keeps spec.handed := by
  unfold TypeSpec.handed
  split
  · exact keeps_map some (keeps_findDefinition _)
  · exact keeps_pure _

theorem keeps_finish (spec : TypeSpec) (body : Body) (definition : Option Definition) :
    Keeps (spec.finish body definition) :=
  keeps_bind (keeps_findType _) fun _ => keeps_bind (keeps_liftExcept _) fun _ =>
    keeps_bind (keeps_liftExcept _) fun _ => keeps_bind (keeps_write _) fun _ =>
      keeps_bind (keeps_put trivial) fun _ => keeps_pure _

theorem keeps_makeType (spec : TypeSpec) : Keeps (makeType spec) := by
  intro s hs
  rw [run_makeType]
  cases hbody : Body.ofItems s.declaredIn s.nextDeclared spec.body with
  | error fault => exact hs
  | ok body =>
    obtain ⟨assigned, runs⟩ := Body.ofItems_eq_ok.mp hbody
    have hmore : ({ s with nextDeclared := body.next } : Session).Sound :=
      hs.mono rfl (Nat.le_refl _) runs.next_le
    exact keeps_bind (keeps_handed spec) (fun definition => keeps_finish spec body definition) _ hmore

end

section Steps

variable {s : Session}

theorem sound_reply {step : Step} (h : Keeps (answer step)) (hs : s.Sound) :
    ((reply step).run s).2.Sound := by
  rw [run_reply]
  exact h s hs

mutual

/-- The induction is on steps: one that changes the settings for a while takes others within it. -/
theorem keeps_answer (step : Step) : Keeps (answer step) := by
  by_cases hlexes : step.lexes = true
  · exact allowsLexing_sound.leads_answer hlexes
  cases step <;> first | exact absurd rfl hlexes | rw [answer]
  case builder => exact keeps_bind (keeps_put trivial) fun _ => keeps_pure _
  case rule | policy | start => exact keeps_bind (keeps_build _ _) fun _ => keeps_pure _
  case build =>
    exact keeps_bind (keeps_findBuilder _) fun _ =>
      keeps_bind (keeps_put trivial) fun _ => keeps_pure _
  case definition | rulesOf | enabled => exact keeps_bind (keeps_findDefinition _) fun _ => keeps_pure _
  case declare => exact keeps_bind (keeps_liftExcept _) fun _ => keeps_addDeclaration _ _
  case decorate =>
    exact keeps_bind keeps_get fun _ => keeps_bind (keeps_liftExcept _) fun _ => keeps_addDeclaration _ _
  case declareInto =>
    exact keeps_bind keeps_get fun _ => keeps_bind (keeps_liftExcept _) fun _ =>
      keeps_bind (keeps_build _ _) fun _ => keeps_pure _
  case type => exact keeps_bind (keeps_makeType _) fun _ => keeps_pure _
  case environment =>
    exact keeps_bind (keeps_addEnvironment _) fun _ =>
      keeps_bind (keeps_put trivial) fun _ => keeps_pure _
  case newEnvironment =>
    exact keeps_bind (keeps_findType _) fun _ => keeps_bind (keeps_liftExcept _) fun _ =>
      keeps_bind (keeps_addEnvironment _) fun _ =>
        keeps_bind (keeps_put trivial) fun _ => keeps_pure _
  case environmentOf =>
    exact keeps_bind (keeps_findLexer _) fun _ =>
      keeps_bind (keeps_put trivial) fun _ => keeps_pure _
  case showEnvironment =>
    exact keeps_bind (keeps_findKey _) fun _ => keeps_bind (keeps_environmentAt _) fun _ => keeps_pure _
  case push | setState | setFlag | unsetFlag | clearFlags => exact keeps_change _ _
  case pop => exact keeps_bind (keeps_inEnvironment _ _) fun _ => keeps_pure _
  case perform => exact keeps_performIn _ _ _ _
  case lexer =>
    exact keeps_bind (keeps_findType _) fun _ => keeps_bind (keeps_liftExcept _) fun _ => keeps_addLexer _ _ _
  case writeFile => exact keeps_bind (keeps_writeFile _ _) fun _ => keeps_pure _
  case showConfig => exact keeps_bind keeps_get fun _ => keeps_pure _
  case setConfig =>
    exact keeps_bind (keeps_liftExcept _) fun _ => keeps_bind (keeps_setConfig _) fun _ =>
      keeps_bind keeps_get fun _ => keeps_pure _
  case resetConfig => exact keeps_bind (keeps_setConfig _) fun _ => keeps_bind keeps_get fun _ => keeps_pure _
  case makeConfig =>
    split
    · exact keeps_bind (keeps_setConfig _) fun _ => keeps_bind keeps_get fun _ => keeps_pure _
    · exact keeps_bind keeps_get fun _ => keeps_pure _
  case within settings steps raising =>
    exact keeps_bind (keeps_liftExcept _) fun _ =>
      keeps_bind (keeps_withConfig _ (keeps_lift (sound_replyAll steps))) fun _ =>
        keeps_bind keeps_get fun _ => keeps_pure _
  case takeLog =>
    exact keeps_bind keeps_get fun _ =>
      keeps_bind (keeps_modify (fun _ => rfl) (fun _ => Nat.le_refl _) fun _ => Nat.le_refl _) fun _ =>
        keeps_pure _
  case refused => exact keeps_throw _

theorem sound_replyAll (steps : List Step) (s : Session) (hs : s.Sound) :
    ((replyAll steps).run s).2.Sound := by
  cases steps with
  | nil =>
    rw [replyAll]
    exact hs
  | cons step rest =>
    rw [replyAll]
    exact sound_replyAll rest _ (sound_reply (keeps_answer step) hs)

end

end Steps

/-- Whatever steps are taken from a new session on. -/
theorem sound_after (history : List Step) : (initial.after history).Sound :=
  sound_replyAll history initial sound_initial

end Session

end Lexing
