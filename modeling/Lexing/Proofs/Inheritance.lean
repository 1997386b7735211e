import Lexing.Proofs.StackDiscipline
import Lexing.Proofs.TypeBodies

/-! What a kind takes over from the kinds it extends, and what it does not. Policy, start state and kind of
environment come from the nearest kind that sets them. Rules are those of its own body alone, and a definition
handed to one kind is no other's. -/
namespace Lexing

open Session

/-- What one kind of a chain says for itself. -/
structure Link where
  name : String
  declarations : List Declaration
  settings : TypeSettings

/-- All it says can be meant. What is declared does not matter next to a definition of its own. -/
structure Link.Valid (link : Link) : Prop where
  declares : link.settings.definition = none → ∃ d, Definition.empty.declareAll link.declarations = .ok d
  policy : ∀ choice, link.settings.policy = some choice → ∃ p, choice.resolve = .ok p

/-- The kind at the end of a chain, each kind of which extends the one before it. The base comes before all. -/
def LexerType.descend (links : List Link) : Except Fault LexerType :=
  links.foldlM (fun parent link => parent.extend link.name link.declarations link.settings) .base

/-- What is set by the last of the kinds that set it. -/
def nearest {α : Type} (setting : TypeSettings → Option α) (links : List Link) : Option α :=
  (links.filterMap fun link => setting link.settings).getLast?

/-- Where no kind of a chain sets anything, the base decides. -/
def policyOver (links : List Link) : PolicyChoice := (nearest (·.policy) links).getD (.policy .longest)

def startOver (links : List Link) : String := (nearest (·.start) links).getD defaultState

def environmentOver (links : List Link) : EnvironmentChoice :=
  (nearest (·.environment) links).getD (.kind .plain)

section

variable {α : Type} (setting : TypeSettings → Option α)

theorem nearest_concat (links : List Link) (link : Link) :
    nearest setting (links ++ [link]) = (setting link.settings).or (nearest setting links) := by
  unfold nearest
  rw [List.filterMap_append, List.getLast?_append]
  cases h : setting link.settings <;> simp [h]

/-- A setting that a kind does not make falls back on what stands for the kinds before it. -/
theorem nearest_concat_getD (links : List Link) (link : Link) (default : α) :
    (nearest setting (links ++ [link])).getD default =
      (setting link.settings).getD ((nearest setting links).getD default) := by
  rw [nearest_concat]
  cases setting link.settings <;> rfl

theorem exists_of_nearest {links : List Link} {v : α} (h : nearest setting links = some v) :
    ∃ link ∈ links, setting link.settings = some v :=
  List.mem_filterMap.mp (List.mem_of_getLast? h)

/-- Nothing but the setting itself counts. -/
theorem nearest_congr {links others : List Link}
    (h : others.map (setting ·.settings) = links.map (setting ·.settings)) :
    nearest setting others = nearest setting links := by
  have hfilter : ∀ chain : List Link,
      (chain.filterMap fun link => setting link.settings) = (chain.map (setting ·.settings)).filterMap id := by
    intro chain
    rw [List.filterMap_map]
    rfl
  rw [nearest, nearest, hfilter, hfilter, h]

end

namespace LexerType

theorem define_eq_ok {declarations : List Declaration} {policy : PolicyChoice} {start : String} {d : Definition} :
    define declarations policy start = .ok d ↔
      ∃ declared p, Definition.empty.declareAll declarations = .ok declared ∧ policy.resolve = .ok p ∧
        d = ⟨declared.table, p, start⟩ := by
  unfold define Definition.withPolicy
  constructor
  · intro h
    obtain ⟨declared, hdeclared, h⟩ := exists_of_bind_ok h
    obtain ⟨chosen, hchosen, h⟩ := exists_of_bind_ok h
    obtain ⟨p, hp, hchosen⟩ := exists_of_bind_ok hchosen
    cases hchosen
    cases h
    exact ⟨declared, p, hdeclared, hp, rfl⟩
  · rintro ⟨declared, p, hdeclared, hp, rfl⟩
    rw [hdeclared, hp]
    rfl

theorem extend_eq_ok {parent type : LexerType} {name : String} {declarations : List Declaration}
    {settings : TypeSettings} (h : parent.extend name declarations settings = .ok type) :
    type.policy = settings.policy.getD parent.policy ∧ type.start = settings.start.getD parent.start ∧
      type.environment = settings.environment.getD parent.environment ∧
      definitionFor parent declarations settings = .ok type.definition := by
  rw [extend_eq] at h
  cases hd : definitionFor parent declarations settings with
  | error fault =>
    rw [hd] at h
    cases h
  | ok d =>
    rw [hd] at h
    cases h
    exact ⟨rfl, rfl, rfl, rfl⟩

variable {links : List Link} {link : Link} {parent type : LexerType}

theorem descend_concat (h : descend links = .ok parent) (link : Link) :
    descend (links ++ [link]) = parent.extend link.name link.declarations link.settings := by
  rw [descend] at h ⊢
  rw [List.foldlM_append, h]
  exact bind_pure (parent.extend link.name link.declarations link.settings)

theorem exists_parent (h : descend (links ++ [link]) = .ok type) : ∃ parent, descend links = .ok parent := by
  rw [descend, List.foldlM_append] at h
  obtain ⟨parent, hparent, _⟩ := exists_of_bind_ok h
  exact ⟨parent, hparent⟩

/-- What goes on from kind to kind is what was set last. -/
theorem settings_of_descend (h : descend links = .ok type) :
    type.policy = policyOver links ∧ type.start = startOver links ∧ type.environment = environmentOver links := by
  induction links using List.reverseRecOn generalizing type with
  | nil =>
    cases h
    exact ⟨rfl, rfl, rfl⟩
  | append_singleton links link ih =>
    obtain ⟨parent, hparent⟩ := exists_parent h
    obtain ⟨hpolicy, hstart, henvironment⟩ := ih hparent
    rw [descend_concat hparent] at h
    obtain ⟨hpolicy', hstart', henvironment', _⟩ := extend_eq_ok h
    rw [hpolicy', hstart', henvironment', hpolicy, hstart, henvironment]
    exact ⟨(nearest_concat_getD _ links link _).symm, (nearest_concat_getD _ links link _).symm,
      (nearest_concat_getD _ links link _).symm⟩

/-- The definition of the kind at the end of a chain depends on the kinds before it in two settings only. -/
theorem definition_of_descend (h : descend (links ++ [link]) = .ok type) :
    (match link.settings.definition with
      | some d => .ok d
      | none => define link.declarations (policyOver (links ++ [link])) (startOver (links ++ [link]))) =
      Except.ok type.definition := by
  obtain ⟨parent, hparent⟩ := exists_parent h
  obtain ⟨hpolicy, hstart, _⟩ := settings_of_descend h
  rw [descend_concat hparent] at h
  obtain ⟨hpolicy', hstart', _, hdefinition⟩ := extend_eq_ok h
  rw [definitionFor, ← hpolicy', ← hstart', hpolicy, hstart] at hdefinition
  exact hdefinition

/-- Whatever is nearest among settings that can be meant can be meant. -/
theorem exists_resolve (valid : ∀ member ∈ links, member.Valid) : ∃ p, (policyOver links).resolve = .ok p := by
  unfold policyOver
  cases hnearest : nearest (·.policy) links with
  | none => exact ⟨.longest, rfl⟩
  | some choice =>
    obtain ⟨link, hmem, hpolicy⟩ := exists_of_nearest _ hnearest
    exact (valid link hmem).policy choice hpolicy

theorem exists_descend (valid : ∀ member ∈ links, member.Valid) : ∃ type, descend links = .ok type := by
  induction links using List.reverseRecOn with
  | nil => exact ⟨.base, rfl⟩
  | append_singleton links link ih =>
    obtain ⟨parent, hparent⟩ := ih fun member hmem => valid member (List.mem_append_left _ hmem)
    obtain ⟨d, hd⟩ : ∃ d, definitionFor parent link.declarations link.settings = .ok d := by
      unfold definitionFor
      cases hdefinition : link.settings.definition with
      | some d => exact ⟨d, rfl⟩
      | none =>
        have hlink : link.Valid := valid link (List.mem_append_right _ (List.mem_singleton_self link))
        obtain ⟨declared, hdeclared⟩ := hlink.declares hdefinition
        obtain ⟨p, hp⟩ := exists_resolve valid
        have hpolicy : link.settings.policy.getD parent.policy = policyOver (links ++ [link]) := by
          rw [(settings_of_descend hparent).1]
          exact (nearest_concat_getD _ links link _).symm
        exact ⟨_, define_eq_ok.mpr ⟨declared, p, hdeclared, hpolicy ▸ hp, rfl⟩⟩
    rw [descend_concat hparent, extend_eq, hd]
    exact ⟨_, rfl⟩

end LexerType

namespace Environment

/-- A new environment can be made of a kind unless one of the attributes it begins with cannot be put. -/
theorem exists_fresh_iff (kind : EnvironmentKind) (start : String) :
    (∃ env, fresh kind start = .ok env) ↔ ∀ entry ∈ kind.attributes, entry.1 ∉ derivedAttributes := by
  unfold fresh
  generalize bare kind.name start = first
  induction kind.attributes generalizing first with
  | nil => exact ⟨fun _ => nofun, fun _ => ⟨first, rfl⟩⟩
  | cons entry rest ih =>
    rw [List.forall_mem_cons, List.foldlM_cons]
    by_cases hderived : entry.1 ∈ derivedAttributes
    · have hput : first.put entry.1 entry.2 = .error (.noSetter first.kind entry.1) := by
        unfold put
        rw [if_pos (List.contains_iff_mem.mpr hderived)]
      dsimp only
      rw [hput]
      exact ⟨fun ⟨_, h⟩ => (by cases h), fun h => absurd hderived h.1⟩
    · obtain ⟨next, hput⟩ : ∃ next, first.put entry.1 entry.2 = .ok next := by
        unfold put
        rw [if_neg fun h => hderived (List.contains_iff_mem.mp h)]
        split
        · exact ⟨_, rfl⟩
        · exact ⟨_, rfl⟩
      dsimp only
      rw [hput]
      exact (ih next).trans ⟨fun h => ⟨hderived, h⟩, And.right⟩

end Environment

namespace Session

variable {s : Session} {spec : TypeSpec} {link : Link} {parent : LexerType}

/-- What a step says of the kind it makes, to the session it is taken in. -/
inductive TypeSpec.Describes (spec : TypeSpec) (s : Session) : Link → Prop
  | intro {body : Body} {own : TypeSettings} {definition : Option Definition}
      (runs : Body.ofItems s.declaredIn s.nextDeclared spec.body = .ok body) (sets : body.settings = .ok own)
      (prebuilt : spec.Prebuilt s definition) :
      Describes spec s ⟨spec.name, body.declarations, (spec.settings definition).orElse own⟩

/-- A step makes the kind that extends the one it names by what the step says, if there is such a kind. -/
theorem TypeSpec.Describes.makes (describes : spec.Describes s link)
    (hparent : s.objects.lookup spec.parent = some (.type parent)) :
    let extended := parent.extend link.name link.declarations link.settings
    s.told [.type spec] = [.mk (extended.map fun type => .definition type.definition) none] ∧
      ∀ type, extended = .ok type → (s.after [.type spec]).objects.lookup spec.name = some (.type type) := by
  obtain ⟨runs, sets, prebuilt⟩ := describes
  exact told_type runs prebuilt sets hparent

/-- Kinds that come from the base by steps, each of a session that knows the kind before by some name. What else
is done in the sessions makes no difference. -/
inductive Lineage : List Link → LexerType → Prop
  | base : Lineage [] .base
  | step {links : List Link} {link : Link} {parent type : LexerType} {s : Session} {spec : TypeSpec} {answer : Answer}
      (before : Lineage links parent) (known : s.objects.lookup spec.parent = some (.type parent))
      (describes : spec.Describes s link) (told : s.told [.type spec] = [.mk (.ok answer) none])
      (stored : (s.after [.type spec]).objects.lookup spec.name = some (.type type)) :
      Lineage (links ++ [link]) type

theorem Lineage.descend_eq {links : List Link} {type : LexerType} (h : Lineage links type) :
    LexerType.descend links = .ok type := by
  induction h with
  | base => rfl
  | @step links link parent type s spec answer _ known describes told stored ih =>
    obtain ⟨htold, hstored⟩ := describes.makes known
    rw [LexerType.descend_concat ih]
    cases hextended : parent.extend link.name link.declarations link.settings with
    | error fault =>
      rw [hextended, told] at htold
      cases htold
    | ok made =>
      have hlookup := hstored made hextended
      rw [stored] at hlookup
      cases hlookup
      rfl

/-- What a step that makes a kind does to the objects of a session, whatever it says. -/
inductive StoresAtMost (s : Session) (spec : TypeSpec) : Prop
  | made (type : LexerType) (told : s.told [.type spec] = [.mk (.ok (.definition type.definition)) none])
      (objects : ∀ name, (s.after [.type spec]).objects.lookup name =
        if name = spec.name then some (.type type) else s.objects.lookup name)
  | refused (fault : Fault) (told : s.told [.type spec] = [.mk (.error fault) none])
      (objects : (s.after [.type spec]).objects = s.objects)

/-- Work that stores a kind by the name of the kind, or nothing if it fails. -/
def Stores (spec : TypeSpec) (work : Work LexerType) (s : Session) : Prop :=
  ∃ t : Session, t.objects = s.objects ∧
    ((∃ fault, work.run s = (.error fault, t)) ∨
      ∃ type, work.run s = (.ok type, t.store spec.name (.type type)))

theorem stores_finish (spec : TypeSpec) (body : Body) (definition : Option Definition) (s : Session) :
    Stores spec (spec.finish body definition) s := by
  rcases run_findType_cases s spec.parent with ⟨parent, hparent⟩ | ⟨fault, hfault⟩
  · cases hsettings : body.settings with
    | error fault =>
      refine ⟨s, rfl, .inl ⟨fault, ?_⟩⟩
      unfold TypeSpec.finish
      rw [run_bind, run_findType hparent]
      dsimp only
      rw [run_bind, run_liftExcept, hsettings]
    | ok own =>
      rw [Stores, run_finish hsettings hparent]
      cases parent.extend spec.name body.declarations ((spec.settings definition).orElse own) with
      | error fault => exact ⟨s, rfl, .inl ⟨fault, rfl⟩⟩
      | ok type => exact ⟨{ s with log := s.log ++ [type.record] }, rfl, .inr ⟨type, rfl⟩⟩
  · refine ⟨s, rfl, .inl ⟨fault, ?_⟩⟩
    unfold TypeSpec.finish
    rw [run_bind, hfault]

theorem run_handed_cases (spec : TypeSpec) (s : Session) :
    (∃ definition, spec.handed.run s = (.ok definition, s)) ∨ ∃ fault, spec.handed.run s = (.error fault, s) := by
  unfold TypeSpec.handed
  cases spec.definition with
  | none => exact .inl ⟨none, rfl⟩
  | some name =>
    dsimp only
    rw [← bind_pure_comp, run_return, run_findDefinition]
    cases s.definitionIn name with
    | none => exact .inr ⟨.unknownName name, rfl⟩
    | some d => exact .inl ⟨some d, rfl⟩

theorem stores_makeType (spec : TypeSpec) (s : Session) : Stores spec (makeType spec) s := by
  rw [Stores, run_makeType]
  cases hbody : Body.ofItems s.declaredIn s.nextDeclared spec.body with
  | error fault => exact ⟨s, rfl, .inl ⟨fault, rfl⟩⟩
  | ok body =>
    let t : Session := { s with nextDeclared := body.next }
    dsimp only
    rw [run_bind]
    rcases run_handed_cases spec t with ⟨definition, hhanded⟩ | ⟨fault, hhanded⟩
    · rw [hhanded]
      exact stores_finish spec body definition t
    · rw [hhanded]
      exact ⟨t, rfl, .inl ⟨fault, rfl⟩⟩

theorem storesAtMost (s : Session) (spec : TypeSpec) : StoresAtMost s spec := by
  obtain ⟨t, hobjects, hrun⟩ := stores_makeType spec s
  rcases hrun with ⟨fault, hrun⟩ | ⟨type, hrun⟩
  · refine .refused fault ?_ ?_
    · rw [told_cons, told_nil, run_reply_type, hrun]
      rfl
    · rw [after_cons, after_nil, run_reply_type, hrun]
      exact hobjects
  · refine .made type ?_ ?_
    · rw [told_cons, told_nil, run_reply_type, hrun]
      rfl
    · intro name
      rw [after_cons, after_nil, run_reply_type, hrun, lookup_store, hobjects]

end Session

/-- What the last kind of a chain is left with. -/
structure Inherits (links : List Link) (link : Link) (type : LexerType) : Prop where
  handed : ∀ d, link.settings.definition = some d → type.definition = d
  /-- Rules are those of its own body. -/
  table : link.settings.definition = none →
    (Definition.empty.declareAll link.declarations).map (·.table) = .ok type.definition.table
  bare : link.settings.definition = none → link.declarations = [] → type.definition.table = .empty
  policy : link.settings.definition = none → (policyOver (links ++ [link])).resolve = .ok type.definition.policy
  start : link.settings.definition = none → type.definition.start = startOver (links ++ [link])
  /-- Environments are of the nearest kind, and in the start state of the definition. -/
  environment : ∀ env, type.newEnvironment = .ok env → ∃ kind,
    environmentOver (links ++ [link]) = .kind kind ∧ Environment.fresh kind type.definition.start = .ok env ∧
      env.kind = kind.name ∧ env.states = [type.definition.start] ∧ env.flags = .empty
  /-- One can be made unless the kind begins with an attribute that cannot be put. -/
  makes_iff : ∀ kind, environmentOver (links ++ [link]) = .kind kind →
    ((∃ env, type.newEnvironment = .ok env) ↔ ∀ entry ∈ kind.attributes, entry.1 ∉ derivedAttributes)

section

variable {links : List Link} {link : Link} {type : LexerType}

theorem inherits_of_descend (h : LexerType.descend (links ++ [link]) = .ok type) : Inherits links link type := by
  have hdefinition := LexerType.definition_of_descend h
  obtain ⟨_, _, henvironment⟩ := LexerType.settings_of_descend h
  have hdefined : link.settings.definition = none → ∃ declared p,
      Definition.empty.declareAll link.declarations = .ok declared ∧
        (policyOver (links ++ [link])).resolve = .ok p ∧
          type.definition = ⟨declared.table, p, startOver (links ++ [link])⟩ := by
    intro hnone
    rw [hnone] at hdefinition
    exact LexerType.define_eq_ok.mp hdefinition
  constructor
  case handed =>
    intro d hd
    rw [hd] at hdefinition
    exact (Except.ok.inj hdefinition).symm
  case table =>
    intro hnone
    obtain ⟨declared, p, hdeclared, _, heq⟩ := hdefined hnone
    rw [hdeclared, heq]
    rfl
  case bare =>
    intro hnone hempty
    obtain ⟨declared, p, hdeclared, _, heq⟩ := hdefined hnone
    rw [hempty] at hdeclared
    cases hdeclared
    rw [heq]
    rfl
  case policy =>
    intro hnone
    obtain ⟨declared, p, _, hp, heq⟩ := hdefined hnone
    rw [hp, heq]
  case start =>
    intro hnone
    obtain ⟨declared, p, _, _, heq⟩ := hdefined hnone
    rw [heq]
  case environment =>
    intro env henv
    rw [LexerType.newEnvironment, henvironment] at henv
    cases hkind : environmentOver (links ++ [link]) with
    | kind kind =>
      rw [hkind] at henv
      obtain ⟨hstates, hflags, hname⟩ := Environment.fresh_eq_ok henv
      exact ⟨kind, rfl, henv, hname, hstates, hflags⟩
    | value v =>
      rw [hkind] at henv
      cases henv
  case makes_iff =>
    intro kind hkind
    rw [LexerType.newEnvironment, henvironment, hkind]
    exact Environment.exists_fresh_iff kind type.definition.start

/-- Of the kinds before it, the definition of a kind depends on what they set for policy and start. -/
theorem definition_eq_of_descend {others : List Link} {sibling : LexerType}
    (h : LexerType.descend (links ++ [link]) = .ok type)
    (hsibling : LexerType.descend (others ++ [link]) = .ok sibling)
    (policies : others.map (·.settings.policy) = links.map (·.settings.policy))
    (starts : others.map (·.settings.start) = links.map (·.settings.start)) :
    sibling.definition = type.definition := by
  have hpolicy : policyOver (others ++ [link]) = policyOver (links ++ [link]) := by
    rw [policyOver, policyOver, nearest_concat, nearest_concat, nearest_congr (·.policy) policies]
  have hstart : startOver (others ++ [link]) = startOver (links ++ [link]) := by
    rw [startOver, startOver, nearest_concat, nearest_concat, nearest_congr (·.start) starts]
  have hdefinition := LexerType.definition_of_descend hsibling
  rw [hpolicy, hstart, LexerType.definition_of_descend h] at hdefinition
  exact (Except.ok.inj hdefinition).symm

end

/-- In every chain of kinds that can be meant each kind can be made. It has the definition that is handed to it,
or else rules of its own with the policy and the start state that are nearest in the chain, and environments of
the nearest kind. It makes no difference what the kinds before it declare or are handed. However the kinds are
made in sessions, they come to this, and no kind that is made or fails to be made changes another. -/
theorem kinds_inherit_settings (links : List Link) (link : Link)
    (valid : ∀ member ∈ links ++ [link], member.Valid) :
    (∀ s spec, StoresAtMost s spec) ∧
    ∃ parent type, LexerType.descend links = .ok parent ∧ LexerType.descend (links ++ [link]) = .ok type ∧
      Inherits links link type ∧
      (∀ others : List Link, (∀ member ∈ others, member.Valid) →
        others.map (·.settings.policy) = links.map (·.settings.policy) →
        others.map (·.settings.start) = links.map (·.settings.start) →
        ∃ sibling, LexerType.descend (others ++ [link]) = .ok sibling ∧ sibling.definition = type.definition) ∧
      (∀ made, Lineage (links ++ [link]) made → made = type) ∧
      ∀ (s : Session) (spec : TypeSpec), s.objects.lookup spec.parent = some (.type parent) →
        spec.Describes s link →
        s.told [.type spec] = [.mk (.ok (.definition type.definition)) none] ∧
          (s.after [.type spec]).objects.lookup spec.name = some (.type type) := by
  refine ⟨storesAtMost, ?_⟩
  obtain ⟨type, htype⟩ := LexerType.exists_descend valid
  obtain ⟨parent, hparent⟩ := LexerType.exists_parent htype
  refine ⟨parent, type, hparent, htype, inherits_of_descend htype, ?_, ?_, ?_⟩
  · intro others hothers policies starts
    have hlink : link.Valid := valid link (List.mem_append_right _ (List.mem_singleton_self link))
    have hmembers : ∀ member ∈ others ++ [link], member.Valid := by
      intro member hmem
      rcases List.mem_append.mp hmem with hmem | hmem
      · exact hothers member hmem
      · exact List.mem_singleton.mp hmem ▸ hlink
    obtain ⟨sibling, hsibling⟩ := LexerType.exists_descend hmembers
    exact ⟨sibling, hsibling, definition_eq_of_descend htype hsibling policies starts⟩
  · intro made hmade
    exact Except.ok.inj (hmade.descend_eq.symm.trans htype)
  · intro s spec hknown describes
    obtain ⟨htold, hstored⟩ := describes.makes hknown
    rw [LexerType.descend_concat hparent] at htype
    rw [htype] at htold
    exact ⟨htold, hstored type htype⟩

/-- Handed a definition, next to settings, and to a rule that could not be declared. -/
def preset : TypeSpec where
  name := "Preset"
  parent := "Lexer"
  body := [.rule "_" { pattern := .text "(" }, .value "match_type" (.str "first")]
  policy := none
  start := some "begin"
  definition := some "Calculator"
  environmentKind := none

/-- Extends it by a rule and a kind of environment. -/
def counting : TypeSpec where
  name := "Counting"
  parent := "Preset"
  body := [.rule "a" { pattern := .text "a" }]
  policy := none
  start := none
  definition := none
  environmentKind := some ⟨"Counter", [("count", .int 0)]⟩

/-- Extends that and sets nothing. -/
def resting : TypeSpec := { counting with name := "Resting", parent := "Counting", body := [], environmentKind := none }

def presetLink : Link :=
  ⟨"Preset", [⟨.text "(", defaultState, [], .absent⟩],
    { policy := some (.value (.str "first")), start := some "begin", definition := some Calculator.lexer.definition }⟩

def countingLink : Link :=
  ⟨"Counting", [⟨.text "a", defaultState, [], .absent⟩],
    { environment := some (.kind ⟨"Counter", [("count", .int 0)]⟩) }⟩

def restingLink : Link := ⟨"Resting", [], {}⟩

/-- Two below a kind that is handed a definition, and with nothing of its own. -/
theorem kinds_inherit_settings_resting :
    ∃ type : LexerType, (initial.after [.type preset, .type counting]).told [.type resting] =
        [.mk (.ok (.definition type.definition)) none] ∧
      type.definition = ⟨.empty, .first, "begin"⟩ ∧
      ∃ env, type.newEnvironment = .ok env ∧ env.kind = "Counter" ∧ env.states = ["begin"] := by
  have hpreset : presetLink.Valid := by
    refine ⟨nofun, ?_⟩
    rintro _ ⟨⟩
    exact ⟨.first, rfl⟩
  have hcounting : countingLink.Valid := ⟨fun _ => ⟨_, rfl⟩, nofun⟩
  have hresting : restingLink.Valid := ⟨fun _ => ⟨.empty, rfl⟩, nofun⟩
  have hfound : initial.definitionIn "Calculator" = some Calculator.lexer.definition := rfl
  have hdescribes : preset.Describes initial presetLink :=
    (.intro rfl rfl (.some rfl hfound) : preset.Describes initial ⟨_, _, _⟩)
  have hdescribes' : ∀ s : Session, counting.Describes s countingLink := fun s =>
    (.intro rfl rfl (.none rfl) : counting.Describes s ⟨_, _, _⟩)
  have hdescribes'' : ∀ s : Session, resting.Describes s restingLink := fun s =>
    (.intro rfl rfl (.none rfl) : resting.Describes s ⟨_, _, _⟩)
  obtain ⟨_, base, first, hbase, hfirst, _, _, _, hsteps⟩ :=
    kinds_inherit_settings [] presetLink (List.forall_mem_singleton.mpr hpreset)
  cases hbase
  obtain ⟨_, hstored⟩ := hsteps initial preset rfl hdescribes
  obtain ⟨_, parent, second, hparent, hsecond, _, _, _, hsteps'⟩ :=
    kinds_inherit_settings [presetLink] countingLink (by
      simp only [List.cons_append, List.nil_append, List.forall_mem_cons]
      exact ⟨hpreset, hcounting, nofun⟩)
  cases hfirst.symm.trans hparent
  obtain ⟨_, hstored'⟩ := hsteps' _ counting hstored (hdescribes' _)
  obtain ⟨_, parent', third, hparent', _, hinherits, _, _, hsteps''⟩ :=
    kinds_inherit_settings [presetLink, countingLink] restingLink (by
      simp only [List.cons_append, List.nil_append, List.forall_mem_cons]
      exact ⟨hpreset, hcounting, hresting, nofun⟩)
  cases hsecond.symm.trans hparent'
  obtain ⟨htold, _⟩ := hsteps'' _ resting hstored' (hdescribes'' _)
  rw [← after_append] at htold
  have htable : third.definition.table = .empty := hinherits.bare rfl rfl
  have hpolicy : Policy.first = third.definition.policy := Except.ok.inj (hinherits.policy rfl)
  have hstart : third.definition.start = "begin" := hinherits.start rfl
  obtain ⟨env, henv⟩ := (hinherits.makes_iff ⟨"Counter", [("count", .int 0)]⟩ rfl).mpr (by decide)
  obtain ⟨kind, hkind, _, hname, hstates, _⟩ := hinherits.environment env henv
  have hcounter : EnvironmentChoice.kind ⟨"Counter", [("count", .int 0)]⟩ = .kind kind := hkind
  cases hcounter
  refine ⟨third, htold, ?_, env, henv, hname, hstart ▸ hstates⟩
  rw [← htable, hpolicy, ← hstart]

end Lexing
