import Lexing.Proofs.Builder
import Lexing.Proofs.SessionInvariant
import Mathlib.Data.List.Forall2

/-! A kind that declares its rules in its body has the definition that a builder makes of the same
declarations, each declared once and in the order in which they were first assigned, and fails as the builder
does. -/
namespace Lexing

open Session

/-- The fault that is told, if one is. -/
def Session.Reply.fault? : Reply → Option Fault
  | .mk (.error fault) _ => some fault
  | .mk (.ok _) _ => none

/-- The fault that is told first. -/
def firstFault (replies : List Reply) : Option Fault := replies.findSome? (·.fault?)

theorem firstFault_append (replies more : List Reply) :
    firstFault (replies ++ more) = (firstFault replies).or (firstFault more) :=
  List.findSome?_append

namespace Declaration

/-- Flags as they are given, and one by one: a text is one flag, anything else is gone through. -/
inductive GivesFlags : Value → List Value → Prop
  | one (flag : String) : GivesFlags (.str flag) [.str flag]
  | each {flags : Value} {items : List Value} (several : ∀ flag, flags ≠ .str flag)
      (items_eq : flags.items = .ok items) : GivesFlags flags items

/-- What is given for a rule comes to the declaration. -/
structure Spells (given : RuleSpec) (d : Declaration) : Prop where
  pattern : given.pattern = d.pattern
  state : given.state = d.state
  action : given.action = d.action
  flags : GivesFlags given.flags d.flags

variable {given : RuleSpec} {d : Declaration}

theorem declare_eq_ok : declare given = .ok d ↔ Spells given d := by
  constructor
  · intro h
    unfold declare at h
    split at h
    · next flag heq =>
      cases h
      exact ⟨rfl, rfl, rfl, heq ▸ .one flag⟩
    · next hseveral =>
      obtain ⟨items, hitems, h⟩ := exists_of_bind_ok h
      cases h
      exact ⟨rfl, rfl, rfl, .each hseveral hitems⟩
  · rintro ⟨hpattern, hstate, haction, hflags⟩
    obtain ⟨pattern, state, flags, action⟩ := given
    obtain ⟨_, _, items, _⟩ := d
    cases hpattern
    cases hstate
    cases haction
    cases hflags with
    | one => rfl
    | each several items_eq =>
      unfold declare
      dsimp only
      split
      · next flag => exact absurd rfl (several flag)
      · rw [items_eq]
        rfl

theorem spells_spec (d : Declaration) : Spells d.spec d :=
  ⟨rfl, rfl, rfl, .each nofun rfl⟩

/-- Another action is another action of what is given. -/
theorem Spells.withAction (h : Spells given d) (action : ActionSource) :
    Spells { given with action } (d.withAction action) :=
  ⟨h.pattern, h.state, rfl, h.flags⟩

theorem Spells.create_eq (h : Spells given d) : Rule.create given = Rule.create d.spec := by
  obtain ⟨hpattern, hstate, haction, hflags⟩ := h
  have hset : FlagSet.ofValue given.flags = FlagSet.ofValue (.tuple d.flags) := by
    generalize given.flags = flags at hflags
    generalize d.flags = items at hflags
    cases hflags with
    | one flag => rfl
    | each several items_eq =>
      unfold FlagSet.ofValue
      split
      · next flag => exact absurd rfl (several flag)
      · rw [items_eq]
        rfl
  unfold Rule.create
  rw [hpattern, haction, hstate, hset]
  rfl

theorem declareAll_of_spells {specs : List RuleSpec} {declarations : List Declaration}
    (h : List.Forall₂ Spells specs declarations) (d : Definition) :
    specs.foldlM (fun d given => d.rule given) d = d.declareAll declarations := by
  induction h generalizing d with
  | nil => rfl
  | @cons given declaration specs declarations spells _ ih =>
    have hrule : d.rule given = d.rule declaration.spec := by
      rw [Definition.rule, spells.create_eq]
      rfl
    rw [Definition.declareAll, List.foldlM_cons, List.foldlM_cons, hrule]
    cases d.rule declaration.spec with
    | error fault => rfl
    | ok next => exact ih next

end Declaration

namespace BuilderCall

variable {on : String}

/-- What calls make of an empty builder, as long as none fails. -/
def makes (calls : List (BuilderCall on)) : Except Fault Definition :=
  calls.foldlM (fun d call => call.change d) .empty

theorem makes_concat (calls : List (BuilderCall on)) (call : BuilderCall on) :
    makes (calls ++ [call]) = makes calls >>= call.change := by
  rw [makes, List.foldlM_append]
  simp only [List.foldlM_cons, List.foldlM_nil, bind_pure]
  rfl

theorem told_concat (s : Session) (calls : List (BuilderCall on)) (call : BuilderCall on) :
    s.told (steps (calls ++ [call])) = s.told (steps calls) ++
      [match call.change (made calls) with
        | .ok changed => .mk (.ok (call.answer changed)) none
        | .error fault => .mk (.error fault) none] := by
  rw [steps_append, told_append, List.map_singleton, told_cons, told_nil, run_reply_step (lookup_builder s calls)]
  cases call.change (made calls) <;> rfl

/-- The first of several calls to fail tells why they cannot all succeed. -/
theorem firstFault_told (s : Session) (calls : List (BuilderCall on)) :
    match makes calls with
    | .ok d => firstFault (s.told (steps calls)) = none ∧ made calls = d
    | .error fault => firstFault (s.told (steps calls)) = some fault := by
  induction calls using List.reverseRecOn with
  | nil =>
    refine ⟨?_, rfl⟩
    rw [steps, List.map_nil, told_cons, told_nil, run_reply_builder]
    rfl
  | append_singleton calls call ih =>
    rw [makes_concat, told_concat, made_concat, firstFault_append]
    cases hmakes : makes calls with
    | error fault =>
      have hfault : firstFault (s.told (steps calls)) = some fault := by
        rwa [hmakes] at ih
      rw [hfault]
      rfl
    | ok d =>
      obtain ⟨hnone, hmade⟩ : firstFault (s.told (steps calls)) = none ∧ made calls = d := by
        rwa [hmakes] at ih
      have hbind : (Except.ok d >>= call.change) = call.change d := rfl
      rw [hbind, hnone, hmade]
      cases call.change d with
      | error fault => rfl
      | ok changed => exact ⟨rfl, rfl⟩

/-- Calls that declare rules one after the other, and then choose a policy and a start state. -/
def declaring (on : String) (specs : List RuleSpec) (policy : PolicyChoice) (start : String) :
    List (BuilderCall on) :=
  specs.map .rule ++ [.matchPolicy policy, .start start]

theorem makes_declaring {specs : List RuleSpec} {declarations : List Declaration}
    (h : List.Forall₂ Declaration.Spells specs declarations) (policy : PolicyChoice) (start : String) :
    makes (declaring on specs policy start) = LexerType.define declarations policy start := by
  rw [makes, declaring, List.foldlM_append, List.foldlM_map, LexerType.define, ← Declaration.declareAll_of_spells h]
  rfl

end BuilderCall

namespace Body

/-- The start state that a body is left with. -/
def start? (body : Body) : Option String :=
  match body.bindings.lookup "start_state" with
  | some (.value (.str state)) => some state
  | _ => none

/-- The policy that a body is left with. -/
def policy? (body : Body) : Option PolicyChoice := (body.bindings.lookup "match_type").map policyOf

/-- A body without a definition of its own, with settings of the right kinds. -/
structure Plain (body : Body) : Prop where
  definition : body.bindings.lookup "definition" = none
  start : ∀ binding, body.bindings.lookup "start_state" = some binding → ∃ state, binding = .value (.str state)
  environment : ∀ binding, body.bindings.lookup "environment_class" = some binding → ∃ v, binding = .value v

theorem Plain.settings_eq {body : Body} (h : body.Plain) :
    ∃ environment, body.settings = .ok { policy := body.policy?, start := body.start?, environment } := by
  have hstart : (body.bindings.lookup "start_state").mapM stateOf = .ok body.start? := by
    unfold start?
    cases hlookup : body.bindings.lookup "start_state" with
    | none => rfl
    | some binding =>
      obtain ⟨state, rfl⟩ := h.start binding hlookup
      rfl
  obtain ⟨environment, henvironment⟩ :
      ∃ environment, (body.bindings.lookup "environment_class").mapM environmentOf = .ok environment := by
    cases hlookup : body.bindings.lookup "environment_class" with
    | none => exact ⟨none, rfl⟩
    | some binding =>
      obtain ⟨v, rfl⟩ := h.environment binding hlookup
      exact ⟨some (.value v), rfl⟩
  refine ⟨environment, ?_⟩
  unfold settings
  rw [hstart, henvironment, h.definition]
  rfl

end Body

namespace LexerType

/-- The definition that is handed to a kind, or else the one that its declarations define. -/
def definitionFor (parent : LexerType) (declarations : List Declaration) (settings : TypeSettings) :
    Except Fault Definition :=
  match settings.definition with
  | some d => .ok d
  | none => define declarations (settings.policy.getD parent.policy) (settings.start.getD parent.start)

theorem extend_eq (parent : LexerType) (name : String) (declarations : List Declaration) (settings : TypeSettings) :
    parent.extend name declarations settings =
      (definitionFor parent declarations settings).map fun definition =>
        { name, definition, policy := settings.policy.getD parent.policy, start := settings.start.getD parent.start,
          environment := settings.environment.getD parent.environment } := by
  unfold extend definitionFor
  cases settings.definition with
  | some d => rfl
  | none =>
    dsimp only
    cases define declarations (settings.policy.getD parent.policy) (settings.start.getD parent.start) <;> rfl

theorem map_definition_extend (parent : LexerType) (name : String) (declarations : List Declaration)
    (settings : TypeSettings) :
    (parent.extend name declarations settings).map (·.definition) = definitionFor parent declarations settings := by
  rw [extend_eq]
  cases definitionFor parent declarations settings <;> rfl

end LexerType

namespace Session

/-- What a kind is set to by itself goes before what its body sets, and that before what it takes over. -/
def TypeSpec.policyIn (spec : TypeSpec) (body : Body) (parent : LexerType) : PolicyChoice :=
  (spec.policy.or body.policy?).getD parent.policy

def TypeSpec.startIn (spec : TypeSpec) (body : Body) (parent : LexerType) : String :=
  (spec.start.or body.start?).getD parent.start

variable {s : Session} {spec : TypeSpec} {body : Body} {parent : LexerType}

/-- The definition of that name, or of the kind of that name. -/
def definitionIn (s : Session) (name : String) : Option Definition :=
  match s.objects.lookup name with
  | some (.definition d) => some d
  | some (.type t) => some t.definition
  | _ => none

theorem run_findDefinition (s : Session) (name : String) :
    (findDefinition name).run s =
      (match s.definitionIn name with
        | some d => .ok d
        | none => .error (.unknownName name), s) := by
  unfold findDefinition definitionIn
  rw [run_bind, run_find]
  cases s.objects.lookup name with
  | none => rfl
  | some object => cases object <;> rfl

/-- The definition that is handed to a new kind, if one is. -/
inductive TypeSpec.Prebuilt (spec : TypeSpec) (s : Session) : Option Definition → Prop
  | none (nothing : spec.definition = none) : Prebuilt spec s none
  | some {name : String} {d : Definition} (named : spec.definition = some name)
      (found : s.definitionIn name = some d) : Prebuilt spec s (some d)

theorem TypeSpec.Prebuilt.of_objects {t : Session} {definition : Option Definition} (h : spec.Prebuilt s definition)
    (objects : t.objects = s.objects) : spec.Prebuilt t definition := by
  cases h with
  | none nothing => exact .none nothing
  | some named found =>
    refine .some named ?_
    rwa [definitionIn, objects]

theorem run_handed {definition : Option Definition} (h : spec.Prebuilt s definition) :
    spec.handed.run s = (.ok definition, s) := by
  unfold TypeSpec.handed
  cases h with
  | none nothing =>
    rw [nothing]
    rfl
  | some named found =>
    rw [named]
    dsimp only
    rw [← bind_pure_comp, run_return, run_findDefinition, found]
    rfl

/-- A kind is stored when it has been made, and a kind that cannot be made leaves no trace. -/
theorem run_finish {own : TypeSettings} (hsettings : body.settings = .ok own)
    (hparent : s.objects.lookup spec.parent = some (.type parent)) (definition : Option Definition) :
    (spec.finish body definition).run s =
      match parent.extend spec.name body.declarations ((spec.settings definition).orElse own) with
      | .ok type => (.ok type, { s with log := s.log ++ [type.record] }.store spec.name (.type type))
      | .error fault => (.error fault, s) := by
  unfold TypeSpec.finish
  rw [run_bind, run_findType hparent]
  dsimp only
  rw [run_bind, run_liftExcept, hsettings]
  dsimp only
  rw [run_bind, run_liftExcept]
  cases parent.extend spec.name body.declarations _ <;> rfl

/-- Of a kind that is made its definition is told. -/
theorem run_reply_type (s : Session) (spec : TypeSpec) :
    (reply (.type spec)).run s =
      (.mk (((makeType spec).run s).1.map fun type => .definition type.definition) none, ((makeType spec).run s).2) := by
  rw [run_reply, answer, run_return]
  cases ((makeType spec).run s).1 <;> rfl

/-- A step makes the kind that extends the one it names, if there can be such a kind, and stores it by its name. -/
theorem told_type (hbody : Body.ofItems s.declaredIn s.nextDeclared spec.body = .ok body)
    {definition : Option Definition} (hdefinition : spec.Prebuilt s definition) {own : TypeSettings}
    (hsettings : body.settings = .ok own) (hparent : s.objects.lookup spec.parent = some (.type parent)) :
    let extended := parent.extend spec.name body.declarations ((spec.settings definition).orElse own)
    s.told [.type spec] = [.mk (extended.map fun type => .definition type.definition) none] ∧
      ∀ type, extended = .ok type → (s.after [.type spec]).objects.lookup spec.name = some (.type type) := by
  dsimp only
  let t : Session := { s with nextDeclared := body.next }
  have hdefinition' : spec.Prebuilt t definition := hdefinition.of_objects rfl
  have hparent' : t.objects.lookup spec.parent = some (.type parent) := hparent
  have hrun : (makeType spec).run s = (spec.handed >>= spec.finish body).run t := by
    rw [run_makeType, hbody]
  rw [run_bind, run_handed hdefinition'] at hrun
  dsimp only at hrun
  rw [run_finish hsettings hparent'] at hrun
  rw [told_cons, told_nil, after_cons, after_nil, run_reply_type, hrun]
  cases parent.extend spec.name body.declarations ((spec.settings definition).orElse own) with
  | error fault => exact ⟨rfl, nofun⟩
  | ok type =>
    refine ⟨rfl, ?_⟩
    rintro _ ⟨⟩
    exact lookup_store_self _ _ _

/-- What is told of a kind without a definition of its own is what its declarations define. -/
theorem exists_made (hbody : Body.ofItems s.declaredIn s.nextDeclared spec.body = .ok body) (hplain : body.Plain)
    (hparent : s.objects.lookup spec.parent = some (.type parent)) (hdefinition : spec.definition = none) :
    ∃ made : Except Fault LexerType,
      made.map (·.definition) =
        LexerType.define body.declarations (spec.policyIn body parent) (spec.startIn body parent) ∧
      s.told [.type spec] = [.mk (made.map fun type => .definition type.definition) none] ∧
      ∀ type, made = .ok type → (s.after [.type spec]).objects.lookup spec.name = some (.type type) := by
  obtain ⟨environment, hsettings⟩ := hplain.settings_eq
  exact ⟨_, LexerType.map_definition_extend parent spec.name body.declarations _,
    told_type hbody (.none hdefinition) hsettings hparent⟩

theorem Sound.outside (h : s.Sound) : Body.Outside s.declaredIn s.nextDeclared := by
  have hlookup : ∀ name d, s.declaredIn name = .ok d → s.objects.lookup name = some (.declaration d) := by
    intro name d hd
    unfold declaredIn at hd
    split at hd
    · next hobject =>
      cases hd
      exact hobject
    · cases hd
  constructor
  case lt_first => exact fun name d hd => h.declared_lt name d (hlookup name d hd)
  case same =>
    intro a b d e hd he hid
    cases h.declared_apart a b d e (hlookup a d hd) (hlookup b e he) hid
    exact Except.ok.inj (hd.symm.trans he)

/-- What is replied to a kind's being made is what a builder's calls come to: what the last of them builds, or
the fault of the first that fails. -/
structure ComesTo (reply : Reply) (replies : List Reply) : Prop where
  builds : firstFault replies = none →
    ∃ d, replies.getLast? = some (.mk (.ok (.definition d)) none) ∧ reply = .mk (.ok (.definition d)) none
  fails : ∀ fault, firstFault replies = some fault → reply = .mk (.error fault) none

/-- A builder of any session, called with what the declarations were given. -/
theorem comesTo_declaring {specs : List RuleSpec} {declarations : List Declaration}
    (h : List.Forall₂ Declaration.Spells specs declarations) (policy : PolicyChoice) (start : String)
    (t : Session) (on name : String) (apart : name ≠ on) :
    ComesTo (.mk ((LexerType.define declarations policy start).map .definition) none)
      (t.told (BuilderCall.steps (BuilderCall.declaring on specs policy start ++ [.build name apart]))) := by
  have htold := BuilderCall.firstFault_told t (BuilderCall.declaring on specs policy start)
  rw [BuilderCall.makes_declaring h] at htold
  rw [BuilderCall.told_concat]
  cases hdefine : LexerType.define declarations policy start with
  | error fault =>
    rw [hdefine] at htold
    have hfault : firstFault (t.told (BuilderCall.steps (BuilderCall.declaring on specs policy start))) =
      some fault := htold
    constructor
    case builds =>
      intro hnone
      rw [firstFault_append, hfault] at hnone
      cases hnone
    case fails =>
      intro fault' hfault'
      rw [firstFault_append, hfault] at hfault'
      cases hfault'
      rfl
  | ok d =>
    rw [hdefine] at htold
    obtain ⟨hnone, hmade⟩ := htold
    rw [hmade]
    constructor
    case builds => exact fun _ => ⟨d, List.getLast?_concat, rfl⟩
    case fails =>
      intro fault hfault
      rw [firstFault_append, hnone] at hfault
      cases hfault

end Session

/-- Whatever a body assigns to whatever names, again and again, its kind has the definition that a builder
makes when it declares each declaration that was assigned, once and in the order of first assignments, and is
then told policy and start state of the kind. It makes no difference how flags were given. The first call that
fails tells why the kind cannot be made. -/
theorem body_comes_to_builder (history : List Step) (spec : TypeSpec) (body : Body) (parent : LexerType)
    (hbody : Body.ofItems (initial.after history).declaredIn (initial.after history).nextDeclared spec.body = .ok body)
    (hplain : body.Plain) (hdefinition : spec.definition = none)
    (hparent : (initial.after history).objects.lookup spec.parent = some (.type parent)) :
    let s := initial.after history
    (∃ assigned, Body.Runs s.declaredIn s.nextDeclared spec.body assigned body ∧
      Body.Account s.declaredIn s.nextDeclared assigned body) ∧
    (∀ given d, Declaration.declare given = .ok d ↔ Declaration.Spells given d) ∧
    (∀ given d action, Declaration.Spells given d →
      Declaration.Spells { given with action } (d.withAction action)) ∧
    List.Forall₂ Declaration.Spells (body.declarations.map (·.spec)) body.declarations ∧
    ∃ reply, s.told [.type spec] = [reply] ∧
      (∀ d, reply = .mk (.ok (.definition d)) none →
        ∃ type, (s.after [.type spec]).objects.lookup spec.name = some (.type type) ∧ type.definition = d) ∧
      ∀ specs, List.Forall₂ Declaration.Spells specs body.declarations →
      ∀ (t : Session) on name (apart : name ≠ on),
        ComesTo reply (t.told (BuilderCall.steps
          (BuilderCall.declaring on specs (spec.policyIn body parent) (spec.startIn body parent) ++
            [.build name apart]))) := by
  intro s
  obtain ⟨assigned, runs⟩ := Body.ofItems_eq_ok.mp hbody
  refine ⟨⟨assigned, runs, runs.account (sound_after history).outside⟩, fun _ _ => Declaration.declare_eq_ok,
    fun _ _ action h => h.withAction action, ?_, ?_⟩
  · exact List.forall₂_map_left_iff.mpr (List.forall₂_same.mpr fun d _ => d.spells_spec)
  obtain ⟨made, hdefine, htold, hnamed⟩ := exists_made hbody hplain hparent hdefinition
  refine ⟨_, htold, ?_, ?_⟩
  · intro d hreply
    cases made with
    | error fault => cases hreply
    | ok type =>
      cases hreply
      exact ⟨type, hnamed type rfl, rfl⟩
  · intro specs hspecs t on name apart
    have hcomes := comesTo_declaring hspecs (spec.policyIn body parent) (spec.startIn body parent) t on name apart
    rw [← hdefine] at hcomes
    cases made <;> exact hcomes

/-- A body that rebinds a name, binds equal declarations and one from outside, and decorates. -/
def rebinding : TypeSpec where
  name := "Rebinding"
  parent := "Lexer"
  body := [
    .rule "_" { pattern := .text "a", flags := .str "on" },
    .rule "_" { pattern := .text "a", flags := .tuple [.str "on"] },
    .alias "again" "_",
    .outer "blank" "blank",
    .decorate "word" "_" (.action .discard),
    .decorated "_" { pattern := .text "b", state := "inner" } (.action .discard),
    .value "match_type" (.str "first"),
    .rule "all" { pattern := .text "c", state := allStates },
    .outer "_" "blank",
    .delete "again"]
  policy := none
  start := none
  definition := none
  environmentKind := none

theorem body_comes_to_builder_rebinding :
    let history : List Step := [.declare "blank" { pattern := .text " " }]
    let s := initial.after history
    let flagged : RuleSpec := { pattern := .text "a", flags := .str "on" }
    let specs : List RuleSpec := [
      flagged, { flagged with flags := .tuple [.str "on"] }, { pattern := .text " " },
      { flagged with action := .action .discard },
      { pattern := .text "b", state := "inner", action := .action .discard },
      { pattern := .text "c", state := allStates }]
    ∃ body reply, Body.ofItems s.declaredIn s.nextDeclared rebinding.body = .ok body ∧ body.Plain ∧
      rebinding.definition = none ∧ s.objects.lookup rebinding.parent = some (.type .base) ∧
      body.declared.map (·.id) = [1, 2, 0, 3, 4, 5] ∧ List.Forall₂ Declaration.Spells specs body.declarations ∧
      s.told [.type rebinding] = [reply] ∧
      ComesTo reply (initial.told (BuilderCall.steps
        (BuilderCall.declaring "b" specs (.value (.str "first")) "default" ++ [.build "built" (by decide)]))) := by
  intro history s flagged specs
  have hs : s = { initial with nextDeclared := 1 }.store "blank"
      (.declaration ⟨0, ⟨.text " ", "default", [], .absent⟩⟩) := by
    simp only [s, history, after_cons, after_nil, run_reply, answer]
    rfl
  obtain ⟨body, hbody, hplain, hpolicy, hstart, hids, hspells⟩ : ∃ body,
      Body.ofItems s.declaredIn s.nextDeclared rebinding.body = .ok body ∧ body.Plain ∧
        rebinding.policyIn body .base = .value (.str "first") ∧ rebinding.startIn body .base = "default" ∧
        body.declared.map (·.id) = [1, 2, 0, 3, 4, 5] ∧ List.Forall₂ Declaration.Spells specs body.declarations := by
    rw [hs]
    refine ⟨_, rfl, ⟨rfl, nofun, nofun⟩, rfl, rfl, rfl, ?_⟩
    have hspells : ∀ given d, Declaration.declare given = .ok d → Declaration.Spells given d :=
      fun _ _ => Declaration.declare_eq_ok.mp
    exact .cons (hspells _ _ rfl) (.cons (hspells _ _ rfl) (.cons (hspells _ _ rfl) (.cons (hspells _ _ rfl)
      (.cons (hspells _ _ rfl) (.cons (hspells _ _ rfl) .nil)))))
  have hparent : s.objects.lookup rebinding.parent = some (.type .base) := by
    rw [hs]
    rfl
  obtain ⟨_, _, _, _, reply, htold, _, hcomes⟩ :=
    body_comes_to_builder history rebinding body .base hbody hplain rfl hparent
  refine ⟨body, reply, hbody, hplain, rfl, hparent, hids, hspells, htold, ?_⟩
  rw [← hpolicy, ← hstart]
  exact hcomes specs hspells initial "b" "built" (by decide)

end Lexing
