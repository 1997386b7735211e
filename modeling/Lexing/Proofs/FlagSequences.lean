import Lexing.Proofs.Declaring
import Lexing.Proofs.Segmentation

/-! Flags as they are given. All that a rule keeps of them is which names are among them: not in what order they
were given, nor how often, nor whether a single one stood for itself. So rules come out the same, by whichever
way they are declared. -/
namespace Lexing

@[simp] theorem FlagSet.contains_ofList (names : List String) (x : String) :
    (ofList names).contains x = decide (x ∈ names) := by
  induction names using List.reverseRecOn with
  | nil => rfl
  | append_singleton names name ih =>
    rw [ofList, List.foldl_append]
    change ((ofList names).insert name).contains x = _
    rw [contains_insert, ih, Bool.eq_iff_iff]
    simp [or_comm]

/-- The same flags, or the same names for flags: in another order, with repeats, or a single one as it is. -/
inductive SameFlags : Value → Value → Prop
  | refl (flags : Value) : SameFlags flags flags
  | names {flags flags' : Value} {names names' : List String}
      (gives : Declaration.GivesFlags flags (names.map .str))
      (gives' : Declaration.GivesFlags flags' (names'.map .str))
      (same : ∀ name, name ∈ names ↔ name ∈ names') : SameFlags flags flags'

theorem SameFlags.ofValue_eq {flags flags' : Value} (h : SameFlags flags flags') :
    FlagSet.ofValue flags' = FlagSet.ofValue flags := by
  cases h with
  | refl => rfl
  | names gives gives' same =>
    rw [FlagSet.ofValue_of_names gives, FlagSet.ofValue_of_names gives']
    congr 1
    ext name
    simp [same name]

/-- The same action, or one action in the place of another. -/
inductive ActionSource.Exchanged : ActionSource → ActionSource → Prop
  | refl (source : ActionSource) : Exchanged source source
  | action (action action' : Action) : Exchanged (.action action) (.action action')

/-- The same is given for a rule, but for how its flags are told; what is given for actions is related. -/
structure RuleSpec.Respelled (R : ActionSource → ActionSource → Prop) (spec spec' : RuleSpec) : Prop where
  pattern : spec'.pattern = spec.pattern
  state : spec'.state = spec.state
  flags : SameFlags spec.flags spec'.flags
  action : R spec.action spec'.action

/-- The two rules differ at most in their actions. -/
def Rule.Exchanged (rule rule' : Rule) : Prop := rule' = { rule with action := rule'.action }

theorem Rule.Exchanged.refl (rule : Rule) : rule.Exchanged rule := rfl

theorem Rule.Exchanged.samePattern {rule rule' : Rule} (h : rule.Exchanged rule') : rule.SamePattern rule' := by
  rw [h]
  exact ⟨rfl, fun _ => .rfl⟩

namespace RuleSpec.Respelled

variable {spec spec' : RuleSpec}

theorem create_eq (h : spec.Respelled Eq spec') : Rule.create spec' = Rule.create spec := by
  rw [Rule.create, Rule.create, h.pattern, h.state, ← h.action, h.flags.ofValue_eq]

/-- With another action the rule is made where it was, and fails where it did. -/
theorem create_agree (h : spec.Respelled ActionSource.Exchanged spec') :
    Agree Rule.Exchanged (Rule.create spec) (Rule.create spec') := by
  have haction := h.action
  unfold Rule.create
  rw [h.pattern, h.state, h.flags.ofValue_eq]
  generalize spec.action = given, spec'.action = given' at haction
  cases spec.pattern.matcher with
  | error fault => exact .error fault
  | ok matcher =>
    cases haction with
    | refl =>
      cases given.action? with
      | error fault => exact .error fault
      | ok action =>
        cases FlagSet.ofValue spec.flags with
        | error fault => exact .error fault
        | ok flags => exact .ok rfl
    | action =>
      cases FlagSet.ofValue spec.flags with
      | error fault => exact .error fault
      | ok flags => exact .ok rfl

end RuleSpec.Respelled

/-! ## Rules that are declared ahead -/

theorem Agree.mapM {α β γ δ : Type} {R : α → β → Prop} {S : γ → δ → Prop} {f : α → Except Fault γ}
    {g : β → Except Fault δ} (hfg : ∀ a b, R a b → Agree S (f a) (g b)) {as : List α} {bs : List β}
    (h : List.Forall₂ R as bs) : Agree (List.Forall₂ S) (as.mapM f) (bs.mapM g) := by
  induction h with
  | nil => exact .ok .nil
  | cons hab _ ih =>
    rw [List.mapM_cons, List.mapM_cons]
    exact (hfg _ _ hab).bind fun c d hcd => ih.bind fun cs ds hrest => .ok (.cons hcd hrest)

theorem Declaration.declare_of_gives {spec : RuleSpec} {items : List Value} (h : GivesFlags spec.flags items) :
    declare spec = .ok ⟨spec.pattern, spec.state, items, spec.action⟩ :=
  declare_eq_ok.mpr ⟨rfl, rfl, rfl, h⟩

/-- Both are declared or neither is, and what is declared comes to the same rule. -/
theorem RuleSpec.Respelled.declare_agree {spec spec' : RuleSpec} (h : spec.Respelled Eq spec') :
    Agree (fun d d' => Rule.create d'.spec = Rule.create d.spec) (Declaration.declare spec)
      (Declaration.declare spec') := by
  obtain ⟨pattern, state, flags, action⟩ := spec
  obtain ⟨pattern', state', flags', action'⟩ := spec'
  obtain ⟨hpattern, hstate, hflags, haction⟩ := h
  cases hpattern
  cases hstate
  cases haction
  cases hflags with
  | refl =>
    cases Declaration.declare ⟨pattern, state, flags, action⟩ with
    | error fault => exact .error fault
    | ok d => exact .ok rfl
  | names gives gives' same =>
    have hset : SameFlags (.tuple (_ : List Value)) (.tuple _) := .names (.each nofun rfl) (.each nofun rfl) same
    rw [Declaration.declare_of_gives gives, Declaration.declare_of_gives gives']
    exact .ok (create_eq ⟨rfl, rfl, hset, rfl⟩)

theorem Definition.declareAll_eq {declarations declarations' : List Declaration}
    (h : List.Forall₂ (fun d d' => Rule.create d'.spec = Rule.create d.spec) declarations declarations')
    (d : Definition) : d.declareAll declarations' = d.declareAll declarations := by
  induction h generalizing d with
  | nil => rfl
  | @cons declaration declaration' declarations declarations' hcreate _ ih =>
    have hrule : d.rule declaration'.spec = d.rule declaration.spec := by
      rw [Definition.rule, Definition.rule, hcreate]
    rw [Definition.declareAll, Definition.declareAll, List.foldlM_cons, List.foldlM_cons, hrule]
    cases d.rule declaration.spec with
    | error fault => rfl
    | ok next => exact ih next

/-- A kind of lexer has the same definition. -/
theorem LexerType.extend_eq_of_create {declarations declarations' : List Declaration}
    (h : List.Forall₂ (fun d d' => Rule.create d'.spec = Rule.create d.spec) declarations declarations')
    (parent : LexerType) (name : String) (settings : TypeSettings) :
    parent.extend name declarations' settings = parent.extend name declarations settings := by
  unfold extend define
  rw [Definition.declareAll_eq h]

theorem LexerType.extend_of_respelled {specs specs' : List RuleSpec}
    (h : List.Forall₂ (RuleSpec.Respelled Eq) specs specs') (parent : LexerType) (name : String)
    (settings : TypeSettings) :
    (do parent.extend name (← specs'.mapM Declaration.declare) settings) =
      (do parent.extend name (← specs.mapM Declaration.declare) settings) := by
  have hagree := Agree.mapM (fun _ _ hspec => RuleSpec.Respelled.declare_agree hspec) h
  generalize specs.mapM Declaration.declare = declared at hagree ⊢
  generalize specs'.mapM Declaration.declare = declared' at hagree ⊢
  cases hagree with
  | error fault => rfl
  | ok hdeclared => exact LexerType.extend_eq_of_create hdeclared parent name settings

/-! ## Sessions -/

namespace Session

/-- The same steps, but for how the flags of rules are told that builders are given, also under other settings. -/
inductive Respelled : List Step → List Step → Prop
  | nil : Respelled [] []
  | cons (step : Step) {rest rest' : List Step} (after : Respelled rest rest') :
      Respelled (step :: rest) (step :: rest')
  | rule (on : String) {spec spec' : RuleSpec} {rest rest' : List Step} (respelled : spec.Respelled Eq spec')
      (after : Respelled rest rest') : Respelled (.rule on spec :: rest) (.rule on spec' :: rest')
  | within (settings : List (String × Value)) (raising : Option String) {steps steps' rest rest' : List Step}
      (inside : Respelled steps steps') (after : Respelled rest rest') :
      Respelled (.within settings steps raising :: rest) (.within settings steps' raising :: rest')

theorem reply_rule_eq {spec spec' : RuleSpec} (h : spec.Respelled Eq spec') (on : String) :
    reply (.rule on spec') = reply (.rule on spec) := by
  have hrule (d : Definition) : d.rule spec' = d.rule spec := by
    rw [Definition.rule, Definition.rule, h.create_eq]
  rw [reply, reply, answer, answer]
  simp only [hrule]
  rfl

theorem Respelled.replyAll_eq {steps steps' : List Step} (h : Respelled steps steps') :
    replyAll steps' = replyAll steps := by
  induction h with
  | nil => rfl
  | cons step _ ih => rw [replyAll, replyAll, ih]
  | rule on respelled _ ih => rw [replyAll, replyAll, reply_rule_eq respelled, ih]
  | within settings raising _ _ ihinside ih =>
    rw [replyAll, replyAll, ih, reply, reply, answer, answer, ihinside]
    rfl

end Session

/-! ## Builders -/

/-- Rule by rule, the tables differ at most in actions. -/
def RuleTable.Exchanged (table table' : RuleTable) : Prop :=
  List.Forall₂ (fun entry entry' => entry'.1 = entry.1 ∧ List.Forall₂ Rule.Exchanged entry.2 entry'.2)
    table.entries table'.entries

namespace RuleTable.Exchanged

variable {table table' : RuleTable} {rule rule' : Rule}

theorem add (h : table.Exchanged table') (hrule : rule.Exchanged rule') :
    (table.add rule).Exchanged (table'.add rule') := by
  have hstate : rule'.state = rule.state := by rw [hrule]
  have hlast : List.Forall₂ Rule.Exchanged [rule] [rule'] := .cons hrule .nil
  obtain ⟨entries⟩ := table
  obtain ⟨entries'⟩ := table'
  unfold RuleTable.Exchanged RuleTable.add at *
  dsimp only at h
  rw [hstate]
  split
  · refine List.forall₂_map_left_iff.mpr (List.forall₂_map_right_iff.mpr (h.imp fun entry entry' hentry => ?_))
    exact ⟨hentry.1, List.rel_append hentry.2 hlast⟩
  · change List.Forall₂ _ (appendTo rule.state rule entries) (appendTo rule.state rule' entries')
    induction h with
    | nil => exact .cons ⟨rfl, hlast⟩ .nil
    | @cons entry entry' entries entries' hentry hentries ih =>
      obtain ⟨name, rules⟩ := entry
      obtain ⟨name', rules'⟩ := entry'
      obtain ⟨rfl, hrules⟩ := hentry
      unfold appendTo
      split
      · exact .cons ⟨rfl, List.rel_append hrules hlast⟩ hentries
      · exact .cons ⟨rfl, hrules⟩ ih

theorem get (h : table.Exchanged table') (state : String) :
    List.Forall₂ Rule.Exchanged (table.get state) (table'.get state) := by
  obtain ⟨entries⟩ := table
  obtain ⟨entries'⟩ := table'
  unfold RuleTable.Exchanged at h
  unfold RuleTable.get
  dsimp only at h ⊢
  induction h with
  | nil => exact .nil
  | @cons entry entry' entries entries' hentry hentries ih =>
    obtain ⟨name, rules⟩ := entry
    obtain ⟨name', rules'⟩ := entry'
    obtain ⟨rfl, hrules⟩ := hentry
    rw [List.lookup_cons, List.lookup_cons]
    cases state == name'
    · exact ih
    · exact hrules

end RuleTable.Exchanged

theorem RuleTable.Exchanged.refl (table : RuleTable) : table.Exchanged table :=
  List.forall₂_same.mpr fun _ _ => ⟨rfl, List.forall₂_same.mpr fun rule _ => .refl rule⟩

/-- Policy and start are the same, and so are the rules of each state but for their actions. -/
structure Definition.Exchanged (d d' : Definition) : Prop where
  table : d.table.Exchanged d'.table
  policy : d'.policy = d.policy
  start : d'.start = d.start

theorem Definition.Exchanged.samePatterns {d d' : Definition} (h : d.Exchanged d') : d.SamePatterns d' where
  policy := h.policy.symm
  rules state := (h.table.get state).imp fun _ _ => Rule.Exchanged.samePattern

namespace BuilderCall

variable {on : String}

/-- The same call, or one that gives the builder the rule with another action and its flags told otherwise. -/
inductive Exchanged : BuilderCall on → BuilderCall on → Prop
  | refl (call : BuilderCall on) : Exchanged call call
  | rule {spec spec' : RuleSpec} (respelled : spec.Respelled ActionSource.Exchanged spec') :
      Exchanged (.rule spec) (.rule spec')

theorem Exchanged.getD_change {call call' : BuilderCall on} (h : call.Exchanged call') {d d' : Definition}
    (hd : d.Exchanged d') :
    ((call.change d).toOption.getD d).Exchanged ((call'.change d').toOption.getD d') := by
  obtain ⟨htable, hpolicy, hstart⟩ := hd
  rw [BuilderCall.getD_change, BuilderCall.getD_change, hpolicy, hstart]
  cases h with
  | refl =>
    refine ⟨?_, rfl, rfl⟩
    cases call.rule? with
    | none => exact htable
    | some rule => exact htable.add (.refl rule)
  | @rule spec spec' respelled =>
    refine ⟨?_, rfl, rfl⟩
    have hagree := respelled.create_agree
    rw [rule?, rule?]
    generalize Rule.create spec = created at hagree ⊢
    generalize Rule.create spec' = created' at hagree ⊢
    cases hagree with
    | error fault => exact htable
    | ok hrule => exact htable.add hrule

theorem exchanged_made {calls calls' : List (BuilderCall on)} (h : List.Forall₂ Exchanged calls calls') :
    (made calls).Exchanged (made calls') :=
  List.rel_foldl (P := Definition.Exchanged) (fun _ _ hd _ _ hcall => hcall.getD_change hd) ⟨.refl _, rfl, rfl⟩ h

end BuilderCall

end Lexing
