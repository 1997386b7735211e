import Lexing.Proofs.Builder
import Lexing.Proofs.Failures
import Lexing.Proofs.TypeBodies

/-! Which declarations are refused, and what is left to go wrong in a scan once they are accepted. A pattern
may be beyond what its reader handles, which is not told as a fault of the rule; and a pattern over bytes is
accepted but cannot be tried. -/
namespace Lexing

/-- The fault is told as one of a rule. -/
def Fault.isOfRule : Fault → Bool
  | .malformedPattern .. | .notPattern _ | .notAction _ | .resultSize _ | .raised .rule _ => true
  | _ => false

/-- The pattern cannot be read, and not for want of form. -/
def PatternSource.Overreaches (pattern : PatternSource) (fault : Fault) : Prop :=
  ∃ source cause, pattern = .text source ∧ Pattern.compile source [] = .error cause ∧
    (∀ form, cause ≠ .malformed form) ∧ fault = readFault (.malformedPattern source) cause

theorem isOfRule_readFault {source : String} {cause : Pattern.ReadFault} :
    (readFault (.malformedPattern source) cause).isOfRule = false ↔ ∀ form, cause ≠ .malformed form := by
  cases cause <;> simp [readFault, Fault.isOfRule]

namespace PatternSource

theorem matcher_of_ok {source : PatternText} {read : Pattern} (h : Pattern.compile source [] = .ok read) :
    matcher (.text source) = .ok (.text read) := by
  rw [matcher, h]

theorem matcher_of_error {source : PatternText} {cause : Pattern.ReadFault}
    (h : Pattern.compile source [] = .error cause) :
    matcher (.text source) = .error (readFault (.malformedPattern source) cause) := by
  rw [matcher, h]

theorem matcher_eq_error {pattern : PatternSource} {fault : Fault} :
    pattern.matcher = .error fault ∧ fault.isOfRule = false ↔ pattern.Overreaches fault := by
  constructor
  · rintro ⟨hmatcher, hfault⟩
    cases pattern with
    | text source =>
      cases hcompile : Pattern.compile source [] with
      | ok read => cases hmatcher.symm.trans (matcher_of_ok hcompile)
      | error cause =>
        cases hmatcher.symm.trans (matcher_of_error hcompile)
        exact ⟨source, cause, rfl, hcompile, isOfRule_readFault.mp hfault, rfl⟩
    | other v =>
      cases hmatcher
      cases hfault
    | compiled | bytes => cases hmatcher
  · rintro ⟨source, cause, rfl, hcompile, hform, rfl⟩
    exact ⟨matcher_of_error hcompile, isOfRule_readFault.mpr hform⟩

/-- Only what is given over bytes comes to a pattern over bytes. -/
theorem eq_bytes_of_matcher {pattern : PatternSource} {m : Matcher} (h : pattern.matcher = .ok m)
    (hbytes : m.isText = false) : ∃ source, pattern = .bytes source := by
  cases pattern with
  | bytes source => exact ⟨source, rfl⟩
  | text source =>
    cases hcompile : Pattern.compile source [] with
    | ok read =>
      cases h.symm.trans (matcher_of_ok hcompile)
      cases hbytes
    | error cause => cases h.symm.trans (matcher_of_error hcompile)
  | compiled pattern =>
    cases h
    cases hbytes
  | other v => cases h

end PatternSource

theorem ActionSource.isOfRule_of_error {action : ActionSource} {fault : Fault}
    (h : action.action? = .error fault) : fault.isOfRule = true := by
  unfold action? at h
  split at h <;> cases h
  rfl

theorem FlagSet.mapM_nameOf (names : List String) : (names.map Value.str).mapM nameOf = .ok names := by
  induction names with
  | nil => rfl
  | cons name names ih =>
    rw [List.map_cons, List.mapM_cons, ih]
    rfl

theorem FlagSet.ofValue_of_names {flags : Value} {names : List String}
    (h : Declaration.GivesFlags flags (names.map .str)) : ofValue flags = .ok (ofList names) := by
  generalize hitems : names.map Value.str = items at h
  cases h with
  | one flag =>
    obtain ⟨name, rfl, hname⟩ := List.map_eq_singleton_iff.mp hitems
    cases hname
    rfl
  | each several items_eq =>
    unfold ofValue
    split
    · next flag => exact absurd rfl (several flag)
    · rw [items_eq, ← hitems]
      change (do return ofList (← (names.map Value.str).mapM nameOf)) = _
      rw [mapM_nameOf]
      rfl

namespace Rule

variable {spec : RuleSpec}

theorem matcher_of_create {rule : Rule} (h : create spec = .ok rule) :
    spec.pattern.matcher = .ok rule.matcher := by
  obtain ⟨matcher, hmatcher, h⟩ := exists_of_bind_ok h
  obtain ⟨action, _, h⟩ := exists_of_bind_ok h
  obtain ⟨flags, _, h⟩ := exists_of_bind_ok h
  cases h
  exact hmatcher

/-- The pattern is looked at first. -/
theorem create_of_error {cause : Fault} (h : spec.pattern.matcher = .error cause) : create spec = .error cause := by
  rw [create, h]
  rfl

/-- With names for flags, a declaration fails otherwise than as a bad rule exactly if its pattern is beyond
what can be read. -/
theorem create_eq_error {names : List String} {fault : Fault}
    (hflags : Declaration.GivesFlags spec.flags (names.map .str)) :
    create spec = .error fault ∧ fault.isOfRule = false ↔ spec.pattern.Overreaches fault := by
  rw [← PatternSource.matcher_eq_error]
  have hset := FlagSet.ofValue_of_names hflags
  cases hmatcher : spec.pattern.matcher with
  | error cause =>
    rw [create_of_error hmatcher]
    simp
  | ok matcher =>
    refine ⟨?_, fun h => (by cases h.1)⟩
    rintro ⟨h, hfault⟩
    rw [create, hmatcher, hset] at h
    cases haction : spec.action.action? with
    | ok action =>
      rw [haction] at h
      cases h
    | error cause =>
      rw [haction] at h
      cases h
      cases hfault.symm.trans (ActionSource.isOfRule_of_error haction)

end Rule

theorem Definition.rule_eq_error {d : Definition} {spec : RuleSpec} {fault : Fault} :
    d.rule spec = .error fault ↔ Rule.create spec = .error fault := by
  unfold Definition.rule
  cases Rule.create spec <;> simp [bind, Except.bind, pure, Except.pure]

namespace BuilderCall

variable {on : String} {calls : List (BuilderCall on)} {state : String} {rule : Rule}

/-- The call declares a rule, with a pattern over bytes. -/
def DeclaresBytes (call : BuilderCall on) : Prop :=
  ∃ spec source rule, call = .rule spec ∧ spec.pattern = .bytes source ∧ Rule.create spec = .ok rule

/-- What is in a table has been declared. -/
theorem exists_rule?_of_mem (h : rule ∈ (made calls).table.get state) :
    ∃ call ∈ calls, call.rule? = some rule := by
  have hmade := determine_made calls
  by_cases hstate : state ∈ (made calls).table.states
  · rw [hmade.rules state hstate] at h
    exact List.mem_filterMap.mp ((List.dropWhile_sublist _).mem (List.mem_filter.mp h).1)
  · rw [hmade.others state hstate] at h
    cases h

theorem exists_declaresBytes (h : rule ∈ (made calls).table.get state)
    (hbytes : rule.matcher.isText = false) : ∃ call ∈ calls, call.DeclaresBytes := by
  obtain ⟨call, hcall, hrule⟩ := exists_rule?_of_mem h
  refine ⟨call, hcall, ?_⟩
  cases call with
  | rule spec =>
    have hcreate : Rule.create spec = .ok rule := by
      change (Rule.create spec).toOption = some rule at hrule
      cases hspec : Rule.create spec with
      | error fault =>
        rw [hspec] at hrule
        cases hrule
      | ok made =>
        rw [hspec] at hrule
        cases hrule
        rfl
    obtain ⟨source, hsource⟩ := PatternSource.eq_bytes_of_matcher (Rule.matcher_of_create hcreate) hbytes
    exact ⟨spec, source, rule, rfl, hsource, hcreate⟩
  | matchPolicy | matchFirst | start | build => cases hrule

/-- What a scan under a definition that calls have made can end with. -/
structure ScanTells (calls : List (BuilderCall on)) (source : String) (env : Environment)
    (label : Option String) (trace : Bool) : Prop where
  ends : (∃ tokens, ((made calls).lex source env label trace).answer = .ok tokens) ∨
    ∃ done s point fault last, (made calls).Steps source.toList.toArray (.start env) done s ∧
      (made calls).Fails source.toList.toArray label s point fault last ∧
      ((made calls).lex source env label trace).answer = .error (last.readFault fault)
  unmatched : ∀ s fault last, (made calls).Fails source.toList.toArray label s .noCandidate fault last →
    fault = .unmatched (Run.unmatched source.toList.toArray label s.cursor)
  action : ∀ s fault last, (made calls).Fails source.toList.toArray label s .action fault last →
    ∃ f, (made calls).Fires source.toList.toArray s f ∧ f.result s.env = (.error fault, last)
  result : ∀ s fault last, (made calls).Fails source.toList.toArray label s .result fault last →
    ∃ v, fault = .resultSize v ∧ last.readFault fault =
      if (last.read v).isWritable then .resultSize (last.read v) else .numeral .unwritable
  pattern : ∀ s fault last, (made calls).Fails source.toList.toArray label s .pattern fault last ↔
    fault = .bytesPattern ∧ last = s.env ∧ s.cursor.offset < source.toList.toArray.size ∧
      ∃ rule, (made calls).policy.Reaches s.env.flags source.toList.toArray s.cursor.offset
        ((made calls).table.get s.env.state) rule ∧ rule.Balks s.env.flags
  declared : ∀ s fault last, (made calls).Fails source.toList.toArray label s .pattern fault last →
    ∃ call ∈ calls, call.DeclaresBytes

theorem scanTells (calls : List (BuilderCall on)) (source : String) (env : Environment)
    (label : Option String) (trace : Bool) : ScanTells calls source env label trace where
  ends := (made calls).answer_ok_or_fails source env label trace
  unmatched := by
    intro s fault last fails
    cases fails
    rfl
  action := by
    intro s fault last fails
    cases fails with
    | action fires raised => exact ⟨_, fires, raised⟩
  result := by
    intro s fault last fails
    cases fails with
    | result fires returned rejected =>
      obtain rfl := Emit.ofResult_eq_error rejected
      exact ⟨_, rfl, rfl⟩
  pattern := by
    intro s fault last
    constructor
    · intro fails
      cases fails with
      | pattern inside error =>
        obtain ⟨hfault, hrule⟩ := Definition.select_eq_error.mp error
        exact ⟨hfault, rfl, inside, hrule⟩
    · rintro ⟨rfl, rfl, inside, hrule⟩
      exact .pattern inside (Definition.select_eq_error.mpr ⟨rfl, hrule⟩)
  declared := by
    intro s fault last fails
    cases fails with
    | pattern inside error =>
      obtain ⟨_, rule, hreached, hbalks⟩ := Definition.select_eq_error.mp error
      exact exists_declaresBytes hreached.mem hbalks.bytes

/-- A declaration whose flags are names is told to be bad as a rule, unless its pattern is beyond what its
reader handles. A scan under what has been declared then ends with tokens, with unmatched input, with a
fault of an action or of its result, and in no other way unless a pattern over bytes was declared and the
scan comes to it. -/
theorem declarations_tell (calls : List (BuilderCall on)) (spec : RuleSpec) (names : List String)
    (hflags : Declaration.GivesFlags spec.flags (names.map .str)) :
    (∀ fault, (made calls).rule spec = .error fault ∧ fault.isOfRule = false ↔
      spec.pattern.Overreaches fault) ∧
      ∀ source env label trace, ScanTells calls source env label trace :=
  ⟨fun _ => (and_congr_left fun _ => Definition.rule_eq_error).trans (Rule.create_eq_error hflags),
    scanTells calls⟩

/-- A repetition that is out of reach, and a pattern over bytes. -/
def outOfReach : RuleSpec := { pattern := .text "a{4294967295}", flags := .list [.str "f", .str "g"] }

def overBytes : RuleSpec := { pattern := .bytes "a" }

theorem declarations_tell_outOfReach :
    Declaration.GivesFlags outOfReach.flags (["f", "g"].map .str) ∧
      let calls : List (BuilderCall "b") := [.rule overBytes]
      (∀ fault, (made calls).rule outOfReach = .error fault ∧ fault.isOfRule = false ↔
        outOfReach.pattern.Overreaches fault) ∧
      ∀ source env label trace, ScanTells calls source env label trace :=
  have hflags : Declaration.GivesFlags outOfReach.flags (["f", "g"].map .str) :=
    .each (fun flag h => by cases h) rfl
  ⟨hflags, declarations_tell [.rule overBytes] outOfReach ["f", "g"] hflags⟩

/-- The one is refused, but not as a bad rule; the other is accepted, and the scan that tries it fails. -/
theorem declarations_tell_otherwise :
    let calls : List (BuilderCall "b") := [.rule overBytes]
    (made calls).rule outOfReach = .error .repetitionTooLarge ∧ Fault.isOfRule .repetitionTooLarge = false ∧
      (∃ d, Definition.empty.rule overBytes = .ok d) ∧
      ((made calls).lex "a" (.plain defaultState) none false).answer = .error .bytesPattern :=
  have hread : Pattern.compile "a{4294967295}" [] = .error .repetitionTooLarge := by decide +kernel
  have hcreate : Rule.create outOfReach = .error .repetitionTooLarge :=
    Rule.create_of_error (PatternSource.matcher_of_error hread)
  ⟨Definition.rule_eq_error.mpr hcreate, rfl, ⟨_, rfl⟩, by decide +kernel⟩

end BuilderCall

end Lexing
