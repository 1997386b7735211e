import Lexing.Proofs.Declaring
import Lexing.Proofs.EndOfStream
import Lexing.Proofs.MatchAtHand

/-! What the result of an action asks for, however it is spelled: as a pair, as a pair without a value, as a
bare type, or as a request that is made already. -/
namespace Lexing

/-- The items of a tuple or of a list, at hand or kept. -/
def Shelf.sequence? (shelf : Shelf) : Value → Option (List Value)
  | .tuple items | .list items => some items
  | .kept place => some (shelf.items place)
  | _ => none

/-- What a result asks for, with the list in its place if it is a kept one. -/
def Shelf.request (shelf : Shelf) (v : Value) : Except Fault (Option Emit) := Emit.ofResult (shelf.opened v)

namespace Emit

theorem isNothing_iff {v : Value} : isNothing v ↔ v = .null ∨ v = .bool false := by
  unfold isNothing
  split <;> simp_all

theorem ofPair_eq_none {type value : Value} : ofPair type value = none ↔ isNothing type := by
  unfold ofPair
  cases isNothing type <;> simp

theorem ofPair_eq_some {type value : Value} {e : Emit} :
    ofPair type value = some e ↔ e = ⟨type, value⟩ ∧ isNothing type = false := by
  unfold ofPair
  cases isNothing type <;> simp [eq_comm]

/-- A type that is not there is never put in by a list that is. -/
theorem isNothing_read (env : Environment) (v : Value) : isNothing (env.read v) = isNothing v := by
  cases v with
  | kept place =>
    simp only [Environment.read, Shelf.read, Value.fill]
    cases env.shelf.lists.size <;> rfl
  | null | bool | int | real | str | list | tuple | dict | emit =>
    simp only [Environment.read, Shelf.read, Value.fill, isNothing]

end Emit

namespace Shelf

variable {shelf : Shelf} {whole t v : Value} {items : List Value}

theorem request_of_sequence (h : shelf.sequence? whole = some items) :
    shelf.request whole = Emit.ofItems (shelf.opened whole) items := by
  cases whole with
  | tuple | list | kept =>
    cases h
    rfl
  | null | bool | int | real | str | dict | emit => cases h

theorem request_of_bare (h : shelf.sequence? t = none) (hemit : ∀ type value, t ≠ .emit type value) :
    shelf.request t = .ok (Emit.ofPair t .null) := by
  cases t with
  | tuple | list | kept => cases h
  | emit type value => exact absurd rfl (hemit type value)
  | null | bool | int | real | str | dict => rfl

theorem request_emit (shelf : Shelf) (t v : Value) : shelf.request (.emit t v) = .ok (some ⟨t, v⟩) := rfl

theorem ofItems_eq_error {fault : Fault} :
    Emit.ofItems whole items = .error fault ↔ fault = .resultSize whole ∧ items.length ≠ 1 ∧ items.length ≠ 2 := by
  match items with
  | [] => simp [Emit.ofItems, eq_comm]
  | [_] => simp [Emit.ofItems]
  | [_, _] => simp [Emit.ofItems]
  | _ :: _ :: _ :: _ => simp [Emit.ofItems, eq_comm]

/-- Only a sequence that is neither of one item nor of two is refused. -/
theorem request_eq_error {fault : Fault} : shelf.request whole = .error fault ↔
    fault = .resultSize (shelf.opened whole) ∧
      ∃ items, shelf.sequence? whole = some items ∧ items.length ≠ 1 ∧ items.length ≠ 2 := by
  cases hitems : shelf.sequence? whole with
  | some items =>
    rw [request_of_sequence hitems, ofItems_eq_error]
    simp
  | none =>
    refine ⟨fun h => ?_, fun ⟨_, items, h, _⟩ => by cases h⟩
    by_cases hemit : ∃ type value, whole = .emit type value
    · obtain ⟨type, value, rfl⟩ := hemit
      cases h
    · rw [request_of_bare hitems fun type value heq => hemit ⟨type, value, heq⟩] at h
      cases h

/-- The spellings of one request agree, whichever sequence they use and whatever its items are; what makes
no request is nothing and false as a type, and what is refused is a sequence of another size. -/
structure Normalises (shelf : Shelf) : Prop where
  pair : ∀ whole t v, shelf.sequence? whole = some [t, v] → shelf.request whole = .ok (Emit.ofPair t v)
  single : ∀ whole t, shelf.sequence? whole = some [t] → shelf.request whole = shelf.request (.tuple [t, .null])
  bare : ∀ t, shelf.sequence? t = none → (∀ type value, t ≠ .emit type value) →
    shelf.request t = shelf.request (.tuple [t])
  asksNothing : ∀ t v, Emit.ofPair t v = none ↔ t = .null ∨ t = .bool false
  asks : ∀ t v e, Emit.ofPair t v = some e ↔ e = ⟨t, v⟩ ∧ t ≠ .null ∧ t ≠ .bool false
  made : ∀ t v, shelf.request (.emit t v) = .ok (some ⟨t, v⟩)
  again : ∀ whole e, shelf.request whole = .ok (some e) → shelf.request e.toValue = .ok (some e)
  unlike : ∀ t v, shelf.request (.emit t v) = shelf.request (.tuple [t, v]) ↔ t ≠ .null ∧ t ≠ .bool false
  refused : ∀ whole fault, shelf.request whole = .error fault ↔ fault = .resultSize (shelf.opened whole) ∧
    ∃ items, shelf.sequence? whole = some items ∧ items.length ≠ 1 ∧ items.length ≠ 2

theorem normalises (shelf : Shelf) : shelf.Normalises where
  pair whole t v h := request_of_sequence h
  single whole t h := request_of_sequence h
  bare t h hemit := request_of_bare h hemit
  asksNothing t v := Emit.ofPair_eq_none.trans Emit.isNothing_iff
  asks t v e := by
    rw [Emit.ofPair_eq_some, ← Bool.not_eq_true, Emit.isNothing_iff, not_or]
  made := shelf.request_emit
  again whole e _ := shelf.request_emit e.type e.value
  unlike t v := by
    rw [request_emit, ← not_or, ← Emit.isNothing_iff]
    change Except.ok (some _) = Except.ok (Emit.ofPair t v) ↔ _
    rw [Except.ok.injEq, eq_comm, Emit.ofPair_eq_some]
    simp
  refused whole fault := request_eq_error

end Shelf

/-- A request without a type has to be made as such. -/
theorem Emit.eq_toValue_of_isNothing {v : Value} {e : Emit} (h : ofResult v = .ok (some e))
    (hnothing : isNothing e.type) : v = e.toValue := by
  have hpair : ∀ t value, ofPair t value ≠ some e := by
    intro t value hsome
    obtain ⟨rfl, hsomething⟩ := ofPair_eq_some.mp hsome
    cases hsomething.symm.trans hnothing
  have hitems : ∀ whole items, ofItems whole items ≠ .ok (some e) := by
    intro whole items hok
    unfold ofItems at hok
    split at hok
    · exact hpair _ _ (Except.ok.inj hok)
    · exact hpair _ _ (Except.ok.inj hok)
    · cases hok
  cases v with
  | emit type value =>
    cases h
    rfl
  | tuple items => exact absurd h (hitems _ items)
  | list items => exact absurd h (hitems _ items)
  | null | bool | int | real | str | dict | kept => exact absurd (Except.ok.inj h) (hpair _ _)

theorem Environment.isOfRule_readFault (env : Environment) (v : Value) :
    (env.readFault (.resultSize v)).isOfRule = (env.read v).isWritable := by
  rw [readFault, Fault.mapValues, Fault.told]
  cases h : (env.read v).isWritable <;> simp [Fault.isOfRule]

/-- The list in the place of a result has been put in by the time that the result is looked at. -/
theorem Script.request_of_action {name : String} {body : List Stmt} {result : Expr} {text : String}
    {env last : Environment} {v : Value}
    (h : ((Script.action name body result).body text).run env = (.ok v, last)) :
    last.shelf.request v = Emit.ofResult v := by
  have hopened : ∀ w env', (Script.opened w).run env' = (.ok v, last) →
      last.shelf.request v = Emit.ofResult v := by
    intro w env' hw
    cases hw
    cases w <;> rfl
  change ((Script.execAll text body >>= _ : Act Value).run env) = _ at h
  rw [run_bind] at h
  rcases hrun : (Script.execAll text body).run env with ⟨fault | returned, t⟩
  · rw [hrun] at h
    cases h
  · rw [hrun] at h
    cases returned with
    | some w => exact hopened w t h
    | none =>
      change ((Script.eval text result >>= Script.opened : Act Value).run t) = _ at h
      rw [run_bind] at h
      rcases hresult : (Script.eval text result).run t with ⟨fault | w, u⟩
      · rw [hresult] at h
        cases h
      · rw [hresult] at h
        exact hopened w u h

namespace Definition

variable {d : Definition} {source : String} {env : Environment} {label : Option String} {trace : Bool}

/-- Of the tokens that a pass answers, those without a type are those that were asked for as such. -/
theorem exists_emit_of_isNothing {calls : List Call} {s : Boundary} {token : Token} (last : Environment)
    (steps : d.Steps source.toList.toArray (.start env) calls s)
    (htoken : token ∈ (calls.filterMap (·.token? label)).map (·.mapValues last.read))
    (hnothing : Emit.isNothing token.type) :
    ∃ call ∈ calls, ∃ type value, call.result = .emit type value ∧ Emit.isNothing type ∧
      token = (call.firing.token label ⟨type, value⟩).mapValues last.read := by
  obtain ⟨made, hmade, rfl⟩ := List.mem_map.mp htoken
  obtain ⟨call, hcall, hmade⟩ := List.mem_filterMap.mp hmade
  obtain ⟨e, hemit, rfl⟩ := Option.map_eq_some_iff.mp hmade
  obtain ⟨_, t, u, _, step⟩ := steps.step_of_mem hcall
  have htype : Emit.isNothing e.type := (Emit.isNothing_read last e.type).symm.trans hnothing
  have hresult : call.result = e.toValue :=
    Emit.eq_toValue_of_isNothing (step.understood.trans (congrArg Except.ok hemit)) htype
  exact ⟨call, hcall, e.type, e.value, hresult, htype, rfl⟩

/-- A pass ends where a result is refused, and how that is told depends on whether the result can be written. -/
theorem answer_of_refused {calls : List Call} {s : Boundary} {f : Firing} {v : Value} {last : Environment}
    {fault : Fault} (steps : d.Steps source.toList.toArray (.start env) calls s)
    (fires : d.Fires source.toList.toArray s f) (acts : f.result s.env = (.ok v, last))
    (refused : Emit.ofResult v = .error fault) :
    (d.lex source env label trace).answer =
      .error (if (last.read v).isWritable then .resultSize (last.read v) else .numeral .unwritable) := by
  obtain rfl := Emit.ofResult_eq_error refused
  exact Fails.answer_eq steps (.result fires acts refused) trace

/-- All spellings of a request come to the same, and a sequence of another size is refused. A pass answers a
token without a type only where a request was made as such; a result that it refuses is told as a fault of the
rule as long as the result can be written, which the message does. -/
theorem spellings_of_results_agree (d : Definition) (source : String) (env : Environment) (label : Option String)
    (trace : Bool) :
    (∀ shelf : Shelf, shelf.Normalises) ∧
    (∀ name body result text (before last : Environment) v,
      ((Script.action name body result).body text).run before = (.ok v, last) →
        last.shelf.request v = Emit.ofResult v) ∧
    (∀ tokens, (d.lex source env label trace).answer = .ok tokens →
      let last := (d.lex source env label trace).environment
      ∃ calls s, d.Steps source.toList.toArray (.start env) calls s ∧
        (∀ token ∈ tokens, token.type = .null ∨ token.type = .bool false →
          ∃ call ∈ calls, ∃ type value, call.result = .emit type value ∧ (type = .null ∨ type = .bool false) ∧
            token = (call.firing.token label ⟨type, value⟩).mapValues last.read) ∧
        ∀ call ∈ calls, ∀ type value, call.result = .emit type value →
          (call.firing.token label ⟨type, value⟩).mapValues last.read ∈ tokens) ∧
    (∀ calls s f v last, d.Steps source.toList.toArray (.start env) calls s →
      d.Fires source.toList.toArray s f → f.result s.env = (.ok v, last) →
      ∀ fault, Emit.ofResult v = .error fault →
        (d.lex source env label trace).answer =
          .error (if (last.read v).isWritable then .resultSize (last.read v) else .numeral .unwritable)) ∧
    ∀ (last : Environment) v, (last.readFault (.resultSize v)).isOfRule = (last.read v).isWritable := by
  refine ⟨Shelf.normalises, fun _ _ _ _ _ _ _ => Script.request_of_action, ?_,
    fun _ _ _ _ _ steps fires acts _ refused => answer_of_refused steps fires acts refused,
    Environment.isOfRule_readFault⟩
  intro tokens answered last
  obtain ⟨calls, s, steps, _, rfl⟩ := exists_steps_of_answer answered
  refine ⟨calls, s, steps, fun token htoken htype => ?_, fun call hcall type value hresult => ?_⟩
  · rcases List.mem_append.mp htoken with htoken | hend
    · simp only [← Emit.isNothing_iff] at htype ⊢
      exact exists_emit_of_isNothing last steps htoken htype
    · rw [List.mem_singleton.mp hend] at htype
      rcases htype with h | h <;> cases h
  · obtain ⟨_, t, u, _, step⟩ := steps.step_of_mem hcall
    have hemit : call.emit = some ⟨type, value⟩ := by
      have hunderstood := step.understood
      rw [hresult] at hunderstood
      exact (Except.ok.inj hunderstood).symm
    have hmade : call.token? label = some (call.firing.token label ⟨type, value⟩) := by
      rw [Call.token?, hemit]
      rfl
    exact List.mem_append_left _ (List.mem_map_of_mem (List.mem_filterMap.mpr ⟨call, hcall, hmade⟩))

/-- The definition whose one rule has an action that always answers this. -/
def answering (v : Value) : Definition :=
  .ofRules .longest [Calculator.compiled "a" (.char (.single .exact 'a'.toNat)) (.perform "answer" fun _ => pure v)]

/-- A request for a token without a type is met. -/
theorem spellings_of_results_agree_untyped :
    let lexed := (answering (.emit .null (.int 7))).lex "a" (.plain defaultState) none false
    lexed.answer = .ok [⟨.null, .int 7, some ⟨0, 1, 0, 1, none⟩⟩, .endOfStream] ∧
      (∀ shelf : Shelf, shelf.Normalises) ∧
      ∃ calls s, (answering (.emit .null (.int 7))).Steps "a".toList.toArray (.start (.plain defaultState)) calls s ∧
        ∃ call ∈ calls, ∃ type value, call.result = .emit type value ∧ (type = .null ∨ type = .bool false) := by
  intro lexed
  have answered : lexed.answer = .ok [⟨.null, .int 7, some ⟨0, 1, 0, 1, none⟩⟩, .endOfStream] := by decide +kernel
  obtain ⟨hshelf, _, htokens, _⟩ :=
    spellings_of_results_agree (answering (.emit .null (.int 7))) "a" (.plain defaultState) none false
  obtain ⟨calls, s, steps, huntyped, _⟩ := htokens _ answered
  obtain ⟨call, hcall, type, value, hresult, htype, _⟩ := huntyped _ List.mem_cons_self (.inl rfl)
  exact ⟨answered, hshelf, calls, s, steps, call, hcall, type, value, hresult, htype⟩

/-- Three items, the first of which is too long to be written. -/
def threeItems : Value := .tuple [.int (Int.ofNat Text.writableBound), .int 1, .int 2]

/-- What is refused for its size is not told as a fault of the rule. -/
theorem wrong_size_told_otherwise :
    (∃ items, threeItems = .tuple items ∧ items.length = 3) ∧
      ((answering threeItems).lex "a" (.plain defaultState) none false).answer = .error (.numeral .unwritable) ∧
      Fault.isOfRule (.numeral .unwritable) = false := by
  obtain ⟨c, hselect⟩ : ∃ c, (answering threeItems).select (.plain defaultState) "a".toList.toArray 0 =
      .ok (some c) := ⟨_, rfl⟩
  have hwritable : Value.isWritable threeItems = false := by
    have hbound (n : Nat) : Text.isWritable (Int.ofNat n) = decide (n < Text.writableBound) := rfl
    rw [threeItems, Value.isWritable, Value.areWritable, Value.isWritable, hbound,
      decide_eq_false (Nat.lt_irrefl _), Bool.false_and]
  refine ⟨⟨_, rfl, rfl⟩, ?_, rfl⟩
  have fires : (answering threeItems).Fires "a".toList.toArray (.start (.plain defaultState))
      ⟨.start, _, c.rule, c.found⟩ := ⟨Nat.one_pos, c, hselect, rfl⟩
  have hrule : c.rule = _ := List.mem_singleton.mp (select_eq_some hselect).mem
  have acts : (Firing.mk .start (Environment.plain defaultState).state c.rule c.found).result (.plain defaultState) =
      (.ok threeItems, { Environment.plain defaultState with lastMatch := some c.found }) := by
    rw [hrule]
    rfl
  have hread (env : Environment) : env.read threeItems = threeItems := by
    simp only [Environment.read, Shelf.read, threeItems, Value.fill, Value.fillItems]
  rw [answer_of_refused .nil fires acts rfl, hread, hwritable, if_neg Bool.false_ne_true]

end Definition

end Lexing
