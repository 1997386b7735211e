import Lexing.Proofs.Calculator
import Lexing.Proofs.Failures
import Lexing.Proofs.Remainder
import Lexing.Proofs.RuleTable

/-! What actions answer has no part in how a source is cut up. Two definitions with the same patterns, whose
actions change environments alike, go through a source in lockstep: their tokens differ only where the
answers do. -/
namespace Lexing

/-- Run on a text in an environment, the action raises nothing, asks for this token or none, and leaves the
environment `last`. -/
def Action.Asks (action : Action) (env : Environment) (text : String) (emit : Option Emit)
    (last : Environment) : Prop :=
  ∃ v, (action.body text).run env = (.ok v, last) ∧ Emit.ofResult v = .ok emit

/-- The two actions make the same changes, whatever each of them asks for. -/
def Action.ActsLike (action action' : Action) (env : Environment) (text : String) : Prop :=
  ∃ emit emit' last, action.Asks env text emit last ∧ action'.Asks env text emit' last

structure Rule.SamePattern (rule rule' : Rule) : Prop where
  matcher : rule.matcher = rule'.matcher
  flags : ∀ flag, rule.flags.contains flag ↔ rule'.flags.contains flag

namespace Rule.SamePattern

variable {rule rule' : Rule}

theorem enabled_eq (h : rule.SamePattern rule') (flags : FlagSet) : rule.enabled flags = rule'.enabled flags := by
  rw [Bool.eq_iff_iff]
  simp only [enabled, FlagSet.isSubset_iff, h.flags]

/-- Both are candidates or none is, with the same match. -/
theorem ofRule_agree (h : rule.SamePattern rule') (flags : FlagSet) (text : Array Char) {place : Nat}
    {R : Candidate place → Candidate place → Prop}
    (hR : ∀ found advances, R ⟨rule', found, advances⟩ ⟨rule, found, advances⟩) :
    Agree (Option.Rel R) (Candidate.ofRule flags text place rule')
      (Candidate.ofRule flags text place rule) := by
  unfold Candidate.ofRule
  rw [h.enabled_eq, h.matcher]
  split
  · cases rule'.matcher.tryAt text place with
    | error fault => exact .error fault
    | ok found? =>
      cases found? with
      | none => exact .ok .none
      | some found =>
        by_cases advances : place < found.stop
        · simp only [bind, Except.bind, advances, dite_true]
          exact .ok (.some (hR found advances))
        · simp only [bind, Except.bind, advances, dite_false]
          exact .ok .none
  · exact .ok .none

end Rule.SamePattern

namespace Definition

/-- The same policy, and in each state the same patterns and flags, rule by rule. -/
structure SamePatterns (d d' : Definition) : Prop where
  policy : d.policy = d'.policy
  rules : ∀ state, List.Forall₂ Rule.SamePattern (d.table.get state) (d'.table.get state)

/-- The two rules have the same place among those of the state. -/
def Corresponds (d d' : Definition) (state : String) (rule rule' : Rule) : Prop :=
  (rule, rule') ∈ (d.table.get state).zip (d'.table.get state)

/-- Whenever the first definition calls an action in its pass, the action in the same place of the other one
would have made the same changes. -/
def ActsLike (d d' : Definition) (source : String) (env : Environment) : Prop :=
  ∀ calls s f rule', d.Steps source.toList.toArray (.start env) calls s → d.Fires source.toList.toArray s f →
    d.Corresponds d' f.state f.rule rule' →
      f.rule.action.ActsLike rule'.action { s.env with lastMatch := some f.found } f.chunk

end Definition

/-- Rules in the same place fire on the same match. -/
structure Call.Parallels (d d' : Definition) (call call' : Call) : Prop where
  rules : d.Corresponds d' call.firing.state call.firing.rule call'.firing.rule
  firing : call'.firing = { call.firing with rule := call'.firing.rule }

namespace Call.Parallels

variable {d d' : Definition} {call call' : Call}

theorem chunk_eq (h : Call.Parallels d d' call call') : call.chunk = call'.chunk := by
  rw [chunk, chunk, h.firing]
  rfl

/-- Asked for alike, the tokens are the same. -/
theorem token_eq (h : Call.Parallels d d' call call') (label : Option String) :
    call.firing.token label = call'.firing.token label := by
  rw [h.firing]
  rfl

theorem position_eq {label : Option String} {token token' : Token} (h : Call.Parallels d d' call call')
    (htoken : call.token? label = some token) (htoken' : call'.token? label = some token') :
    token.position = token'.position := by
  obtain ⟨emit, _, rfl⟩ := Option.map_eq_some_iff.mp htoken
  obtain ⟨emit', _, rfl⟩ := Option.map_eq_some_iff.mp htoken'
  rw [h.token_eq]
  rfl

end Call.Parallels

namespace Call

/-- Pairs of calls less those whose rules are among the turned ones. -/
def unturned (turned : Rule → Rule → Bool) (pairs : List (Call × Call)) : List (Call × Call) :=
  pairs.filter fun pair => !turned pair.1.firing.rule pair.2.firing.rule

/-- Where one side of each pair asks for what the other does, or for nothing if the rules are turned, it has
the tokens of the other less those of the turned rules. -/
theorem filterMap_unturned {turned : Rule → Rule → Bool} {label : Option String} {pairs : List (Call × Call)}
    {side other : Call × Call → Call}
    (htoken : ∀ pair ∈ pairs, (side pair).firing.token label = (other pair).firing.token label)
    (hturned : ∀ pair ∈ pairs, (side pair).emit =
      if turned pair.1.firing.rule pair.2.firing.rule then none else (other pair).emit) :
    pairs.filterMap (fun pair => (side pair).token? label) =
      (unturned turned pairs).filterMap fun pair => (other pair).token? label := by
  rw [unturned, List.filterMap_filter]
  refine List.filterMap_congr fun pair hpair => ?_
  rw [token?, hturned pair hpair, htoken pair hpair]
  cases turned pair.1.firing.rule pair.2.firing.rule <;> rfl

end Call

namespace Definition

variable {d d' : Definition} {text : Array Char} {s t : Boundary} {f : Firing} {call : Call}

theorem SamePatterns.select_agree (h : d.SamePatterns d') (env : Environment) (text : Array Char) (place : Nat) :
    Agree (Option.Rel fun c' c => c'.found = c.found ∧ d.Corresponds d' env.state c.rule c'.rule)
      (d'.select env text place) (d.select env text place) := by
  rw [select_eq_search, select_eq_search, h.policy]
  refine Policy.search_agree (fun c' c hc => ?_) ?_
  · rw [Candidate.length, Candidate.length, hc.1]
  · obtain ⟨hlength, hrules⟩ := List.forall₂_iff_zip.mp (h.rules env.state)
    refine List.Forall₂.flip (List.forall₂_iff_zip.mpr ⟨hlength, fun {rule rule'} hzip => ?_⟩)
    exact (hrules hzip).ofRule_agree env.flags text fun found advances => ⟨rfl, hzip⟩

/-- Where a rule fires, the rule in its place fires on the same match. -/
theorem Fires.parallel (h : d.Fires text s f) (hsame : d.SamePatterns d') :
    ∃ rule', d.Corresponds d' f.state f.rule rule' ∧ d'.Fires text s { f with rule := rule' } := by
  obtain ⟨c, hc, rfl⟩ := h.selected
  have hagree := hsame.select_agree s.env text s.cursor.offset
  rw [hc] at hagree
  obtain ⟨c'?, hc', hrelated⟩ := hagree.exists_ok
  cases hrelated with
  | some hrelated => exact ⟨_, hrelated.2, h.inside, _, hc', by rw [← hrelated.1]⟩

theorem SamePatterns.select_eq_none (h : d.SamePatterns d') {env : Environment} {place : Nat}
    (hselect : d.select env text place = .ok none) : d'.select env text place = .ok none := by
  have hagree := h.select_agree env text place
  rw [hselect] at hagree
  obtain ⟨c'?, hc', hrelated⟩ := hagree.exists_ok
  cases hrelated
  exact hc'

/-- From one boundary the two take steps to one boundary, as far as the first one's action goes through. -/
theorem Step.parallel (h : d.Step text s call t) (hsame : d.SamePatterns d')
    (hacts : ∀ rule', d.Corresponds d' call.firing.state call.firing.rule rule' →
      call.firing.rule.action.ActsLike rule'.action { s.env with lastMatch := some call.firing.found } call.chunk) :
    ∃ call', d'.Step text s call' t ∧ Call.Parallels d d' call call' := by
  obtain ⟨rule', hcorresponds, fires'⟩ := h.fires.parallel hsame
  obtain ⟨emit, emit', last, ⟨v, hv, _⟩, v', hv', hemit'⟩ := hacts rule' hcorresponds
  have hlast : last = t.env := (Prod.mk.inj (hv.symm.trans h.acts)).2
  refine ⟨⟨_, v', emit'⟩, ⟨fires', ?_, hemit', h.moves⟩, hcorresponds, rfl⟩
  rw [← hlast]
  exact hv'

section Pass

variable {source : String} {env : Environment} {calls : List Call}

theorem Steps.parallel (h : d.Steps source.toList.toArray (.start env) calls t) (hsame : d.SamePatterns d')
    (hacts : d.ActsLike d' source env) :
    ∃ calls', d'.Steps source.toList.toArray (.start env) calls' t ∧
      List.Forall₂ (Call.Parallels d d') calls calls' := by
  induction h with
  | nil => exact ⟨[], .nil, .nil⟩
  | snoc before step ih =>
    obtain ⟨calls', before', hcalls⟩ := ih
    obtain ⟨call', step', hcall⟩ :=
      step.parallel hsame fun rule' => hacts _ _ _ rule' before step.fires
    exact ⟨calls' ++ [call'], .snoc before' step', List.rel_append hcalls (.cons hcall .nil)⟩

/-- Neither has a rule that cannot be tried or an action that raises, so a pass ends with its source or
where nothing matches. -/
theorem Ends.consumed_or_none {r : Run} (hends : d.Ends source.toList.toArray t r) (htextual : d.Textual)
    (steps : d.Steps source.toList.toArray (.start env) calls t) (hsame : d.SamePatterns d')
    (hacts : d.ActsLike d' source env) :
    source.toList.toArray.size ≤ t.cursor.offset ∨ t.cursor.offset < source.toList.toArray.size ∧
      d.select t.env source.toList.toArray t.cursor.offset = .ok none := by
  have hasks : ∀ {f}, d.Fires source.toList.toArray t f → ∃ emit last,
      f.rule.action.Asks { t.env with lastMatch := some f.found } f.chunk emit last := by
    intro f fires
    obtain ⟨rule', hcorresponds, _⟩ := fires.parallel hsame
    obtain ⟨emit, _, last, hasks, _⟩ := hacts calls t f rule' steps fires hcorresponds
    exact ⟨emit, last, hasks⟩
  cases hends with
  | done consumed => exact .inl consumed
  | stuck inside none => exact .inr ⟨inside, none⟩
  | refused inside error =>
    obtain ⟨c?, hc⟩ : ∃ c?, d.select t.env source.toList.toArray t.cursor.offset = .ok c? := d.exists_select htextual
    cases error.symm.trans hc
  | raised fires acts =>
    obtain ⟨emit, last, v, hv, _⟩ := hasks fires
    cases (Prod.mk.inj (acts.symm.trans hv)).1
  | rejected fires acts rejected =>
    obtain ⟨emit, last, v, hv, hemit⟩ := hasks fires
    cases (Prod.mk.inj (acts.symm.trans hv)).1
    cases rejected.symm.trans hemit

/-- However it is labelled and traced, the pass leaves this environment and gives this answer. -/
def Yields (d : Definition) (source : String) (env last : Environment)
    (answer : Option String → Except Fault (List Token)) : Prop :=
  ∀ label trace, (d.lex source env label trace).environment = last ∧
    (d.lex source env label trace).answer = answer label

theorem Steps.yields_of_consumed (h : d.Steps source.toList.toArray (.start env) calls t)
    (consumed : source.toList.toArray.size ≤ t.cursor.offset) :
    d.Yields source env t.env fun label =>
      t.env.readTokens (.ok (calls.filterMap (·.token? label) ++ [.endOfStream])) := by
  intro label trace
  have hdone : d.runFrom source.toList.toArray t = .done t.cursor t.env := (Ends.done consumed).runFrom_eq
  rw [Lexed.answer, h.lex_eq, hdone]
  exact ⟨rfl, rfl⟩

theorem Steps.yields_of_none (h : d.Steps source.toList.toArray (.start env) calls t)
    (inside : t.cursor.offset < source.toList.toArray.size)
    (none : d.select t.env source.toList.toArray t.cursor.offset = .ok none) :
    d.Yields source env t.env fun label =>
      .error (.unmatched (Run.unmatched source.toList.toArray label t.cursor)) := by
  intro label trace
  have hstuck : d.runFrom source.toList.toArray t = .stuck t.cursor t.env :=
    (Ends.stuck inside none).runFrom_eq
  rw [Lexed.answer, h.lex_eq, hstuck]
  exact ⟨rfl, rfl⟩

/-- Two passes that cut a source up alike: rules in the same places fire on the same chunks, and both passes
end at one boundary, consumed or stuck. Where both ask for a token, the tokens have one position. Let some
rules be turned, so that one pass has no tokens of theirs and all others ask for the same; then it has the
tokens of the other pass less those of the turned rules. -/
structure SegmentLike (d d' : Definition) (source : String) (env : Environment) (calls calls' : List Call)
    (last : Boundary) : Prop where
  steps : d.Steps source.toList.toArray (.start env) calls last
  steps' : d'.Steps source.toList.toArray (.start env) calls' last
  parallel : List.Forall₂ (Call.Parallels d d') calls calls'
  chunks : calls.map (·.chunk) = calls'.map (·.chunk)
  answers :
    (d.Yields source env last.env fun label =>
        last.env.readTokens (.ok (calls.filterMap (·.token? label) ++ [.endOfStream]))) ∧
      (d'.Yields source env last.env fun label =>
        last.env.readTokens (.ok (calls'.filterMap (·.token? label) ++ [.endOfStream]))) ∨
    (d.Yields source env last.env fun label =>
        .error (.unmatched (Run.unmatched source.toList.toArray label last.cursor))) ∧
      d'.Yields source env last.env fun label =>
        .error (.unmatched (Run.unmatched source.toList.toArray label last.cursor))
  positions : ∀ label, ∀ pair ∈ calls.zip calls', ∀ token ∈ pair.1.token? label,
    ∀ token' ∈ pair.2.token? label, token.position = token'.position
  inserted : ∀ label (turned : Rule → Rule → Bool),
    (∀ pair ∈ calls.zip calls',
      pair.1.emit = if turned pair.1.firing.rule pair.2.firing.rule then none else pair.2.emit) →
    calls.filterMap (·.token? label) =
      (Call.unturned turned (calls.zip calls')).filterMap (·.2.token? label)
  removed : ∀ label (turned : Rule → Rule → Bool),
    (∀ pair ∈ calls.zip calls',
      pair.2.emit = if turned pair.1.firing.rule pair.2.firing.rule then none else pair.1.emit) →
    calls'.filterMap (·.token? label) =
      (Call.unturned turned (calls.zip calls')).filterMap (·.1.token? label)

/-- Segmentation does not depend on what actions answer: with the same patterns and actions that make the same
changes, two passes from one environment cut the source up alike. -/
theorem segmentation_ignores_answers (d d' : Definition) (source : String) (env : Environment)
    (htextual : d.Textual) (hsame : d.SamePatterns d') (hacts : d.ActsLike d' source env) :
    ∃ calls calls' last, d.SegmentLike d' source env calls calls' last := by
  obtain ⟨calls, last, steps, hends⟩ := d.exists_steps source.toList.toArray (.start env)
  obtain ⟨calls', steps', hcalls⟩ := steps.parallel hsame hacts
  have hpairs : ∀ pair ∈ calls.zip calls', Call.Parallels d d' pair.1 pair.2 :=
    fun pair hpair => (List.forall₂_iff_zip.mp hcalls).2 hpair
  have hfst : (calls.zip calls').map Prod.fst = calls := List.map_fst_zip (Nat.le_of_eq hcalls.length_eq)
  have hsnd : (calls.zip calls').map Prod.snd = calls' := List.map_snd_zip (Nat.le_of_eq hcalls.length_eq.symm)
  refine ⟨calls, calls', last, steps, steps', hcalls, ?_, ?_, ?_, ?_, ?_⟩
  · rw [← List.forall₂_eq_eq_eq, List.forall₂_map_left_iff, List.forall₂_map_right_iff]
    exact hcalls.imp fun call call' h => h.chunk_eq
  · rcases hends.consumed_or_none htextual steps hsame hacts with consumed | ⟨inside, none⟩
    · exact .inl ⟨steps.yields_of_consumed consumed, steps'.yields_of_consumed consumed⟩
    · exact .inr ⟨steps.yields_of_none inside none,
        steps'.yields_of_none inside (hsame.select_eq_none none)⟩
  · intro label pair hpair token htoken token' htoken'
    exact (hpairs pair hpair).position_eq htoken htoken'
  · intro label turned hturned
    calc calls.filterMap (·.token? label)
        = ((calls.zip calls').map Prod.fst).filterMap (·.token? label) := by rw [hfst]
      _ = (calls.zip calls').filterMap (·.1.token? label) := List.filterMap_map
      _ = _ := Call.filterMap_unturned (fun pair hpair => (hpairs pair hpair).token_eq label) hturned
  · intro label turned hturned
    calc calls'.filterMap (·.token? label)
        = ((calls.zip calls').map Prod.snd).filterMap (·.token? label) := by rw [hsnd]
      _ = (calls.zip calls').filterMap (·.2.token? label) := List.filterMap_map
      _ = _ := Call.filterMap_unturned (fun pair hpair => ((hpairs pair hpair).token_eq label).symm) hturned

end Pass

end Definition

def digitsRule (action : Action) : Rule := Calculator.compiled "[0-9]+" Calculator.digits action

def markRule (mark : Value) : Rule :=
  Calculator.compiled ";" (.char (.single .exact ';'.toNat))
    (.perform "mark" fun _ => do modify (·.push "note"); return mark)

/-- Numbers, and a mark that begins a note, in which there are numbers but no mark. -/
def notes (mark note : Value) : Definition where
  table := ⟨[
    (defaultState, [digitsRule (.perform "number" fun _ => pure (.str "NUM")), markRule mark]),
    ("note", [digitsRule (.perform "note" fun _ => pure note)])]⟩
  policy := .longest
  start := defaultState

theorem get_notes (mark note : Value) (state : String) :
    (notes mark note).table.get state =
      if state = defaultState then
        [digitsRule (.perform "number" fun _ => pure (.str "NUM")), markRule mark]
      else if state = "note" then [digitsRule (.perform "note" fun _ => pure note)]
      else [] := by
  simp only [RuleTable.get, notes, RuleTable.lookup_cons_ite, List.lookup_nil]
  split
  · rfl
  · split <;> rfl

theorem notes_samePatterns (mark note mark' note' : Value) :
    (notes mark note).SamePatterns (notes mark' note') where
  policy := rfl
  rules state := by
    rw [get_notes, get_notes]
    split
    · exact .cons ⟨rfl, fun _ => .rfl⟩ (.cons ⟨rfl, fun _ => .rfl⟩ .nil)
    · split
      · exact .cons ⟨rfl, fun _ => .rfl⟩ .nil
      · exact .nil

theorem notes_actsLike (source : String) (env : Environment) :
    (notes .null (.str "NOTE")).ActsLike (notes (.str "MARK") (.bool false)) source env := by
  intro calls s f rule' _ _ hcorresponds
  rw [Definition.Corresponds, get_notes, get_notes] at hcorresponds
  split at hcorresponds
  · rcases List.mem_cons.mp hcorresponds with h | h
    · obtain ⟨hrule, rfl⟩ := Prod.mk.inj h
      rw [hrule]
      exact ⟨_, _, _, ⟨_, rfl, rfl⟩, _, rfl, rfl⟩
    · obtain ⟨hrule, rfl⟩ := Prod.mk.inj (List.mem_singleton.mp h)
      rw [hrule]
      exact ⟨_, _, _, ⟨_, rfl, rfl⟩, _, rfl, rfl⟩
  · split at hcorresponds
    · obtain ⟨hrule, rfl⟩ := Prod.mk.inj (List.mem_singleton.mp hcorresponds)
      rw [hrule]
      exact ⟨_, _, _, ⟨_, rfl, rfl⟩, _, rfl, rfl⟩
    · cases hcorresponds

theorem segmentation_ignores_answers_notes :
    (notes .null (.str "NOTE")).Textual ∧
      (notes .null (.str "NOTE")).SamePatterns (notes (.str "MARK") (.bool false)) ∧
      (notes .null (.str "NOTE")).ActsLike (notes (.str "MARK") (.bool false)) "7;8;" (.plain defaultState) ∧
      ∃ calls calls' last, (notes .null (.str "NOTE")).SegmentLike (notes (.str "MARK") (.bool false)) "7;8;"
        (.plain defaultState) calls calls' last := by
  have htextual : (notes .null (.str "NOTE")).Textual := Definition.textual_of_all rfl
  have hsame := notes_samePatterns .null (.str "NOTE") (.str "MARK") (.bool false)
  have hacts := notes_actsLike "7;8;" (.plain defaultState)
  exact ⟨htextual, hsame, hacts,
    Definition.segmentation_ignores_answers _ _ "7;8;" (.plain defaultState) htextual hsame hacts⟩

end Lexing
