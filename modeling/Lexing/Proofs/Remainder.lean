import Lexing.Proofs.LineTracking
import Lexing.Proofs.SuffixLocality
import Mathlib.Data.List.Forall2

/-! What is left of a run is a run of its own, over what is left of the source. The two are taken through
step by step: from boundaries that correspond, the same rule fires on the same texts, and they come to
boundaries that correspond. -/
namespace Lexing

/-- Two outcomes that fail alike, or give related results. -/
inductive Agree {α β : Type} (R : α → β → Prop) : Except Fault α → Except Fault β → Prop
  | error (fault : Fault) : Agree R (.error fault) (.error fault)
  | ok {a : α} {b : β} (related : R a b) : Agree R (.ok a) (.ok b)

theorem Agree.bind {α β γ δ : Type} {R : α → β → Prop} {S : γ → δ → Prop} {x : Except Fault α}
    {y : Except Fault β} {f : α → Except Fault γ} {g : β → Except Fault δ} (h : Agree R x y)
    (hfg : ∀ a b, R a b → Agree S (f a) (g b)) : Agree S (x >>= f) (y >>= g) := by
  cases h with
  | error fault => exact .error fault
  | ok related => exact hfg _ _ related

theorem Agree.eq_error {α β : Type} {R : α → β → Prop} {x : Except Fault α} {fault : Fault}
    (h : Agree R x (.error fault)) : x = .error fault := by
  cases h
  rfl

theorem Agree.exists_ok {α β : Type} {R : α → β → Prop} {x : Except Fault α} {b : β}
    (h : Agree R x (.ok b)) : ∃ a, x = .ok a ∧ R a b := by
  cases h with
  | ok related => exact ⟨_, rfl, related⟩

/-! ## Searches

A search weighs candidates by their lengths alone, so it comes to corresponding candidates where trying the
rules one by one does. -/

section

variable {flags flags' : FlagSet} {text text' : Array Char} {place place' : Nat} {rules rules' : List Rule}
  {R : Candidate place → Candidate place' → Prop}

theorem Candidate.longer_agree (hlength : ∀ c c', R c c' → c.length = c'.length)
    {best other : Option (Candidate place)} {best' other' : Option (Candidate place')}
    (h : Option.Rel R best best') (hother : Option.Rel R other other') :
    Option.Rel R (longer best other) (longer best' other') := by
  cases h with
  | none => exact hother
  | some h =>
    cases hother with
    | none => exact .some h
    | some hother =>
      rw [longer_some, longer_some, hlength _ _ h, hlength _ _ hother]
      split
      · exact .some hother
      · exact .some h

theorem longestCandidate_agree (hlength : ∀ c c', R c c' → c.length = c'.length)
    (h : List.Forall₂ (fun rule rule' => Agree (Option.Rel R) (Candidate.ofRule flags text place rule)
      (Candidate.ofRule flags' text' place' rule')) rules rules')
    {best : Option (Candidate place)} {best' : Option (Candidate place')} (hbest : Option.Rel R best best') :
    Agree (Option.Rel R) (longestCandidate flags text place best rules)
      (longestCandidate flags' text' place' best' rules') := by
  induction h generalizing best best' with
  | nil => exact .ok hbest
  | cons hrule _ ih =>
    apply hrule.bind
    intro c c' hc
    exact ih (Candidate.longer_agree hlength hbest hc)

theorem firstCandidate_agree
    (h : List.Forall₂ (fun rule rule' => Agree (Option.Rel R) (Candidate.ofRule flags text place rule)
      (Candidate.ofRule flags' text' place' rule')) rules rules') :
    Agree (Option.Rel R) (firstCandidate flags text place rules)
      (firstCandidate flags' text' place' rules') := by
  induction h with
  | nil => exact .ok .none
  | cons hrule _ ih =>
    apply hrule.bind
    intro c c' hc
    cases hc with
    | some hc => exact .ok (.some hc)
    | none => exact ih

theorem Policy.search_agree {policy : Policy} (hlength : ∀ c c', R c c' → c.length = c'.length)
    (h : List.Forall₂ (fun rule rule' => Agree (Option.Rel R) (Candidate.ofRule flags text place rule)
      (Candidate.ofRule flags' text' place' rule')) rules rules') :
    Agree (Option.Rel R) (policy.search flags text place rules)
      (policy.search flags' text' place' rules') := by
  cases policy with
  | longest => exact longestCandidate_agree hlength h .none
  | first => exact firstCandidate_agree h

end

/-! ## Matches -/

/-- What can be read off two matches, their places apart. -/
structure Match.SameTexts (m n : Match) : Prop where
  found : m.found = n.found
  groupTexts : m.groupTexts = n.groupTexts
  names : m.names = n.names

theorem Match.SameTexts.refl (m : Match) : m.SameTexts m := ⟨rfl, rfl, rfl⟩

namespace Matcher

def SuffixLocal : Matcher → Prop
  | .text pattern => pattern.SuffixLocal
  | .bytes _ => True

def looksBack : Matcher → Bool
  | .text pattern => pattern.tree.looksBack
  | .bytes _ => false

end Matcher

/-- The first match is the second, found further on in a longer text. If the pattern looks back, where
its groups lie need not be told by the rest of the text, even if what they hold is. -/
structure Match.Follows (matcher : Matcher) (gap : Nat) (m n : Match) : Prop where
  start : m.start = gap + n.start
  stop : m.stop = gap + n.stop
  texts : m.SameTexts n
  groups : matcher.looksBack = false → m.groups = n.groups.map (Option.map (Pattern.moveSpan gap))

theorem Pattern.names_of_matchAt {pattern : Pattern} {text : Array Char} {start : Nat} {found : Match}
    (h : pattern.matchAt text start = some found) : found.names = pattern.names := by
  unfold matchAt at h
  split at h
  · obtain ⟨q, hq, h⟩ := pattern.tree.walk_sound text _ _ _ _ h
    cases h
    rfl
  · cases h

section

variable {text rest : Array Char} {gap place : Nat}

theorem Pattern.LeftOf.drop_eq (hrest : LeftOf rest text gap) (place : Nat) :
    text.toList.drop (gap + place) = rest.toList.drop place := by
  apply List.ext_getElem?
  intro i
  simp only [List.getElem?_drop, Array.getElem?_toList, Nat.add_assoc, hrest.get]

theorem Matcher.tryAt_follows (hrest : Pattern.LeftOf rest text gap) {matcher : Matcher}
    (hlocal : matcher.SuffixLocal) (hplace : place ≤ rest.size) :
    Agree (Option.Rel (Match.Follows matcher gap)) (matcher.tryAt text (gap + place))
      (matcher.tryAt rest place) := by
  cases matcher with
  | bytes source => exact .error _
  | text pattern =>
    have hgap : gap + place ≤ text.size := by
      have hsize := hrest.size
      omega
    have htexts := hlocal text rest (gap + place) place hgap hplace (hrest.drop_eq place)
    have hmoved (h : pattern.tree.looksBack = false) := Pattern.matchAt_moved hrest h place
    refine .ok ?_
    cases hm : pattern.matchAt text (gap + place) with
    | none =>
      rw [hm] at htexts
      generalize pattern.matchAt rest place = y at htexts
      cases htexts
      exact .none
    | some m =>
      cases hn : pattern.matchAt rest place with
      | none => rw [hm, hn] at htexts; cases htexts
      | some n =>
        rw [hm, hn, Option.rel_some_some] at htexts
        obtain ⟨hlength, hgroups⟩ := htexts
        obtain ⟨htext, hstart⟩ := Pattern.matchAt_eq_some hm
        obtain ⟨htext', hstart'⟩ := Pattern.matchAt_eq_some hn
        have hstop : m.stop = gap + n.stop := by
          have hm := m.start_le_stop
          have hn := n.start_le_stop
          simp only [Match.length] at hlength
          omega
        refine .some ⟨by omega, hstop, ⟨?_, hgroups, ?_⟩, ?_⟩
        · unfold Match.found
          rw [htext, htext', hstart, hstart', hstop, slice_leftOf hrest]
        · rw [Pattern.names_of_matchAt hm, Pattern.names_of_matchAt hn]
        · intro h
          have hrel := hmoved h
          rw [hm, hn, Option.rel_some_some] at hrel
          exact hrel.1.groups

/-! ## Selection -/

structure Candidate.Follows (gap : Nat) (c : Candidate (gap + place)) (c' : Candidate place) : Prop where
  rule : c.rule = c'.rule
  found : c.found.Follows c'.rule.matcher gap c'.found

namespace Candidate

theorem Follows.length {c : Candidate (gap + place)} {c' : Candidate place} (h : c.Follows gap c') :
    c.length = c'.length := by
  rw [Candidate.length, Candidate.length, h.found.stop, Nat.add_sub_add_left]

theorem ofRule_follows (hrest : Pattern.LeftOf rest text gap) (flags : FlagSet) {rule : Rule}
    (hlocal : rule.matcher.SuffixLocal) (hplace : place ≤ rest.size) :
    Agree (Option.Rel (Follows gap)) (ofRule flags text (gap + place) rule)
      (ofRule flags rest place rule) := by
  unfold ofRule
  split
  · apply (Matcher.tryAt_follows hrest hlocal hplace).bind
    intro m n hmn
    cases hmn with
    | none => exact .ok .none
    | @some m n hmn =>
      have hlt : gap + place < m.stop ↔ place < n.stop := by
        rw [hmn.stop, Nat.add_lt_add_iff_left]
      by_cases h : place < n.stop
      · simp only [hlt, h, dite_true]
        exact .ok (.some ⟨rfl, hmn⟩)
      · simp only [hlt, h, dite_false]
        exact .ok .none
  · exact .ok .none

end Candidate

theorem Definition.select_follows {d : Definition} (hrest : Pattern.LeftOf rest text gap)
    {env env' : Environment} (hstate : env.state = env'.state) (hflags : env.flags = env'.flags)
    (hlocal : ∀ rule ∈ d.table.get env'.state, rule.matcher.SuffixLocal) (hplace : place ≤ rest.size) :
    Agree (Option.Rel (Candidate.Follows gap)) (d.select env text (gap + place))
      (d.select env' rest place) := by
  rw [select_eq_search, select_eq_search, hstate, hflags]
  refine Policy.search_agree (fun _ _ h => h.length) (List.forall₂_same.mpr fun rule hrule => ?_)
  exact Candidate.ofRule_follows hrest env'.flags (hlocal rule hrule) hplace

end

/-! ## Places -/

/-- What columns differ by, once so much of the rest is consumed: nothing from the first newline on. -/
def Cursor.columnGap (base : Cursor) (rest : Array Char) (offset : Nat) : Nat :=
  if '\n' ∈ rest.toList.take offset then 0 else base.column

/-- A cursor in what is left of a text, as the cursor in the whole text; `base` is where the rest begins. -/
def Cursor.onward (base : Cursor) (rest : Array Char) (c : Cursor) : Cursor :=
  ⟨base.offset + c.offset, c.line + (base.line - 1), c.column + base.columnGap rest c.offset⟩

@[ext] theorem Cursor.ext {c c' : Cursor} (offset : c.offset = c'.offset) (line : c.line = c'.line)
    (column : c.column = c'.column) : c = c' := by
  cases c
  cases c'
  simp_all

theorem Cursor.columnGap_stop (base : Cursor) (rest : Array Char) {start stop : Nat} (h : start ≤ stop) :
    base.columnGap rest stop =
      if '\n' ∈ (slice rest start stop).toList then 0 else base.columnGap rest start := by
  simp only [columnGap, ← take_append_slice rest h, List.mem_append]
  by_cases hchunk : '\n' ∈ (slice rest start stop).toList <;> simp [hchunk]

theorem Cursor.onward_advance {text rest : Array Char} {base : Cursor}
    (hrest : Pattern.LeftOf rest text base.offset) (c : Cursor) {stop : Nat} (h : c.offset ≤ stop) :
    (base.onward rest c).advance text (base.offset + stop) = base.onward rest (c.advance rest stop) := by
  have hslice : slice text (base.onward rest c).offset (base.offset + stop) = slice rest c.offset stop :=
    slice_leftOf hrest c.offset stop
  ext
  · simp only [onward, offset_advance]
  · rw [line_advance, hslice]
    simp only [onward, line_advance]
    omega
  · rw [column_advance, hslice]
    simp only [onward, offset_advance, column_advance, base.columnGap_stop rest h]
    split
    · rfl
    · omega

/-! ## Environments and actions -/

/-- Two environments that differ in the last match at most, and there at most in where it lies. -/
structure Environment.Follows (gap : Nat) (env env' : Environment) : Prop where
  others : env' = { env with lastMatch := env'.lastMatch }
  lastMatch : env.lastMatch = env'.lastMatch ∨
    ∃ matcher m n, env.lastMatch = some m ∧ env'.lastMatch = some n ∧ Match.Follows matcher gap m n

theorem Environment.Follows.refl (gap : Nat) (env : Environment) : env.Follows gap env := ⟨rfl, .inl rfl⟩

namespace Action

/-- Matches with the same texts are the same to the action: it has one outcome for all of them, and
leaves one environment, but that it may leave the match itself in its place. -/
def ReadsTexts (action : Action) : Prop :=
  ∀ (env : Environment) (m : Match), ∃ (outcome : Except Fault Value) (last : Environment) (kept : Bool),
    ∀ n : Match, n.SameTexts m → (action.onMatch n n.found).run env =
      (outcome, if kept then { last with lastMatch := some n } else last)

/-- The match stays the one that was recorded for the action. -/
def KeepsMatch (action : Action) : Prop :=
  ∀ (env : Environment) (m : Match), ((action.onMatch m m.found).run env).2.lastMatch = some m

theorem run_onMatch_follows (action : Action) {gap : Nat} {env env' : Environment}
    (h : env.Follows gap env') (m : Match) (text : String) :
    (action.onMatch m text).run env' = (action.onMatch m text).run env := by
  -- The environments differ in the former match alone, and it is replaced.
  rw [run_onMatch, run_onMatch, h.others]

end Action

/-! ## Runs -/

/-- The same rule fires in the same state, on the same texts, further on. -/
structure Firing.Follows (base : Cursor) (rest : Array Char) (f f' : Firing) : Prop where
  cursor : f.cursor = base.onward rest f'.cursor
  state : f.state = f'.state
  rule : f.rule = f'.rule
  found : f.found.Follows f'.rule.matcher base.offset f'.found

/-- Two runs that fire alike and end alike, one construct at a time. -/
inductive Run.Follows (base : Cursor) (rest : Array Char) : Run → Run → Prop
  | done {c : Cursor} {env env' : Environment} (environment : env.Follows base.offset env') :
      Follows base rest (.done (base.onward rest c) env) (.done c env')
  | stuck {c : Cursor} {env env' : Environment} (environment : env.Follows base.offset env') :
      Follows base rest (.stuck (base.onward rest c) env) (.stuck c env')
  | refused {fault : Fault} {c : Cursor} {env env' : Environment}
      (environment : env.Follows base.offset env') :
      Follows base rest (.refused fault (base.onward rest c) env) (.refused fault c env')
  | failed {f f' : Firing} {fault : Fault} {env env' : Environment} (firing : f.Follows base rest f')
      (environment : env.Follows base.offset env') :
      Follows base rest (.failed f fault env) (.failed f' fault env')
  | fired {f f' : Firing} {emit : Option Emit} {r r' : Run} (firing : f.Follows base rest f')
      (onward : Follows base rest r r') : Follows base rest (.fired f emit r) (.fired f' emit r')

/-- What is asked of the rules for a run not to depend on the text before it. -/
structure Definition.Local (d : Definition) : Prop where
  patterns : ∀ state, ∀ rule ∈ d.table.get state, rule.matcher.SuffixLocal
  actions : ∀ state, ∀ rule ∈ d.table.get state, rule.action.ReadsTexts

theorem Firing.Follows.exists_result {base : Cursor} {rest : Array Char} {f f' : Firing}
    (h : f.Follows base rest f') (hreads : f'.rule.action.ReadsTexts) {env env' last' : Environment}
    (henv : env.Follows base.offset env') {outcome : Except Fault Value}
    (acts : f'.result env' = (outcome, last')) :
    ∃ last, f.result env = (outcome, last) ∧ last.Follows base.offset last' := by
  obtain ⟨same, last, kept, hsame⟩ := hreads env f'.found
  have hresult : f.result env = (same, if kept then { last with lastMatch := some f.found } else last) := by
    rw [result, h.rule, chunk]
    exact hsame f.found h.found.texts
  have hresult' : f'.result env' =
      (same, if kept then { last with lastMatch := some f'.found } else last) := by
    rw [result, Action.run_onMatch_follows _ henv]
    exact hsame f'.found (.refl _)
  obtain ⟨rfl, rfl⟩ := Prod.mk.inj (acts.symm.trans hresult')
  refine ⟨_, hresult, ?_⟩
  cases kept with
  | true => exact ⟨rfl, .inr ⟨_, f.found, f'.found, rfl, rfl, h.found⟩⟩
  | false => exact .refl _ _

/-- The second boundary is one of a run in what is left, the first the same one in the whole text. -/
structure Boundary.Follows (base : Cursor) (rest : Array Char) (s s' : Boundary) : Prop where
  cursor : s.cursor = base.onward rest s'.cursor
  env : s.env.Follows base.offset s'.env

theorem Boundary.Follows.select_follows {d : Definition} {text rest : Array Char} {base : Cursor}
    {s s' : Boundary} (hs : s.Follows base rest s') (hlocal : d.Local)
    (hrest : Pattern.LeftOf rest text base.offset) (inside : s'.cursor.offset < rest.size) :
    Agree (Option.Rel (Candidate.Follows base.offset))
      (d.select s.env text (base.onward rest s'.cursor).offset)
      (d.select s'.env rest s'.cursor.offset) := by
  have hothers := hs.env.others
  apply Definition.select_follows hrest
  · rw [hothers]
  · rw [hothers]
  · exact hlocal.patterns _
  · exact Nat.le_of_lt inside

namespace Definition

variable {d : Definition} {text rest : Array Char} {base : Cursor} {s s' t' : Boundary}

theorem inside_iff (hrest : Pattern.LeftOf rest text base.offset) (hs : s.Follows base rest s') :
    s.cursor.offset < text.size ↔ s'.cursor.offset < rest.size := by
  rw [hs.cursor, hrest.size]
  exact Nat.add_lt_add_iff_left

theorem Fires.follows {f' : Firing} (hlocal : d.Local) (hrest : Pattern.LeftOf rest text base.offset)
    (hs : s.Follows base rest s') (h : d.Fires rest s' f') :
    ∃ f, d.Fires text s f ∧ f.Follows base rest f' := by
  have inside := (inside_iff hrest hs).mpr h.inside
  obtain ⟨c', hc', rfl⟩ := h.selected
  have hselect := hs.select_follows hlocal hrest h.inside
  rw [hc'] at hselect
  obtain ⟨c?, hx, related⟩ := hselect.exists_ok
  obtain ⟨cursor, env⟩ := s
  obtain ⟨rfl, henv⟩ := hs
  cases related with
  | @some c _ hc =>
    have hstate : env.state = s'.env.state := by rw [henv.others]
    exact ⟨_, ⟨inside, c, hx, rfl⟩, ⟨rfl, hstate, hc.rule, hc.found⟩⟩

/-- A step in what is left is a step in the whole text, with the same outcome. -/
theorem Step.follows {call' : Call} (hlocal : d.Local) (hrest : Pattern.LeftOf rest text base.offset)
    (hs : s.Follows base rest s') (h : d.Step rest s' call' t') :
    ∃ call t, d.Step text s call t ∧ call.firing.Follows base rest call'.firing ∧
      call.emit = call'.emit ∧ t.Follows base rest t' := by
  obtain ⟨f, fires, hf⟩ := h.fires.follows hlocal hrest hs
  obtain ⟨last, acts, hlast⟩ := hf.exists_result (hlocal.actions _ _ h.fires.rule_mem) hs.env h.acts
  refine ⟨⟨f, call'.result, call'.emit⟩, ⟨s.cursor.advance text f.found.stop, last⟩,
    ⟨fires, acts, h.understood, rfl⟩, hf, rfl, ⟨?_, hlast⟩⟩
  have hle : s'.cursor.offset ≤ call'.firing.found.stop := Nat.le_of_lt h.fires.eligible.advances
  simp only [hs.cursor, hf.found.stop, Cursor.onward_advance hrest _ hle, h.moves]

theorem Ends.follows {r' : Run} (hlocal : d.Local) (hrest : Pattern.LeftOf rest text base.offset)
    (hs : s.Follows base rest s') (h : d.Ends rest s' r') :
    ∃ r, d.Ends text s r ∧ r.Follows base rest r' := by
  have hinside := inside_iff hrest hs
  have hselect := hs.select_follows hlocal hrest
  obtain ⟨cursor, env⟩ := s
  obtain ⟨rfl, henv⟩ := id hs
  cases h with
  | done consumed =>
    exact ⟨_, .done (Nat.le_of_not_lt fun h => Nat.not_lt.mpr consumed (hinside.mp h)), .done henv⟩
  | stuck inside none =>
    have hselect := hselect inside
    rw [none] at hselect
    obtain ⟨c?, hx, related⟩ := hselect.exists_ok
    cases related
    exact ⟨_, .stuck (hinside.mpr inside) hx, .stuck henv⟩
  | refused inside error =>
    have hselect := hselect inside
    rw [error] at hselect
    exact ⟨_, .refused (hinside.mpr inside) hselect.eq_error, .refused henv⟩
  | raised fires acts =>
    obtain ⟨f, hfires, hf⟩ := fires.follows hlocal hrest hs
    obtain ⟨last, acts, hlast⟩ := hf.exists_result (hlocal.actions _ _ fires.rule_mem) henv acts
    exact ⟨_, .raised hfires acts, .failed hf hlast⟩
  | rejected fires acts rejected =>
    obtain ⟨f, hfires, hf⟩ := fires.follows hlocal hrest hs
    obtain ⟨last, acts, hlast⟩ := hf.exists_result (hlocal.actions _ _ fires.rule_mem) henv acts
    exact ⟨_, .rejected hfires acts rejected, .failed hf hlast⟩

end Definition

end Lexing
