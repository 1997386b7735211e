import Lexing.Rule

/-! What a match tells of the text and the place it was tried at. A walk never makes up a result: what
it answers was answered by its continuation, somewhere further on. -/
namespace Lexing
namespace Pattern

/-- Every result of the walk is one of its continuation. -/
def Walk.Sound {text : Array Char} (a : Walk text) : Prop :=
  ∀ (β : Type) (p : Place text) (k : (q : Place text) → p.offset ≤ q.offset → Option β) (x : β),
    a β p k = some x → ∃ q hq, k q hq = some x

namespace Walk

variable {text : Array Char}

theorem stay_sound : (stay : Walk text).Sound := by
  intro β p k x h
  exact ⟨p, Nat.le_refl _, h⟩

theorem fail_sound : (fail : Walk text).Sound := by
  intro β p k x h
  cases h

theorem when_sound (condition : Place text → Bool) : (when condition).Sound := by
  intro β p k x h
  unfold when at h
  split at h
  · exact ⟨p, Nat.le_refl _, h⟩
  · cases h

theorem mark_sound (update : Marks → Nat → Marks) : (mark update : Walk text).Sound := by
  intro β p k x h
  exact ⟨_, _, h⟩

theorem one_sound (test : Char → Bool) : (one test : Walk text).Sound := by
  intro β p k x h
  unfold one at h
  split at h
  · split at h
    · exact ⟨_, _, h⟩
    · cases h
  · cases h

theorem andThen_sound {a b : Walk text} (ha : a.Sound) (hb : b.Sound) : (a.andThen b).Sound := by
  intro β p k x h
  obtain ⟨q, hq, h⟩ := ha β p _ x h
  obtain ⟨r, hr, h⟩ := hb β q _ x h
  exact ⟨r, Nat.le_trans hq hr, h⟩

theorem orElse_sound {a b : Walk text} (ha : a.Sound) (hb : b.Sound) : (a.orElse b).Sound := by
  intro β p k x h
  unfold orElse at h
  rcases Option.or_eq_some_iff.mp h with h | ⟨_, h⟩
  · exact ha β p k x h
  · exact hb β p k x h

theorem atomic_sound (a : Walk text) : a.atomic.Sound := by
  intro β p k x h
  unfold atomic at h
  split at h
  · exact ⟨_, _, h⟩
  · cases h

theorem look_sound (back : Nat) (wanted : Bool) (a : Walk text) : (look back wanted a).Sound := by
  intro β p k x h
  unfold look at h
  extract_lets found at h
  clear_value found
  cases wanted with
  | true =>
    cases found with
    | none => cases h
    | some marks => exact ⟨_, _, h⟩
  | false =>
    cases found with
    | none => exact ⟨_, _, h⟩
    | some marks => cases h

theorem again_sound (fold : Char → Nat) (start stop : Nat) :
    (again fold start stop : Walk text).Sound := by
  fun_induction again fold start stop with
  | case1 start _ c _ ih => exact andThen_sound (one_sound _) ih
  | case2 => exact fail_sound
  | case3 => exact stay_sound

/-! Loops end as their continuation does, whatever the number of rounds. -/

section Loops

variable {a : Walk text} {β : Type} {start : Nat}
  {k : (q : Place text) → start ≤ q.offset → Option β} {x : β}

theorem exists_of_exactly (ha : a.Sound) {j : (q : Place text) → start ≤ q.offset → Option β}
    (hj : ∀ q hq, j q hq = some x → ∃ r hr, k r hr = some x) (n : Nat) (p : Place text)
    (hp : start ≤ p.offset) (h : exactly a j n p hp = some x) : ∃ q hq, k q hq = some x := by
  induction n generalizing p with
  | zero => exact hj p hp h
  | succ n ih =>
    obtain ⟨q, hq, h⟩ := ha β p _ x h
    exact ih q (Nat.le_trans hp hq) h

theorem exists_of_greedy (ha : a.Sound) (most : Option Nat) (p : Place text) (hp : start ≤ p.offset)
    (h : greedy a k most p hp = some x) : ∃ q hq, k q hq = some x := by
  fun_induction greedy a k most p hp with
  | case1 p hp => exact ⟨p, hp, h⟩
  | case2 most p hp _ ih =>
    rcases Option.or_eq_some_iff.mp h with h | ⟨_, h⟩
    · obtain ⟨q, hq, h⟩ := ha β p _ x h
      split at h
      · next forward => exact ih q hq forward h
      · exact ⟨q, _, h⟩
    · exact ⟨p, hp, h⟩

theorem exists_of_lazy (ha : a.Sound) (most : Option Nat) (p : Place text) (hp : start ≤ p.offset)
    (h : lazy a k most p hp = some x) : ∃ q hq, k q hq = some x := by
  fun_induction lazy a k most p hp with
  | case1 most p hp ih =>
    rcases Option.or_eq_some_iff.mp h with h | ⟨_, h⟩
    · exact ⟨p, hp, h⟩
    · split at h
      · cases h
      · obtain ⟨q, hq, h⟩ := ha β p _ x h
        split at h
        · next forward => exact ih q hq forward h
        · exact ⟨q, _, h⟩

theorem exists_of_possessive (most : Option Nat) (p : Place text) (hp : start ≤ p.offset)
    (h : possessive a k most p hp = some x) : ∃ q hq, k q hq = some x := by
  fun_induction possessive a k most p hp with
  | case1 p hp => exact ⟨p, hp, h⟩
  | case2 most p hp => exact ⟨p, hp, h⟩
  | case3 most p hp _ q hq _ forward ih => exact ih h
  | case4 most p hp _ q hq => exact ⟨q, _, h⟩

theorem rounds_sound (ha : a.Sound) (greed : Greed) (least : Nat) (most : Option Nat) :
    (a.rounds greed least most).Sound := by
  intro β p k x h
  cases greed with
  | greedy => exact exists_of_exactly ha (fun q hq h => exists_of_greedy ha _ q hq h) least p _ h
  | lazy => exact exists_of_exactly ha (fun q hq h => exists_of_lazy ha _ q hq h) least p _ h
  | possessive =>
    exact exists_of_exactly (atomic_sound a) (fun q hq h => exists_of_possessive _ q hq h) least p _ h

end Loops

end Walk

theorem Node.walk_sound (text : Array Char) (node : Node) : (node.walk text).Sound := by
  induction node with
  | empty => exact Walk.stay_sound
  | char set => exact Walk.one_sound _
  | anchor kind => exact Walk.when_sound _
  | seq a b iha ihb => exact Walk.andThen_sound iha ihb
  | alt a b iha ihb => exact Walk.orElse_sound iha ihb
  | capture group body ih =>
    exact Walk.andThen_sound (Walk.mark_sound _) (Walk.andThen_sound ih (Walk.mark_sound _))
  | reference group folding =>
    intro β p k x h
    unfold Node.walk at h
    split at h
    · exact Walk.again_sound _ _ _ β p k x h
    · cases h
  | repetition least most greed body ih => exact Walk.rounds_sound ih greed least most
  | atomic body ih => exact Walk.atomic_sound _
  | «scoped» body ih => exact ih
  | ahead wanted body ih => exact Walk.look_sound 0 wanted _
  | behind wanted width body ih => exact Walk.look_sound width.least wanted _
  | choice group yes no ihyes ihno =>
    intro β p k x h
    unfold Node.walk at h
    split at h
    · exact ihyes β p k x h
    · exact ihno β p k x h

/-- A match is one of the text it was looked for in, and begins where it was looked for. -/
theorem matchAt_eq_some {pattern : Pattern} {text : Array Char} {start : Nat} {found : Match}
    (h : pattern.matchAt text start = some found) : found.text = text ∧ found.start = start := by
  unfold matchAt at h
  split at h
  · obtain ⟨q, hq, h⟩ := pattern.tree.walk_sound text _ _ _ _ h
    cases h
    exact ⟨rfl, rfl⟩
  · cases h

end Pattern

/-- What stands before a stretch, and then the stretch, is all that stands before its end. -/
theorem take_append_slice (text : Array Char) {start stop : Nat} (h : start ≤ stop) :
    text.toList.take start ++ (slice text start stop).toList = text.toList.take stop := by
  rw [slice, String.toList_ofList, Array.toList_extract, List.extract_eq_take_drop, ← List.take_add,
    Nat.add_sub_cancel' h]

theorem Match.take_append_found (m : Match) :
    m.text.toList.take m.start ++ m.found.toList = m.text.toList.take m.stop :=
  take_append_slice m.text m.start_le_stop

theorem Match.length_found (m : Match) : m.found.length = m.length := by
  have h := congrArg List.length m.take_append_found
  have hstop : m.stop ≤ m.text.toList.length := by simpa using m.stop_le_size
  have hstart := m.start_le_stop
  rw [List.length_append, List.length_take_of_le hstop, List.length_take_of_le (by omega),
    String.length_toList] at h
  rw [Match.length]
  omega

theorem Matcher.tryAt_eq_some {matcher : Matcher} {text : Array Char} {place : Nat} {found : Match}
    (h : matcher.tryAt text place = .ok (some found)) : found.text = text ∧ found.start = place := by
  cases matcher with
  | text pattern => exact Pattern.matchAt_eq_some (Except.ok.inj h)
  | bytes source => cases h

end Lexing
