import Lexing.Proofs.Matches

/-! Matches of the two patterns that most rules are made of: one character of a set, and as many of them
as there are. -/
namespace Lexing.Pattern

variable {text : Array Char} {test : Char → Bool} {place : Nat}

theorem any_getElem?_iff :
    text[place]?.any test ↔ ∃ h : place < text.size, test text[place] := by
  rw [Option.any_eq_true]
  simp only [Array.getElem?_eq_some_iff]
  constructor
  · rintro ⟨c, ⟨h, rfl⟩, htest⟩
    exact ⟨h, htest⟩
  · rintro ⟨h, htest⟩
    exact ⟨_, ⟨h, rfl⟩, htest⟩

/-- How many characters pass the test from a place on, up to the first that does not. -/
def runLength (test : Char → Bool) (cs : List Char) (place : Nat) : Nat :=
  ((cs.drop place).takeWhile test).length

section

variable {cs : List Char}

theorem runLength_of_pos (h : cs[place]?.any test) :
    runLength test cs place = runLength test cs (place + 1) + 1 := by
  obtain ⟨c, hc, htest⟩ := (Option.any_eq_true _ _).mp h
  obtain ⟨hlt, rfl⟩ := List.getElem?_eq_some_iff.mp hc
  rw [runLength, List.drop_eq_getElem_cons hlt, List.takeWhile_cons_of_pos htest]
  rfl

theorem runLength_of_neg (h : ¬ cs[place]?.any test) : runLength test cs place = 0 := by
  by_cases hlt : place < cs.length
  · rw [List.getElem?_eq_getElem hlt, Option.any_some] at h
    rw [runLength, List.drop_eq_getElem_cons hlt, List.takeWhile_cons_of_neg h]
    rfl
  · rw [runLength, List.drop_of_length_le (Nat.le_of_not_lt hlt)]
    rfl

theorem any_of_runLength_pos (h : 0 < runLength test cs place) : cs[place]?.any test := by
  refine Decidable.byContradiction fun hneg => ?_
  rw [runLength_of_neg hneg] at h
  exact Nat.lt_irrefl _ h

/-- All of a run passes the test. -/
theorem any_of_lt_runLength {k : Nat} (h : k < runLength test cs place) : cs[place + k]?.any test := by
  induction k generalizing place with
  | zero => exact any_of_runLength_pos h
  | succ k ih =>
    rw [runLength_of_pos (any_of_runLength_pos (Nat.zero_lt_of_lt h))] at h
    rw [← Nat.add_assoc, Nat.add_right_comm]
    exact ih (Nat.lt_of_succ_lt_succ h)

/-- What follows a run does not. -/
theorem not_any_runLength (test : Char → Bool) (cs : List Char) (place : Nat) :
    ¬ cs[place + runLength test cs place]?.any test := by
  by_cases h : cs[place]?.any test
  · have hrest := not_any_runLength test cs (place + 1)
    rwa [runLength_of_pos h, ← Nat.add_assoc, Nat.add_right_comm]
  · rwa [runLength_of_neg h, Nat.add_zero]
termination_by cs.length - place
decreasing_by
  obtain ⟨c, hc, _⟩ := (Option.any_eq_true _ _).mp h
  obtain ⟨hlt, _⟩ := List.getElem?_eq_some_iff.mp hc
  omega

end

namespace Walk

variable {β : Type}

theorem one_of_pos {p : Place text} {k : (q : Place text) → p.offset ≤ q.offset → Option β}
    (h : text[p.offset]?.any test) :
    ∃ inside : p.offset < text.size,
      one test β p k = k ⟨p.offset + 1, p.marks, inside⟩ (Nat.le_succ _) := by
  obtain ⟨inside, htest⟩ := any_getElem?_iff.mp h
  exact ⟨inside, by rw [one, dif_pos inside, if_pos htest]⟩

theorem one_of_neg {p : Place text} {k : (q : Place text) → p.offset ≤ q.offset → Option β}
    (h : ¬ text[p.offset]?.any test) : one test β p k = none := by
  unfold one
  split
  · next inside => rw [if_neg fun htest => h (any_getElem?_iff.mpr ⟨inside, htest⟩)]
  · rfl

/-- A greedy loop stops where the run does, if any place will do to go on from. -/
theorem map_greedy_one {start : Nat} {k : (q : Place text) → start ≤ q.offset → Option β} {stop : β → Nat}
    (hk : ∀ q hq, (k q hq).map stop = some q.offset) (p : Place text) (hp : start ≤ p.offset) :
    (greedy (one test) k none p hp).map stop = some (p.offset + runLength test text.toList p.offset) := by
  rw [greedy, if_neg nofun]
  by_cases h : text[p.offset]?.any test
  · obtain ⟨inside, hone⟩ := one_of_pos h
    have hrest := map_greedy_one hk ⟨p.offset + 1, p.marks, inside⟩ (Nat.le_succ_of_le hp)
    obtain ⟨x, hgreedy, hstop⟩ := Option.map_eq_some_iff.mp hrest
    have hrun : runLength test text.toList p.offset = runLength test text.toList (p.offset + 1) + 1 :=
      runLength_of_pos (by rwa [Array.getElem?_toList])
    rw [hone, dif_pos (Nat.lt_succ_self _), Option.map_none, hgreedy, Option.some_or, Option.map_some,
      hstop, hrun]
    dsimp only
    congr 1
    omega
  · rw [one_of_neg h, Option.none_or, hk, runLength_of_neg (by rwa [Array.getElem?_toList]), Nat.add_zero]
termination_by text.size - p.offset
decreasing_by
  -- A round takes one character.
  omega

end Walk

variable {pattern : Pattern} {set : CharSet}

theorem matchAt_char (text : Array Char) (place : Nat) (htree : pattern.tree = .char set) :
    (pattern.matchAt text place).map (·.stop) =
      if text[place]?.any set.admits then some (place + 1) else none := by
  unfold matchAt
  rw [htree, Node.walk]
  by_cases h : text[place]?.any set.admits
  · obtain ⟨inside, _⟩ := any_getElem?_iff.mp h
    rw [dif_pos (Nat.le_of_lt inside), if_pos h]
    obtain ⟨_, hone⟩ := Walk.one_of_pos (p := ⟨place, _, Nat.le_of_lt inside⟩) h
    rw [hone, Option.map_some]
  · rw [if_neg h]
    split
    · rw [Walk.one_of_neg h, Option.map_none]
    · rfl

theorem matchAt_run (text : Array Char) (place : Nat)
    (htree : pattern.tree = .repetition 1 none .greedy (.char set)) :
    (pattern.matchAt text place).map (·.stop) =
      if text[place]?.any set.admits then some (place + runLength set.admits text.toList place)
      else none := by
  unfold matchAt
  rw [htree, Node.walk, Node.walk]
  unfold Walk.rounds
  simp only [Walk.exactly, Option.map_none]
  by_cases h : text[place]?.any set.admits
  · obtain ⟨inside, _⟩ := any_getElem?_iff.mp h
    rw [dif_pos (Nat.le_of_lt inside), if_pos h]
    obtain ⟨_, hone⟩ := Walk.one_of_pos (p := ⟨place, _, Nat.le_of_lt inside⟩) h
    have hrun : runLength set.admits text.toList place = runLength set.admits text.toList (place + 1) + 1 :=
      runLength_of_pos (by rwa [Array.getElem?_toList])
    rw [hone, Walk.map_greedy_one, hrun]
    · dsimp only
      congr 1
      omega
    · intro q hq
      rfl
  · rw [if_neg h]
    split
    · rw [Walk.one_of_neg h, Option.map_none]
    · rfl

/-- What the stops say about the matches themselves. -/
theorem matches_of_stops {x : Option Match} {can : Bool} {stop : Nat}
    (h : x.map (·.stop) = if can then some stop else none) :
    (∀ found, x = some found → can ∧ found.stop = stop) ∧
      (can → ∃ found, x = some found ∧ found.stop = stop) := by
  cases can with
  | true =>
    obtain ⟨found, rfl, hstop⟩ := Option.map_eq_some_iff.mp h
    exact ⟨fun _ hfound => Option.some.inj hfound ▸ ⟨rfl, hstop⟩, fun _ => ⟨found, rfl, hstop⟩⟩
  | false =>
    rw [Option.map_eq_none_iff.mp h]
    exact ⟨nofun, nofun⟩

end Lexing.Pattern
