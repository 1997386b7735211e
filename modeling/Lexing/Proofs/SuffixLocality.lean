import Lexing.Proofs.Matches

/-! Patterns that look at nothing before the place where they are tried. On a text and on what is left of
it from a place on, the walks of such a pattern go hand in hand: places differ by what was left out, and
continuations that answer alike are answered alike. -/
namespace Lexing
namespace Pattern

/-- The second text is what the first holds from a place on. -/
structure LeftOf (rest text : Array Char) (gap : Nat) : Prop where
  size : text.size = gap + rest.size
  get : ∀ i, text[gap + i]? = rest[i]?

def moveSpan (gap : Nat) (span : Nat × Nat) : Nat × Nat := (gap + span.1, gap + span.2)

def Marks.move (gap : Nat) (marks : Marks) : Marks :=
  marks.map fun (start, stop) => (start.map (gap + ·), stop.map (gap + ·))

namespace Marks

theorem move_modify (gap : Nat) (marks : Marks) (i : Nat)
    {f f' : Option Nat × Option Nat → Option Nat × Option Nat}
    (h : ∀ start stop, Prod.map (Option.map (gap + ·)) (Option.map (gap + ·)) (f (start, stop)) =
      f' (start.map (gap + ·), stop.map (gap + ·))) :
    move gap (marks.modify i f) = (move gap marks).modify i f' := by
  apply Array.ext_getElem?
  intro j
  simp only [move, Array.getElem?_map, Array.getElem?_modify]
  rcases marks[j]? with _ | ⟨start, stop⟩
  · split <;> rfl
  · split
    · exact congrArg some (h start stop)
    · rfl

theorem move_enter (gap : Nat) (marks : Marks) (group place : Nat) :
    (marks.enter group place).move gap = (marks.move gap).enter group (gap + place) := by
  apply move_modify
  intro start stop
  rfl

theorem move_leave (gap : Nat) (marks : Marks) (group place : Nat) :
    (marks.leave group place).move gap = (marks.move gap).leave group (gap + place) := by
  apply move_modify
  intro start stop
  rfl

theorem span?_move (gap : Nat) (marks : Marks) (group : Nat) :
    (marks.move gap).span? group = (marks.span? group).map (moveSpan gap) := by
  unfold span? move
  rw [Array.getElem?_map]
  rcases marks[group - 1]? with _ | ⟨_ | start, _ | stop⟩ <;> try rfl
  simp only [Option.map_some, Nat.add_le_add_iff_left]
  split <;> rfl

end Marks

section

variable {text rest : Array Char} {gap : Nat}

/-- The same place in the whole text and in what is left of it. -/
structure Place.Moved (gap : Nat) (p : Place text) (q : Place rest) : Prop where
  offset : p.offset = gap + q.offset
  marks : p.marks = q.marks.move gap

theorem Place.Moved.lt_iff {p p' : Place text} {q q' : Place rest} (h : p.Moved gap q)
    (h' : p'.Moved gap q') : p.offset < p'.offset ↔ q.offset < q'.offset := by
  rw [h.offset, h'.offset, Nat.add_lt_add_iff_left]

/-- The first walk does in the whole text what the second does in the rest of it. -/
def Walk.Mirrors (gap : Nat) (a : Walk text) (b : Walk rest) : Prop :=
  ∀ (β γ : Type) (R : β → γ → Prop) (p : Place text) (q : Place rest)
    (k : (p' : Place text) → p.offset ≤ p'.offset → Option β)
    (l : (q' : Place rest) → q.offset ≤ q'.offset → Option γ),
    p.Moved gap q → (∀ p' hp q' hq, p'.Moved gap q' → Option.Rel R (k p' hp) (l q' hq)) →
      Option.Rel R (a β p k) (b γ q l)

theorem rel_or {β γ : Type} {R : β → γ → Prop} {x x' : Option β} {y y' : Option γ} (h : Option.Rel R x y)
    (h' : Option.Rel R x' y') : Option.Rel R (x.or x') (y.or y') := by
  cases h with
  | some hxy => exact .some hxy
  | none => exact h'

theorem rel_dite {β γ : Type} {R : β → γ → Prop} {P Q : Prop} [Decidable P] [Decidable Q] (h : P ↔ Q)
    {x : P → Option β} {x' : ¬ P → Option β} {y : Q → Option γ} {y' : ¬ Q → Option γ}
    (hyes : ∀ hp hq, Option.Rel R (x hp) (y hq)) (hno : ∀ hp hq, Option.Rel R (x' hp) (y' hq)) :
    Option.Rel R (dite P x x') (dite Q y y') := by
  by_cases hq : Q
  · rw [dif_pos hq, dif_pos (h.mpr hq)]
    exact hyes _ _
  · rw [dif_neg hq, dif_neg (fun hp => hq (h.mp hp))]
    exact hno _ _

namespace Walk

theorem stay_mirrors : (stay : Walk text).Mirrors gap (stay : Walk rest) := by
  intro β γ R p q k l hpq hkl
  exact hkl _ _ _ _ hpq

theorem fail_mirrors : (fail : Walk text).Mirrors gap (fail : Walk rest) := by
  intro β γ R p q k l hpq hkl
  exact .none

theorem when_mirrors {holds : Place text → Bool} {holds' : Place rest → Bool}
    (h : ∀ p q, p.Moved gap q → holds p = holds' q) : (when holds).Mirrors gap (when holds') := by
  intro β γ R p q k l hpq hkl
  unfold when
  rw [h p q hpq]
  split
  · exact hkl _ _ _ _ hpq
  · exact .none

theorem mark_mirrors {update : Marks → Nat → Marks}
    (h : ∀ marks place, (update marks place).move gap = update (marks.move gap) (gap + place)) :
    (mark update : Walk text).Mirrors gap (mark update : Walk rest) := by
  intro β γ R p q k l hpq hkl
  apply hkl
  refine ⟨hpq.offset, ?_⟩
  change update p.marks p.offset = (update q.marks q.offset).move gap
  rw [h, hpq.marks, hpq.offset]

theorem one_mirrors (hrest : LeftOf rest text gap) (test : Char → Bool) :
    (one test : Walk text).Mirrors gap (one test : Walk rest) := by
  intro β γ R p q k l hpq hkl
  have hlt : p.offset < text.size ↔ q.offset < rest.size := by
    rw [hpq.offset, hrest.size, Nat.add_lt_add_iff_left]
  apply rel_dite hlt
  · intro hp hq
    have hchar : text[p.offset] = rest[q.offset] := by
      have hget := hrest.get q.offset
      rw [← hpq.offset, Array.getElem?_eq_getElem hp, Array.getElem?_eq_getElem hq] at hget
      exact Option.some.inj hget
    rw [hchar]
    split
    · have hoffset := hpq.offset
      exact hkl _ _ _ _ ⟨by dsimp only; omega, hpq.marks⟩
    · exact .none
  · intro hp hq
    exact .none

theorem andThen_mirrors {a b : Walk text} {a' b' : Walk rest} (ha : a.Mirrors gap a')
    (hb : b.Mirrors gap b') : (a.andThen b).Mirrors gap (a'.andThen b') := by
  intro β γ R p q k l hpq hkl
  apply ha β γ R p q _ _ hpq
  intro p' hp q' hq hpq'
  apply hb β γ R p' q' _ _ hpq'
  intro p'' hp' q'' hq' hpq''
  exact hkl _ _ _ _ hpq''

theorem orElse_mirrors {a b : Walk text} {a' b' : Walk rest} (ha : a.Mirrors gap a')
    (hb : b.Mirrors gap b') : (a.orElse b).Mirrors gap (a'.orElse b') := by
  intro β γ R p q k l hpq hkl
  exact rel_or (ha β γ R p q k l hpq hkl) (hb β γ R p q k l hpq hkl)

theorem outcome?_mirrors {a : Walk text} {a' : Walk rest} (ha : a.Mirrors gap a') {p : Place text}
    {q : Place rest} (hpq : p.Moved gap q) :
    Option.Rel (fun x y => x.1.Moved gap y.1) (a.outcome? p) (a'.outcome? q) := by
  apply ha _ _ _ p q _ _ hpq
  intro p' hp q' hq hpq'
  exact .some hpq'

theorem atomic_mirrors {a : Walk text} {a' : Walk rest} (ha : a.Mirrors gap a') :
    a.atomic.Mirrors gap a'.atomic := by
  intro β γ R p q k l hpq hkl
  have houtcome := outcome?_mirrors ha hpq
  unfold atomic
  generalize a.outcome? p = x at houtcome
  generalize a'.outcome? q = y at houtcome
  cases houtcome with
  | some hxy => exact hkl _ _ _ _ hxy
  | none => exact .none

theorem look_mirrors {a : Walk text} {a' : Walk rest} (ha : a.Mirrors gap a') (wanted : Bool) :
    (look 0 wanted a).Mirrors gap (look 0 wanted a') := by
  intro β γ R p q k l hpq hkl
  have houtcome := outcome?_mirrors ha hpq
  unfold look
  simp only [Nat.zero_le, if_true, Nat.sub_zero]
  generalize a.outcome? p = x at houtcome
  generalize a'.outcome? q = y at houtcome
  cases wanted with
  | true =>
    cases houtcome with
    | some hxy => exact hkl _ _ _ _ ⟨hpq.offset, hxy.marks⟩
    | none => exact .none
  | false =>
    cases houtcome with
    | some hxy => exact .none
    | none => exact hkl _ _ _ _ hpq

theorem again_mirrors (hrest : LeftOf rest text gap) (fold : Char → Nat) (start stop : Nat) :
    (again fold (gap + start) (gap + stop) : Walk text).Mirrors gap (again fold start stop : Walk rest) := by
  fun_induction again fold start stop with
  | case1 start hlt c hc ih =>
    rw [again, if_pos (Nat.add_lt_add_left hlt gap), hrest.get, hc]
    exact andThen_mirrors (one_mirrors hrest _) ih
  | case2 start hlt hnone =>
    rw [again, if_pos (Nat.add_lt_add_left hlt gap), hrest.get, hnone]
    exact fail_mirrors
  | case3 start hge =>
    rw [again, if_neg (fun h => hge (Nat.lt_of_add_lt_add_left h))]
    exact stay_mirrors

/-! A loop takes the same rounds in both texts. -/

section Loops

variable {a : Walk text} {a' : Walk rest} {β γ : Type} {R : β → γ → Prop} {from' : Nat} {start : Nat}
  {k : (p' : Place text) → from' ≤ p'.offset → Option β} {l : (q' : Place rest) → start ≤ q'.offset → Option γ}

theorem exactly_mirrors (ha : a.Mirrors gap a')
    (hkl : ∀ p hp q hq, p.Moved gap q → Option.Rel R (k p hp) (l q hq)) (n : Nat) (p : Place text)
    (hp : from' ≤ p.offset) (q : Place rest) (hq : start ≤ q.offset) (hpq : p.Moved gap q) :
    Option.Rel R (exactly a k n p hp) (exactly a' l n q hq) := by
  induction n generalizing p q with
  | zero => exact hkl p hp q hq hpq
  | succ n ih =>
    apply ha β γ R p q _ _ hpq
    intro p' hp' q' hq' hpq'
    exact ih p' _ q' _ hpq'

theorem greedy_mirrors (ha : a.Mirrors gap a')
    (hkl : ∀ p hp q hq, p.Moved gap q → Option.Rel R (k p hp) (l q hq)) (most : Option Nat)
    (p : Place text) (hp : from' ≤ p.offset) (q : Place rest) (hq : start ≤ q.offset)
    (hpq : p.Moved gap q) : Option.Rel R (greedy a k most p hp) (greedy a' l most q hq) := by
  fun_induction greedy a' l most q hq generalizing p with
  | case1 q hq =>
    rw [greedy, if_pos rfl]
    exact hkl p hp q hq hpq
  | case2 most q hq hmost ih =>
    rw [greedy, if_neg hmost]
    apply rel_or
    · apply ha β γ R p q _ _ hpq
      intro p' hp' q' hq' hpq'
      apply rel_dite (hpq.lt_iff hpq')
      · intro _ hforward
        exact ih q' hq' hforward p' _ hpq'
      · intro _ _
        exact hkl p' _ q' _ hpq'
    · exact hkl p hp q hq hpq

theorem lazy_mirrors (ha : a.Mirrors gap a')
    (hkl : ∀ p hp q hq, p.Moved gap q → Option.Rel R (k p hp) (l q hq)) (most : Option Nat)
    (p : Place text) (hp : from' ≤ p.offset) (q : Place rest) (hq : start ≤ q.offset)
    (hpq : p.Moved gap q) : Option.Rel R (lazy a k most p hp) (lazy a' l most q hq) := by
  fun_induction lazy a' l most q hq generalizing p with
  | case1 most q hq ih =>
    rw [lazy]
    apply rel_or (hkl p hp q hq hpq)
    split
    · exact .none
    · apply ha β γ R p q _ _ hpq
      intro p' hp' q' hq' hpq'
      apply rel_dite (hpq.lt_iff hpq')
      · intro _ hforward
        exact ih q' hq' hforward p' _ hpq'
      · intro _ _
        exact hkl p' _ q' _ hpq'

theorem possessive_mirrors (ha : a.Mirrors gap a')
    (hkl : ∀ p hp q hq, p.Moved gap q → Option.Rel R (k p hp) (l q hq)) (most : Option Nat)
    (p : Place text) (hp : from' ≤ p.offset) (q : Place rest) (hq : start ≤ q.offset)
    (hpq : p.Moved gap q) : Option.Rel R (possessive a k most p hp) (possessive a' l most q hq) := by
  have houtcome := outcome?_mirrors ha hpq
  fun_induction possessive a' l most q hq generalizing p with
  | case1 q hq =>
    rw [possessive, if_pos rfl]
    exact hkl p hp q hq hpq
  | case2 most q hq hmost hnone =>
    rw [hnone] at houtcome
    rw [possessive, if_neg hmost]
    generalize a.outcome? p = x at houtcome
    cases houtcome
    exact hkl p hp q hq hpq
  | case3 most q hq hmost q' hq' hsome hforward ih =>
    rw [hsome] at houtcome
    rw [possessive, if_neg hmost]
    generalize a.outcome? p = x at houtcome
    cases houtcome with
    | some hpq' =>
      dsimp only
      rw [dif_pos ((hpq.lt_iff hpq').mpr hforward)]
      exact ih _ _ hpq' (outcome?_mirrors ha hpq')
  | case4 most q hq hmost q' hq' hsome hstill =>
    rw [hsome] at houtcome
    rw [possessive, if_neg hmost]
    generalize a.outcome? p = x at houtcome
    cases houtcome with
    | some hpq' =>
      dsimp only
      rw [dif_neg (fun h => hstill ((hpq.lt_iff hpq').mp h))]
      exact hkl _ _ _ _ hpq'

end Loops

theorem rounds_mirrors {a : Walk text} {a' : Walk rest} (ha : a.Mirrors gap a') (greed : Greed)
    (least : Nat) (most : Option Nat) : (a.rounds greed least most).Mirrors gap (a'.rounds greed least most) := by
  intro β γ R p q k l hpq hkl
  cases greed with
  | greedy =>
    exact exactly_mirrors ha (fun p hp q hq h => greedy_mirrors ha hkl _ p hp q hq h) least p _ q _ hpq
  | lazy =>
    exact exactly_mirrors ha (fun p hp q hq h => lazy_mirrors ha hkl _ p hp q hq h) least p _ q _ hpq
  | possessive =>
    exact exactly_mirrors (atomic_mirrors ha) (fun p hp q hq h => possessive_mirrors ha hkl _ p hp q hq h)
      least p _ q _ hpq

end Walk

end

/-- The condition depends on what stands before the place. -/
def Anchor.looksBack : Anchor → Bool
  | .textStart | .lineStart | .boundary _ | .noBoundary _ => true
  | .textEnd | .lastLine | .lineEnd => false

/-- Some part of the tree has to do with what stands before the place where it is tried. -/
def Node.looksBack : Node → Bool
  | .empty | .char _ | .reference .. => false
  | .anchor kind => kind.looksBack
  | .behind .. => true
  | .seq a b | .alt a b | .choice _ a b => a.looksBack || b.looksBack
  | .capture _ body | .atomic body | .scoped body | .ahead _ body | .repetition _ _ _ body => body.looksBack

section

variable {text rest : Array Char} {gap : Nat}

theorem Anchor.holds_move (hrest : LeftOf rest text gap) {kind : Anchor} (h : kind.looksBack = false)
    (offset : Nat) : kind.holds text (gap + offset) = kind.holds rest offset := by
  have hsize : (gap + offset == text.size) = (offset == rest.size) := by
    rw [Bool.eq_iff_iff, beq_iff_eq, beq_iff_eq, hrest.size, Nat.add_left_cancel_iff]
  have hlast : (gap + offset + 1 == text.size) = (offset + 1 == rest.size) := by
    rw [Bool.eq_iff_iff, beq_iff_eq, beq_iff_eq, hrest.size, Nat.add_assoc, Nat.add_left_cancel_iff]
  cases kind with
  | textEnd => exact hsize
  | lastLine => simp only [holds, hsize, hlast, hrest.get]
  | lineEnd => simp only [holds, hsize, hrest.get]
  | textStart => cases h
  | lineStart => cases h
  | boundary => cases h
  | noBoundary => cases h

/-- A tree that does not look back is walked in the same way, wherever the text before begins. -/
theorem Node.walk_mirrors (hrest : LeftOf rest text gap) (node : Node) (h : node.looksBack = false) :
    (node.walk text).Mirrors gap (node.walk rest) := by
  induction node with
  | empty => exact Walk.stay_mirrors
  | char set => exact Walk.one_mirrors hrest _
  | anchor kind =>
    apply Walk.when_mirrors
    intro p q hpq
    rw [hpq.offset]
    exact Anchor.holds_move hrest h q.offset
  | seq a b iha ihb =>
    obtain ⟨ha, hb⟩ := Bool.or_eq_false_iff.mp h
    exact Walk.andThen_mirrors (iha ha) (ihb hb)
  | alt a b iha ihb =>
    obtain ⟨ha, hb⟩ := Bool.or_eq_false_iff.mp h
    exact Walk.orElse_mirrors (iha ha) (ihb hb)
  | capture group body ih =>
    apply Walk.andThen_mirrors
    · exact Walk.mark_mirrors fun marks place => Marks.move_enter gap marks group place
    · apply Walk.andThen_mirrors (ih h)
      exact Walk.mark_mirrors fun marks place => Marks.move_leave gap marks group place
  | reference group folding =>
    intro β γ R p q k l hpq hkl
    unfold Node.walk
    rw [hpq.marks, Marks.span?_move]
    cases q.marks.span? group with
    | none => exact .none
    | some span => exact Walk.again_mirrors hrest _ span.1 span.2 β γ R p q k l hpq hkl
  | repetition least most greed body ih => exact Walk.rounds_mirrors (ih h) greed least most
  | atomic body ih => exact Walk.atomic_mirrors (ih h)
  | «scoped» body ih => exact ih h
  | ahead wanted body ih => exact Walk.look_mirrors (ih h) wanted
  | behind => cases h
  | choice group yes no ihyes ihno =>
    obtain ⟨hyes, hno⟩ := Bool.or_eq_false_iff.mp h
    intro β γ R p q k l hpq hkl
    unfold Node.walk
    rw [hpq.marks, Marks.span?_move, Option.isSome_map]
    split
    · exact ihyes hyes β γ R p q k l hpq hkl
    · exact ihno hno β γ R p q k l hpq hkl

end

end Pattern

theorem slice_leftOf {rest text : Array Char} {gap : Nat} (h : Pattern.LeftOf rest text gap)
    (start stop : Nat) : slice text (gap + start) (gap + stop) = slice rest start stop := by
  unfold slice
  congr 1
  apply List.ext_getElem?
  intro i
  simp only [Array.toList_extract, List.extract_eq_take_drop, List.getElem?_take, List.getElem?_drop,
    Array.getElem?_toList, Nat.add_assoc, h.get, Nat.add_sub_add_left]

namespace Match

/-- What the groups hold, each nothing if it took no part. -/
def groupTexts (m : Match) : List (Option String) :=
  m.groups.map (Option.map fun span => slice m.text span.1 span.2)

/-- The first match is the second, found further on in a longer text. -/
structure Moved (gap : Nat) (m n : Match) : Prop where
  start : m.start = gap + n.start
  stop : m.stop = gap + n.stop
  groups : m.groups = n.groups.map (Option.map (Pattern.moveSpan gap))
  names : m.names = n.names

theorem Moved.groupTexts {gap : Nat} {m n : Match} (h : m.Moved gap n)
    (hrest : Pattern.LeftOf n.text m.text gap) : m.groupTexts = n.groupTexts := by
  simp only [Match.groupTexts, h.groups, List.map_map, Option.map_comp_map]
  congr 1
  funext span
  cases span with
  | none => rfl
  | some span => exact congrArg some (slice_leftOf hrest span.1 span.2)

theorem Moved.length {gap : Nat} {m n : Match} (h : m.Moved gap n) : m.length = n.length := by
  rw [Match.length, Match.length, h.start, h.stop, Nat.add_sub_add_left]

end Match

namespace Pattern

variable {text rest : Array Char} {gap : Nat}

/-- Where a pattern does not look back, it matches in the rest of a text what it matches in the whole. -/
theorem matchAt_moved (hrest : LeftOf rest text gap) {pattern : Pattern}
    (h : pattern.tree.looksBack = false) (start : Nat) :
    Option.Rel (fun m n => m.Moved gap n ∧ m.groupTexts = n.groupTexts)
      (pattern.matchAt text (gap + start)) (pattern.matchAt rest start) := by
  apply rel_dite
  · rw [hrest.size, Nat.add_le_add_iff_left]
  · intro hp hq
    apply pattern.tree.walk_mirrors hrest h
    · exact ⟨rfl, by simp [Marks.move]⟩
    · intro p hp q hq hpq
      have hmoved : Match.Moved gap (Match.mk text (gap + start) p.offset
          ((List.range pattern.groupCount).map fun i => p.marks.span? (i + 1)) pattern.names hp p.inside)
          (Match.mk rest start q.offset
            ((List.range pattern.groupCount).map fun i => q.marks.span? (i + 1)) pattern.names hq q.inside) := by
        refine ⟨rfl, hpq.offset, ?_, rfl⟩
        simp only [List.map_map, hpq.marks, Marks.span?_move]
        rfl
      exact .some ⟨hmoved, hmoved.groupTexts hrest⟩
  · intro _ _
    exact .none

/-- Whether the pattern matches, how long its match is and what its groups hold depends on the text from
the place on, and on nothing before it. -/
def SuffixLocal (pattern : Pattern) : Prop :=
  ∀ (text text' : Array Char) (place place' : Nat), place ≤ text.size → place' ≤ text'.size →
    text.toList.drop place = text'.toList.drop place' →
      Option.Rel (fun m n => m.length = n.length ∧ m.groupTexts = n.groupTexts)
        (pattern.matchAt text place) (pattern.matchAt text' place')

end Pattern

end Lexing
