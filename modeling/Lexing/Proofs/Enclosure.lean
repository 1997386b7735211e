import Lexing.Pattern.Reader
import Lexing.Proofs.Selection

/-! A pattern read by itself and read between parentheses. If both readings succeed, they come to the same: each
reader finds the same pieces at corresponding places, and only the end of the pattern looks different, where the
longer text goes on with its closing parenthesis. -/
namespace Lexing.Pattern

/-- A text, and a longer one that ends with it and a closing parenthesis. -/
structure Enclosure where
  inner : Array Char
  outer : Array Char
  /-- Where the first begins in the second. -/
  gap : Nat
  /-- The settings that both are read under. -/
  mode : Mode
  size_eq : outer.size = gap + inner.size + 1
  get_eq : ∀ i, i < inner.size → outer[gap + i]? = inner[i]?
  close : outer[gap + inner.size]? = some ')'

/-- A backslash that ends a pattern. -/
def TrailingEscape (chars : Array Char) (place : Nat) : Prop := chars[place]? = some '\\' ∧ place + 1 = chars.size

namespace Enclosure

/-- A place in the text and the same place in the longer one. Once the text is at its end, the parenthesis may be
taken too: a comment takes it. -/
inductive Places (e : Enclosure) : Nat → Nat → Prop
  | inside {i : Nat} (le_size : i ≤ e.inner.size) (whole : ¬ TrailingEscape e.inner i) : Places e i (e.gap + i)
  | past : Places e e.inner.size e.outer.size

/-- What comes next in the text and in the longer one. -/
inductive Pieces : Option Piece → Option Piece → Prop
  | same (piece : Option Piece) : Pieces piece piece
  | close : Pieces none (some (.plain ')'))

/-- What is known after reading in the one is known after reading in the other. -/
structure Follows (e : Enclosure) (s w : ReadState) : Prop where
  places : e.Places s.offset w.offset
  mode : s.mode = e.mode
  groups : s.groups = w.groups
  names : s.names = w.names
  limit : s.behindLimit = w.behindLimit
  named : s.named = w.named

end Enclosure

/-! ## Runs of readers -/

section Runs

variable {α β : Type} {chars : Array Char} {s t : ReadState}

def Read.runOn (x : Read α) (chars : Array Char) (s : ReadState) : Except ReadFault (α × ReadState) :=
  (x.run chars).run s

/-- Whatever the pattern and however far it is read, the reader does not succeed. -/
def Read.Fails (x : Read α) : Prop := ∀ chars s r, x.runOn chars s ≠ .ok r

theorem runOn_bind (x : Read α) (f : α → Read β) (chars : Array Char) (s : ReadState) :
    (x >>= f).runOn chars s = x.runOn chars s >>= fun r => (f r.1).runOn chars r.2 := rfl

theorem runOn_bind_ok {x : Read α} {f : α → Read β} {a : α} (h : x.runOn chars s = .ok (a, t)) :
    (x >>= f).runOn chars s = (f a).runOn chars t := by
  rw [runOn_bind, h]
  rfl

theorem runOn_peek (chars : Array Char) (s : ReadState) :
    peek.runOn chars s = .ok (pieceAt chars s.offset, s) := rfl

theorem runOn_bind_congr {x : Read α} {f g : α → Read β}
    (h : ∀ a t, x.runOn chars s = .ok (a, t) → (f a).runOn chars t = (g a).runOn chars t) :
    (x >>= f).runOn chars s = (x >>= g).runOn chars s := by
  rw [runOn_bind, runOn_bind]
  cases hx : x.runOn chars s with
  | error fault => rfl
  | ok r => exact h r.1 r.2 hx

theorem exists_of_runOn_bind {x : Read α} {f : α → Read β} {r : β × ReadState}
    (h : (x >>= f).runOn chars s = .ok r) :
    ∃ a u, x.runOn chars s = .ok (a, u) ∧ (f a).runOn chars u = .ok r := by
  rw [runOn_bind] at h
  obtain ⟨⟨a, u⟩, hx, hf⟩ := exists_of_bind_ok h
  exact ⟨a, u, hx, hf⟩

@[simp] theorem fails_throw (fault : ReadFault) : (throw fault : Read α).Fails := fun _ _ _ h => nomatch h

@[simp] theorem fails_failAt (place : Nat) (defect : Defect) : (failAt place defect : Read α).Fails :=
  fails_throw _

@[simp] theorem fails_bind {x : Read α} {f : α → Read β} (h : x.Fails) : (x >>= f).Fails := by
  intro chars s r hr
  obtain ⟨a, u, hx, _⟩ := exists_of_runOn_bind hr
  exact h chars s _ hx

@[simp] theorem fails_map {x : Read α} {f : α → β} (h : x.Fails) : (f <$> x).Fails := by
  rw [map_eq_pure_bind]
  exact fails_bind h

theorem fails_of_next {x : Read α} {f : α → Read β} (h : ∀ a, (f a).Fails) : (x >>= f).Fails := by
  intro chars s r hr
  obtain ⟨a, u, _, hf⟩ := exists_of_runOn_bind hr
  exact h a chars u _ hf

@[simp] theorem fails_failBack (back : Nat) (defect : Defect) : (failBack back defect : Read α).Fails :=
  fails_of_next fun _ => fails_failAt _ _

@[simp] theorem fails_ite {p : Prop} [Decidable p] {x y : Read α} (hx : x.Fails) (hy : y.Fails) :
    (if p then x else y).Fails := by
  split
  · exact hx
  · exact hy

/-- What is refused otherwise does not hold. -/
theorem of_runOn_unless {p : Prop} [Decidable p] {x k : Read α} {r : α × ReadState} (hx : x.Fails)
    (h : (if p then x else k).runOn chars s = .ok r) : ¬ p ∧ k.runOn chars s = .ok r := by
  by_cases hp : p
  · rw [if_pos hp] at h
    exact absurd h (hx chars s r)
  · rw [if_neg hp] at h
    exact ⟨hp, h⟩

theorem runOn_moveTo {place : Nat} (whole : ¬ TrailingEscape chars place) :
    (moveTo place).runOn chars s = .ok ((), { s with offset := place }) := by
  change (if chars[place]? = some '\\' ∧ place + 1 = chars.size then _ else _ : Read Unit).runOn chars s = _
  rw [if_neg (show ¬ (_ ∧ _) from whole)]
  rfl

theorem of_runOn_moveTo {place : Nat} {u : Unit} (h : (moveTo place).runOn chars s = .ok (u, t)) :
    t = { s with offset := place } ∧ ¬ TrailingEscape chars place := by
  by_cases htrailing : TrailingEscape chars place
  · have hfails : (moveTo place).runOn chars s = .error (.malformed ⟨.trailingEscape, some place⟩) := by
      change (if chars[place]? = some '\\' ∧ place + 1 = chars.size then _ else _ : Read Unit).runOn chars s = _
      rw [if_pos (show _ ∧ _ from htrailing)]
      rfl
    cases hfails.symm.trans h
  · cases (runOn_moveTo htrailing).symm.trans h
    exact ⟨rfl, htrailing⟩

theorem runOn_next {p : Piece} (hp : pieceAt chars s.offset = some p)
    (whole : ¬ TrailingEscape chars (s.offset + p.length)) :
    next.runOn chars s = .ok (some p, { s with offset := s.offset + p.length }) := by
  refine (runOn_bind ..).trans ?_
  rw [runOn_peek, hp]
  change (moveTo (s.offset + p.length) >>= fun _ => pure (some p)).runOn chars s = _
  rw [runOn_bind, runOn_moveTo whole]
  rfl

/-- What the next piece makes of a state. -/
structure Takes (chars : Array Char) (s : ReadState) (p : Piece) (t : ReadState) : Prop where
  piece : pieceAt chars s.offset = some p
  moved : t = { s with offset := s.offset + p.length }
  whole : ¬ TrailingEscape chars (s.offset + p.length)

theorem of_runOn_next {piece : Option Piece} (h : next.runOn chars s = .ok (piece, t)) :
    piece = none ∧ pieceAt chars s.offset = none ∧ t = s ∨ ∃ p, piece = some p ∧ Takes chars s p t := by
  obtain ⟨a, u, hpeek, h⟩ := exists_of_runOn_bind h
  cases hpeek
  cases hpiece : pieceAt chars s.offset with
  | none =>
    rw [hpiece] at h
    cases h
    exact .inl ⟨rfl, rfl, rfl⟩
  | some p =>
    rw [hpiece] at h
    obtain ⟨a, u, hget, h⟩ := exists_of_runOn_bind h
    cases hget
    obtain ⟨_, u, hmove, h⟩ := exists_of_runOn_bind h
    cases h
    obtain ⟨hmoved, whole⟩ := of_runOn_moveTo hmove
    exact .inr ⟨p, rfl, hpiece, hmoved, whole⟩

end Runs

theorem pieceAt_plain {chars : Array Char} {place : Nat} {c : Char} (h : chars[place]? = some c) (hc : c ≠ '\\') :
    pieceAt chars place = some (.plain c) := by
  unfold pieceAt
  rw [h]
  split
  · next heq => cases heq
  · next heq => exact absurd (Option.some.inj heq) hc
  · next heq => rw [Option.some.inj heq]

theorem pieceAt_escaped {chars : Array Char} {place : Nat} {c : Char} (h : chars[place]? = some '\\')
    (hc : chars[place + 1]? = some c) : pieceAt chars place = some (.escaped c) := by
  simp only [pieceAt, h, hc]

theorem pieceAt_end {chars : Array Char} {place : Nat} (h : chars.size ≤ place) : pieceAt chars place = none := by
  rw [pieceAt, Array.getElem?_eq_none h]

/-! ## Readers that agree -/

namespace Enclosure

variable {e : Enclosure} {α β γ δ : Type} {R : α → β → Prop} {S : γ → δ → Prop} {s w : ReadState}

/-- Only at the end of the text may the pieces differ. -/
theorem Pieces.none_or_same {p q : Option Piece} (h : Pieces p q) :
    p = none ∨ ∃ piece, p = some piece ∧ q = some piece := by
  cases h with
  | same p =>
    cases p with
    | none => exact .inl rfl
    | some piece => exact .inr ⟨piece, rfl, rfl⟩
  | close => exact .inl rfl

/-- What is looked for is not the parenthesis, so it comes next in both or in none. -/
theorem Pieces.eq_plain_iff {p q : Option Piece} (h : Pieces p q) {c : Char} (hc : c ≠ ')') :
    p = some (.plain c) ↔ q = some (.plain c) := by
  cases h with
  | same => exact .rfl
  | close => simpa using hc.symm

/-- Where a sequence ends in the one, it ends in the other. -/
theorem Pieces.ends_iff {p q : Option Piece} (h : Pieces p q) :
    (p = none ∨ p = some (.plain '|') ∨ p = some (.plain ')')) ↔
      (q = none ∨ q = some (.plain '|') ∨ q = some (.plain ')')) := by
  cases h with
  | same => exact .rfl
  | close => exact iff_of_true (.inl rfl) (.inr (.inr rfl))

/-- Inside the text, the pieces are the same in both, and no piece reaches beyond the text. -/
theorem exists_pieceAt {i : Nat} (hi : i < e.inner.size) (whole : ¬ TrailingEscape e.inner i) :
    ∃ p, pieceAt e.inner i = some p ∧ pieceAt e.outer (e.gap + i) = some p ∧ i + p.length ≤ e.inner.size := by
  have hinner : e.inner[i]? = some e.inner[i] := Array.getElem?_eq_getElem hi
  have houter : e.outer[e.gap + i]? = some e.inner[i] := (e.get_eq i hi).trans hinner
  by_cases hescape : e.inner[i] = '\\'
  · rw [hescape] at hinner houter
    have hnext : i + 1 < e.inner.size := Nat.lt_of_le_of_ne hi fun hlast => whole ⟨hinner, hlast⟩
    have hinner' : e.inner[i + 1]? = some e.inner[i + 1] := Array.getElem?_eq_getElem hnext
    have houter' : e.outer[e.gap + i + 1]? = some e.inner[i + 1] := (e.get_eq (i + 1) hnext).trans hinner'
    exact ⟨_, pieceAt_escaped hinner hinner', pieceAt_escaped houter houter', hnext⟩
  · exact ⟨_, pieceAt_plain hinner hescape, pieceAt_plain houter hescape, hi⟩

theorem pieceAt_size (e : Enclosure) : pieceAt e.inner e.inner.size = none :=
  pieceAt_end (Nat.le_refl _)

theorem pieceAt_close (e : Enclosure) : pieceAt e.outer (e.gap + e.inner.size) = some (.plain ')') :=
  pieceAt_plain e.close (by decide)

theorem whole_gap (e : Enclosure) : ¬ TrailingEscape e.outer e.gap := by
  rintro ⟨hescape, hlast⟩
  have hempty : e.inner.size = 0 := by
    have hsize := e.size_eq
    omega
  have hclose := e.close
  rw [hempty, Nat.add_zero, hescape] at hclose
  cases hclose

/-- The same piece comes next in both, or the longer text goes on with the parenthesis, or both are at an end. -/
theorem Places.next_cases {i j : Nat} (h : e.Places i j) :
    (∃ p, pieceAt e.inner i = some p ∧ pieceAt e.outer j = some p ∧
      (¬ TrailingEscape e.inner (i + p.length) → e.Places (i + p.length) (j + p.length))) ∨
    (pieceAt e.inner i = none ∧ pieceAt e.outer j = some (.plain ')') ∧ e.Places i (j + 1) ∧
      pieceAt e.outer (j + 1) = none) ∨
    (pieceAt e.inner i = none ∧ pieceAt e.outer j = none) := by
  cases h with
  | inside le_size whole =>
    rcases Nat.lt_or_eq_of_le le_size with hlt | rfl
    · obtain ⟨p, hinner, houter, hle⟩ := exists_pieceAt hlt whole
      refine .inl ⟨p, hinner, houter, fun whole' => ?_⟩
      rw [Nat.add_assoc]
      exact .inside hle whole'
    · refine .inr (.inl ⟨e.pieceAt_size, e.pieceAt_close, ?_, pieceAt_end (Nat.le_of_eq e.size_eq)⟩)
      rw [← e.size_eq]
      exact .past
  | past => exact .inr (.inr ⟨e.pieceAt_size, pieceAt_end (Nat.le_refl _)⟩)

theorem Places.pieces {i j : Nat} (h : e.Places i j) : Pieces (pieceAt e.inner i) (pieceAt e.outer j) := by
  rcases h.next_cases with ⟨p, hinner, houter, _⟩ | ⟨hinner, houter, _⟩ | ⟨hinner, houter⟩
  · rw [hinner, houter]
    exact .same _
  · rw [hinner, houter]
    exact .close
  · rw [hinner, houter]
    exact .same _

/-- If the one reads in the text and the other in the longer one, from corresponding states on, and both succeed,
they come to related results and corresponding states. -/
def Agrees (e : Enclosure) (R : α → β → Prop) (x : Read α) (y : Read β) : Prop :=
  ∀ s w a b s' w', e.Follows s w → x.runOn e.inner s = .ok (a, s') → y.runOn e.outer w = .ok (b, w') →
    R a b ∧ e.Follows s' w'

namespace Agrees

variable {x : Read α} {y : Read β}

theorem pure {a : α} {b : β} (h : R a b) : e.Agrees R (Pure.pure a) (Pure.pure b) := by
  intro s w a' b' s' w' hs hx hy
  cases hx
  cases hy
  exact ⟨h, hs⟩

theorem bind {f : α → Read γ} {g : β → Read δ} (h : e.Agrees R x y)
    (hfg : ∀ a b, R a b → e.Agrees S (f a) (g b)) : e.Agrees S (x >>= f) (y >>= g) := by
  intro s w c d s' w' hs hx hy
  obtain ⟨a, u, hx, hf⟩ := exists_of_runOn_bind hx
  obtain ⟨b, v, hy, hg⟩ := exists_of_runOn_bind hy
  obtain ⟨hab, hu⟩ := h s w a b u v hs hx hy
  exact hfg a b hab u v c d s' w' hu hf hg

/-- Readers that come to the same may be followed by any that agree from there on. -/
theorem bind_eq {x y : Read α} {f : α → Read γ} {g : α → Read δ} (h : e.Agrees Eq x y)
    (hfg : ∀ a, e.Agrees S (f a) (g a)) : e.Agrees S (x >>= f) (y >>= g) :=
  h.bind fun a _ hab => hab ▸ hfg a

theorem of_fails (h : x.Fails) : e.Agrees R x y := fun s _ _ _ _ _ _ hx _ => absurd hx (h _ s _)

theorem of_fails' (h : y.Fails) : e.Agrees R x y := fun _ w _ _ _ _ _ _ hy => absurd hy (h _ w _)

/-- What is refused in one of the two need not be looked at. -/
theorem «unless» {p q : Prop} [Decidable p] [Decidable q] {k : Read α} {l : Read β} (hfails : x.Fails ∧ y.Fails)
    (h : e.Agrees R k l) : e.Agrees R (if p then x else k) (if q then y else l) := by
  split
  · exact of_fails hfails.1
  · split
    · exact of_fails' hfails.2
    · exact h

theorem ite_iff {p q : Prop} [Decidable p] [Decidable q] {k : Read α} {l : Read β} (hpq : p ↔ q)
    (h : p → e.Agrees R x y) (h' : ¬ p → e.Agrees R k l) :
    e.Agrees R (if p then x else k) (if q then y else l) := by
  by_cases hp : p
  · rw [if_pos hp, if_pos (hpq.mp hp)]
    exact h hp
  · rw [if_neg hp, if_neg fun hq => hp (hpq.mpr hq)]
    exact h' hp

theorem ite {p : Prop} [Decidable p] {k : Read α} {l : Read β} (h : p → e.Agrees R x y) (h' : ¬ p → e.Agrees R k l) :
    e.Agrees R (if p then x else k) (if p then y else l) := ite_iff .rfl h h'

theorem ite_bind {p : Prop} [Decidable p] {x y k l : Read α} {f : α → Read γ} {g : α → Read δ}
    (h : p → e.Agrees Eq x y) (h' : ¬ p → e.Agrees Eq k l) (hfg : ∀ a, e.Agrees S (f a) (g a)) :
    e.Agrees S (if p then x >>= f else k >>= f) (if p then y >>= g else l >>= g) :=
  ite (fun hp => (h hp).bind_eq hfg) fun hp => (h' hp).bind_eq hfg

end Agrees

theorem agrees_get : e.Agrees e.Follows (MonadState.get : Read ReadState) MonadState.get := by
  intro s w a b s' w' hs hx hy
  cases hx
  cases hy
  exact ⟨hs, hs⟩

theorem agrees_modify {f g : ReadState → ReadState} (h : ∀ s w, e.Follows s w → e.Follows (f s) (g w)) :
    e.Agrees (fun _ _ => True) (modifyGet fun s => ((), f s) : Read Unit) (modifyGet fun s => ((), g s)) := by
  intro s w a b s' w' hs hx hy
  cases hx
  cases hy
  exact ⟨trivial, h s w hs⟩

theorem agrees_peek : e.Agrees Pieces peek peek := by
  intro s w a b s' w' hs hx hy
  cases hx
  cases hy
  exact ⟨hs.places.pieces, hs⟩

theorem agrees_moveTo {i j : Nat} (h : e.Places i j) : e.Agrees (fun _ _ => True) (moveTo i) (moveTo j) := by
  intro s w a b s' w' hs hx hy
  obtain ⟨rfl, _⟩ := of_runOn_moveTo hx
  obtain ⟨rfl, _⟩ := of_runOn_moveTo hy
  exact ⟨trivial, { hs with places := h }⟩

theorem agrees_offset : e.Agrees e.Places offset offset := by
  intro s w a b s' w' hs hx hy
  cases hx
  cases hy
  exact ⟨hs.places, hs⟩

theorem agrees_next : e.Agrees Pieces next next := by
  intro s w a b s' w' hs hx hy
  rcases of_runOn_next hx with ⟨rfl, hp, rfl⟩ | ⟨p, rfl, hp, rfl, whole⟩ <;>
    rcases of_runOn_next hy with ⟨rfl, hq, rfl⟩ | ⟨q, rfl, hq, rfl, _⟩ <;>
    rcases hs.places.next_cases with ⟨r, hr, hr', hplaces⟩ | ⟨hr, hr', hplaces, _⟩ | ⟨hr, hr'⟩ <;>
    cases hp.symm.trans hr <;> cases hq.symm.trans hr'
  · exact ⟨.same _, hs⟩
  · exact ⟨.close, { hs with places := hplaces }⟩
  · exact ⟨.same _, { hs with places := hplaces whole }⟩

/-- Where nothing may follow the end of the text, both go on with the same piece. -/
theorem agrees_next_bind {f : Option Piece → Read α} {g : Option Piece → Read β} (hend : (f none).Fails)
    (h : ∀ piece, e.Agrees R (f (some piece)) (g (some piece))) : e.Agrees R (next >>= f) (next >>= g) := by
  refine agrees_next.bind fun p q hpq => ?_
  rcases hpq.none_or_same with rfl | ⟨piece, rfl, rfl⟩
  · exact .of_fails hend
  · exact h piece

end Enclosure

end Lexing.Pattern
