import Lexing.Proofs.EnclosedReading

/-! Repetitions, groups and whole sequences, read in a pattern by itself and between parentheses. -/
namespace Lexing.Pattern

namespace Enclosure

variable {e : Enclosure} {α : Type} {s w : ReadState}

/-! ## Sequences and groups -/

section Sequence

theorem agrees_readCount (digits : List Char) : e.Agrees Eq (readCount digits) (readCount digits) :=
  .unless (by simp) (.unless (by simp) (.pure rfl))

theorem runOn_takeSome_end {chars : Array Char} {test : Char → Bool} (h : chars.size ≤ s.offset) (n : Nat) :
    (takeSome test n).runOn chars s = .ok ([], s) := by
  cases n with
  | zero => rfl
  | succ n =>
    rw [takeSome, runOn_bind, runOn_peek, pieceAt_end h]
    rfl

theorem lt_of_pieceAt {chars : Array Char} {place : Nat} {p : Piece} (h : pieceAt chars place = some p) :
    place < chars.size := by
  refine Nat.lt_of_not_le fun hle => ?_
  rw [pieceAt_end hle] at h
  cases h

/-- Once it may take all that is left, it does not matter how many more characters it may take. -/
theorem runOn_takeSome {chars : Array Char} {test : Char → Bool} {n m : Nat} (henough : chars.size ≤ s.offset + n)
    (hnm : n ≤ m) : (takeSome test m).runOn chars s = (takeSome test n).runOn chars s := by
  induction n generalizing m s with
  | zero => rw [runOn_takeSome_end henough, runOn_takeSome_end henough]
  | succ n ih =>
    obtain ⟨m, rfl⟩ : ∃ k, m = k + 1 := Nat.exists_eq_add_one_of_ne_zero (by omega)
    rw [takeSome, takeSome, runOn_bind, runOn_bind, runOn_peek]
    simp only [bind, Except.bind]
    split
    · next c hpiece =>
      split
      · refine runOn_bind_congr fun _ t hnext => ?_
        rcases of_runOn_next hnext with ⟨_, hnone, _⟩ | ⟨p, _, hp, rfl, _⟩
        · cases hnone.symm.trans hpiece
        · cases hp.symm.trans hpiece
          refine (runOn_bind ..).trans ?_
          rw [ih (by simp only [Piece.length]; omega) (by omega)]
          rfl
      · rfl
    · rfl

/-- All characters that pass are taken in both; the parenthesis does not pass. -/
theorem agrees_takeSome_remaining {test : Char → Bool} {f g : List Char → Read α} {R : α → α → Prop}
    (hclose : test ')' = false) (hfg : ∀ taken, e.Agrees R (f taken) (g taken)) :
    e.Agrees R (remaining >>= fun n => takeSome test n >>= f) (remaining >>= fun n => takeSome test n >>= g) := by
  intro s w a b s' w' hs hx hy
  obtain ⟨n, u, hn, hx⟩ := exists_of_runOn_bind hx
  obtain ⟨m, v, hm, hy⟩ := exists_of_runOn_bind hy
  cases hn
  cases hm
  -- Both take as much as they would if they were given the larger bound.
  let bound := max (e.inner.size - s.offset) (e.outer.size - w.offset)
  have hinner : (takeSome test (e.inner.size - s.offset) >>= f).runOn e.inner s =
      (takeSome test bound >>= f).runOn e.inner s := by
    rw [runOn_bind, runOn_bind, runOn_takeSome (by omega) (Nat.le_max_left _ _)]
  have houter : (takeSome test (e.outer.size - w.offset) >>= g).runOn e.outer w =
      (takeSome test bound >>= g).runOn e.outer w := by
    rw [runOn_bind, runOn_bind, runOn_takeSome (by omega) (Nat.le_max_right _ _)]
  have hagrees : e.Agrees R (takeSome test bound >>= f) (takeSome test bound >>= g) :=
    (agrees_takeSome hclose bound).bind_eq fun taken => hfg taken
  exact hagrees s w a b s' w' hs (hinner.symm.trans hx) (houter.symm.trans hy)

theorem agrees_takeSome_or {p : Prop} [Decidable p] {test : Char → Bool} {taken : List Char}
    {f g : List Char → Read α} {R : α → α → Prop} (hclose : test ')' = false)
    (hfg : ∀ taken, e.Agrees R (f taken) (g taken)) :
    e.Agrees R (if p then remaining >>= fun n => takeSome test n >>= f else pure taken >>= f)
      (if p then remaining >>= fun n => takeSome test n >>= g else pure taken >>= g) :=
  .ite (fun _ => agrees_takeSome_remaining hclose hfg) fun _ => hfg taken

theorem agrees_readBraces : e.Agrees Eq readBraces readBraces := by
  refine agrees_offset.bind fun here here' hhere => ?_
  refine agrees_peek.bind fun p q hpq => ?_
  refine .ite_iff (hpq.eq_plain_iff (by decide)) (fun _ => .pure rfl) fun _ => ?_
  refine agrees_takeSome_remaining (by decide) fun low => ?_
  refine (agrees_accept (by decide)).bind_eq fun comma => ?_
  refine agrees_takeSome_or (by decide) fun high => ?_
  refine (agrees_accept (by decide)).bind_eq fun closed => ?_
  refine .ite (fun _ => (agrees_moveTo hhere).bind fun _ _ _ => .pure rfl) fun _ => ?_
  refine .ite_bind (fun _ => .pure rfl) (fun _ => agrees_readCount _) fun least => ?_
  refine .ite (fun _ => .pure rfl) fun _ => ?_
  refine (agrees_readCount _).bind_eq fun most => ?_
  exact .unless (by simp) (.pure rfl)

theorem agrees_readBounds (c : Char) : e.Agrees Eq (readBounds c) (readBounds c) := by
  unfold readBounds
  split
  · exact .pure rfl
  · exact .pure rfl
  · exact .pure rfl
  · exact agrees_readBraces

theorem agrees_readGreed : e.Agrees Eq readGreed readGreed := by
  refine (agrees_accept (by decide)).bind_eq fun isLazy => ?_
  refine .ite (fun _ => .pure rfl) fun _ => ?_
  refine (agrees_accept (by decide)).bind_eq fun possessive => ?_
  exact .ite (fun _ => .pure rfl) fun _ => .pure rfl

theorem agrees_repeatLast (place place' : Nat) (bounds : Bounds) (items : List Item) :
    e.Agrees Eq (repeatLast place bounds items) (repeatLast place' bounds items) := by
  cases items with
  | nil => exact .of_fails (fails_failAt _ _)
  | cons item before =>
    obtain ⟨kind, nodes⟩ := item
    cases kind with
    | anchor => exact .of_fails (fails_failAt _ _)
    | repeated => exact .of_fails (fails_failAt _ _)
    | other => exact agrees_readGreed.bind_eq fun _ => .pure rfl

theorem runOn_skipLine_end {chars : Array Char} (h : pieceAt chars s.offset = none) (n : Nat) :
    (skipLine n).runOn chars s = .ok ((), s) := by
  cases n with
  | zero => rfl
  | succ n =>
    have hnext : next.runOn chars s = .ok (none, s) := by
      refine (runOn_bind ..).trans ?_
      rw [runOn_peek, h]
      rfl
    rw [skipLine, runOn_bind, hnext]
    rfl

/-- At the end of the text nothing is skipped, or the parenthesis after it. -/
theorem Follows.skipLine_end {n m : Nat} {u v : Unit} {s' w' : ReadState} (h : e.Follows s w)
    (hend : pieceAt e.inner s.offset = none) (hx : (skipLine n).runOn e.inner s = .ok (u, s'))
    (hy : (skipLine m).runOn e.outer w = .ok (v, w')) : e.Follows s' w' := by
  cases (runOn_skipLine_end hend n).symm.trans hx
  rcases h.places.next_cases with ⟨p, hp, _⟩ | ⟨_, hq, hplaces, hafter⟩ | ⟨_, hq⟩
  · cases hend.symm.trans hp
  · cases m with
    | zero =>
      cases hy
      exact h
    | succ m =>
      rw [skipLine] at hy
      obtain ⟨piece, t, hnext, hy⟩ := exists_of_runOn_bind hy
      rcases of_runOn_next hnext with ⟨_, hnone, _⟩ | ⟨p, rfl, hp, rfl, _⟩
      · cases hnone.symm.trans hq
      · cases hp.symm.trans hq
        cases (runOn_skipLine_end hafter m).symm.trans hy
        exact { h with places := hplaces }
  · cases (runOn_skipLine_end hq m).symm.trans hy
    exact h

/-- A comment ends with its line in both, or with the text in the one and after the parenthesis in the other. -/
theorem Follows.skipLine {n m : Nat} {u v : Unit} {s' w' : ReadState} (h : e.Follows s w)
    (hn : e.inner.size ≤ s.offset + n) (hm : e.outer.size ≤ w.offset + m)
    (hx : (skipLine n).runOn e.inner s = .ok (u, s')) (hy : (skipLine m).runOn e.outer w = .ok (v, w')) :
    e.Follows s' w' := by
  induction n generalizing m s w with
  | zero => exact h.skipLine_end (pieceAt_end hn) hx hy
  | succ n ih =>
    rcases h.places.next_cases with ⟨p, hp, hq, _⟩ | ⟨hend, _⟩ | ⟨hend, _⟩
    · cases m with
      | zero =>
        have hlt := lt_of_pieceAt hq
        omega
      | succ m =>
        rw [Pattern.skipLine] at hx hy
        obtain ⟨piece, s₁, hx₁, hx⟩ := exists_of_runOn_bind hx
        obtain ⟨piece', w₁, hy₁, hy⟩ := exists_of_runOn_bind hy
        have hfollows := (agrees_next s w _ _ _ _ h hx₁ hy₁).2
        rcases of_runOn_next hx₁ with ⟨_, hnone, _⟩ | ⟨_, rfl, hp', rfl, _⟩
        · cases hnone.symm.trans hp
        rcases of_runOn_next hy₁ with ⟨_, hnone, _⟩ | ⟨_, rfl, hq', rfl, _⟩
        · cases hnone.symm.trans hq
        cases hp'.symm.trans hp
        cases hq'.symm.trans hq
        have hlength : 1 ≤ p.length := by cases p <;> simp [Piece.length]
        dsimp only at hx hy
        by_cases hline : p = .plain '\n'
        · rw [if_pos hline] at hx hy
          cases hx
          cases hy
          exact hfollows
        · rw [if_neg hline] at hx hy
          exact ih hfollows (by simp only; omega) (by simp only; omega) hx hy
    · exact h.skipLine_end hend hx hy
    · exact h.skipLine_end hend hx hy

theorem agrees_skipLine {x y : Read α} {R : α → α → Prop} (h : e.Agrees R x y) :
    e.Agrees R (remaining >>= fun n => skipLine (n + 1) >>= fun _ => x)
      (remaining >>= fun n => skipLine (n + 1) >>= fun _ => y) := by
  intro s w a b s' w' hs hx hy
  obtain ⟨n, u, hn, hx⟩ := exists_of_runOn_bind hx
  obtain ⟨m, v, hm, hy⟩ := exists_of_runOn_bind hy
  cases hn
  cases hm
  obtain ⟨_, u, hx', hx⟩ := exists_of_runOn_bind hx
  obtain ⟨_, v, hy', hy⟩ := exists_of_runOn_bind hy
  exact h u v a b s' w' (hs.skipLine (by omega) (by omega) hx' hy') hx hy

theorem agrees_openGroup (name : Option String) : e.Agrees Eq (openGroup name) (openGroup name) := by
  refine agrees_nextGroup.bind_eq fun group => ?_
  have hopened : e.Agrees Eq
      ((modify fun s => { s with groups := s.groups.push none }) >>= fun _ => pure group : Read Nat)
      ((modify fun s => { s with groups := s.groups.push none }) >>= fun _ => pure group) := by
    refine .bind (agrees_modify fun s w hsw => ?_) fun _ _ _ => .pure rfl
    exact { hsw with groups := congrArg (·.push none) hsw.groups }
  cases name with
  | none => exact hopened
  | some name =>
    refine agrees_get.bind fun s w hsw => ?_
    rw [hsw.names]
    dsimp only
    split
    · exact .of_fails (fails_bind (fails_failBack _ _))
    · refine .bind (agrees_modify fun s w hsw => ?_) fun _ _ _ => hopened
      exact { hsw with names := congrArg (· ++ _) hsw.names }

theorem agrees_closeGroup (group : Nat) (body : Node) :
    e.Agrees (fun _ _ => True) (closeGroup group body) (closeGroup group body) := by
  refine agrees_modify fun s w hsw => { hsw with groups := ?_ }
  dsimp only
  rw [hsw.groups]

theorem of_runOn_closeParenthesis {chars : Array Char} {start : Nat} {u : Unit} {t : ReadState}
    (h : (closeParenthesis start).runOn chars s = .ok (u, t)) : next.runOn chars s = .ok (some (.plain ')'), t) := by
  obtain ⟨accepted, v, haccept, h⟩ := exists_of_runOn_bind h
  obtain ⟨piece, v', hpeek, haccept⟩ := exists_of_runOn_bind haccept
  cases hpeek
  by_cases hclose : pieceAt chars s.offset = some (.plain ')')
  · rw [if_pos hclose] at haccept
    obtain ⟨taken, v', hnext, haccept⟩ := exists_of_runOn_bind haccept
    cases haccept
    cases h
    rcases of_runOn_next hnext with ⟨_, hnone, _⟩ | ⟨p, rfl, hp, _⟩
    · cases hnone.symm.trans hclose
    · cases hp.symm.trans hclose
      exact hnext
  · rw [if_neg hclose] at haccept
    cases haccept
    cases h

theorem agrees_closeParenthesis (start start' : Nat) :
    e.Agrees (fun _ _ => True) (closeParenthesis start) (closeParenthesis start') := by
  intro s w a b s' w' hs hx hy
  exact ⟨trivial, (agrees_next s w _ _ s' w' hs (of_runOn_closeParenthesis hx) (of_runOn_closeParenthesis hy)).2⟩

theorem agrees_lookingBehind {body body' : Read (List Node)} (h : e.Agrees Eq body body') :
    e.Agrees Eq (lookingBehind body) (lookingBehind body') := by
  refine agrees_get.bind fun s w hsw => ?_
  refine agrees_nextGroup.bind_eq fun group => ?_
  rw [hsw.limit]
  refine .bind (agrees_modify fun s w hsw => ?_) fun _ _ _ => ?_
  · exact { hsw with limit := rfl }
  refine h.bind_eq fun nodes => ?_
  refine .bind (agrees_modify fun s w hsw => ?_) fun _ _ _ => .pure rfl
  exact { hsw with limit := rfl }

end Sequence

/-! ## Whole sequences -/

/-- Reading with one bound on the depth and with another. Only at the start of the longer text may settings for
the whole pattern stand, so the shorter is read under the settings of both. -/
structure AgreesTo (e : Enclosure) (n : Nat) : Prop where
  alternatives (m : Nat) (mode : Mode) (top first : Bool) (htop : top = true → mode = e.mode) :
    e.Agrees Eq (readAlternatives n mode top first) (readAlternatives m mode false false)
  sequence (m : Nat) (mode : Mode) (first : Bool) (items : List Item) :
    e.Agrees Eq (readSequence n mode first items) (readSequence m mode false items)
  wrapped (m : Nat) (mode : Mode) (start start' : Nat) (kind : Wrapping) :
    e.Agrees Eq (readWrapped n mode start kind) (readWrapped m mode start' kind)

theorem AgreesTo.alternatives_succ {n : Nat} (h : e.AgreesTo n) (m : Nat) (mode : Mode) (top first : Bool)
    (htop : top = true → mode = e.mode) :
    e.Agrees Eq (readAlternatives (n + 1) mode top first) (readAlternatives m mode false false) := by
  cases m with
  | zero => exact .of_fails' (fails_failBack _ _)
  | succ m =>
    rw [readAlternatives, readAlternatives]
    refine (h.sequence m mode first []).bind_eq fun nodes => ?_
    refine (agrees_accept (by decide)).bind_eq fun more => ?_
    refine .ite (fun _ => ?_) fun _ => .pure rfl
    refine agrees_get.bind fun s w hsw => ?_
    have hmode : (if top then s.mode else mode) = mode := by
      cases top with
      | false => rfl
      | true => exact hsw.mode.trans (htop rfl).symm
    dsimp only
    rw [hmode]
    refine (h.alternatives m mode top false htop).bind_eq fun rest => ?_
    exact .pure rfl

theorem AgreesTo.sequence_succ {n : Nat} (h : e.AgreesTo n) (m : Nat) (mode : Mode) (first : Bool)
    (items : List Item) :
    e.Agrees Eq (readSequence (n + 1) mode first items) (readSequence m mode false items) := by
  cases m with
  | zero => exact .of_fails' (fails_failBack _ _)
  | succ m =>
    have hrest (items : List Item) :
        e.Agrees Eq (readSequence n mode first items) (readSequence m mode false items) :=
      h.sequence m mode first items
    rw [readSequence, readSequence]
    refine agrees_peek.bind fun p q hpq => ?_
    refine .ite_iff hpq.ends_iff (fun _ => .pure rfl) fun hends => ?_
    refine agrees_next.bind fun _ _ _ => ?_
    rcases hpq.none_or_same with rfl | ⟨piece, rfl, rfl⟩
    · exact absurd (.inl rfl) hends
    cases piece with
    | escaped c =>
      refine (agrees_readEscape mode c).bind_eq fun node => ?_
      exact hrest _
    | plain c =>
      refine .ite (fun _ => hrest _) fun _ => ?_
      refine .ite (fun _ => agrees_skipLine (hrest _)) fun _ => ?_
      refine .ite (fun _ => ?_) fun _ => ?_
      · refine (agrees_readSet mode).bind_eq fun set => ?_
        exact hrest _
      refine .ite (fun _ => hrest _) fun _ => .ite (fun _ => hrest _) fun _ => .ite (fun _ => hrest _) fun _ => ?_
      refine .ite (fun _ => ?_) fun _ => .ite (fun _ => ?_) fun _ => hrest _
      · refine agrees_offset.bind fun place place' _ => ?_
        refine (agrees_readBounds c).bind_eq fun bounds => ?_
        cases bounds with
        | none => exact hrest _
        | some bounds =>
          refine (agrees_repeatLast _ _ bounds items).bind_eq fun repeated => ?_
          exact hrest _
      · refine agrees_offset.bind fun start start' _ => ?_
        refine (agrees_readOpening mode _ _).bind_eq fun opening => ?_
        cases opening with
        | comment => exact hrest _
        | settings letters => exact .of_fails' (fails_bind (fails_failAt _ _))
        | reference node => exact hrest _
        | wrapping kind =>
          refine (h.wrapped m mode _ _ kind).bind_eq fun nodes => ?_
          exact hrest _

theorem AgreesTo.wrapped_succ {n : Nat} (h : e.AgreesTo n) (m : Nat) (mode : Mode) (start start' : Nat)
    (kind : Wrapping) : e.Agrees Eq (readWrapped (n + 1) mode start kind) (readWrapped m mode start' kind) := by
  cases m with
  | zero => exact .of_fails' (by rw [readWrapped]; exact fails_failBack _ _)
  | succ m =>
    rw [readWrapped.eq_def, readWrapped.eq_def]
    dsimp only
    have hinside (mode : Mode) :
        e.Agrees Eq (readAlternatives n mode false false >>= fun a => pure (Node.ofAlternatives a))
          (readAlternatives m mode false false >>= fun a => pure (Node.ofAlternatives a)) :=
      (h.alternatives m mode false false nofun).bind_eq fun _ => .pure rfl
    have hclosed {x : Read (List Node)} (hx : e.Agrees Eq x x) :
        e.Agrees Eq (closeParenthesis start >>= fun _ => x) (closeParenthesis start' >>= fun _ => x) :=
      (agrees_closeParenthesis start start').bind fun _ _ _ => hx
    cases kind with
    | capture name =>
      refine (agrees_openGroup name).bind_eq fun group => ?_
      refine (hinside mode).bind_eq fun nodes => ?_
      refine hclosed ?_
      exact (agrees_closeGroup _ _).bind fun _ _ _ => .pure rfl
    | plain => exact (hinside mode).bind_eq fun _ => hclosed (.pure rfl)
    | «scoped» inner => exact (hinside inner).bind_eq fun _ => hclosed (.pure rfl)
    | atomic => exact (hinside mode).bind_eq fun _ => hclosed (.pure rfl)
    | ahead wanted => exact (hinside mode).bind_eq fun _ => hclosed (.pure rfl)
    | behind wanted =>
      refine (agrees_lookingBehind (hinside mode)).bind_eq fun nodes => ?_
      refine hclosed ?_
      refine agrees_get.bind fun s w hsw => ?_
      rw [hsw.groups]
      exact .pure rfl
    | choice group =>
      refine (h.sequence m mode false []).bind_eq fun yes => ?_
      refine (agrees_accept (by decide)).bind_eq fun more => ?_
      refine .ite (fun _ => ?_) fun _ => hclosed (.pure rfl)
      refine (h.sequence m mode false []).bind_eq fun no => ?_
      refine agrees_peek.bind fun p q hpq => ?_
      exact .unless (by simp) (hclosed (.pure rfl))

/-- By induction on the depth in the text itself. -/
theorem agreesTo (e : Enclosure) (n : Nat) : e.AgreesTo n := by
  induction n with
  | zero =>
    refine ⟨fun _ _ _ _ _ => .of_fails (fails_failBack _ _), fun _ _ _ _ => .of_fails (fails_failBack _ _),
      fun _ _ _ _ _ => .of_fails ?_⟩
    rw [readWrapped]
    exact fails_failBack _ _
  | succ n ih => exact ⟨ih.alternatives_succ, ih.sequence_succ, ih.wrapped_succ⟩

end Enclosure

end Lexing.Pattern
