import Lexing.Proofs.Enclosure

/-! Escapes, sets and openings of groups, read in a pattern by itself and between parentheses. -/
namespace Lexing.Pattern

namespace Enclosure

variable {e : Enclosure} {α : Type}

/-! ## Pieces and names -/

section Basic

theorem agrees_accept {c : Char} (hc : c ≠ ')') : e.Agrees Eq (accept c) (accept c) := by
  refine agrees_peek.bind fun p q hpq => ?_
  cases hpq with
  | same p =>
    refine .ite (fun _ => ?_) fun _ => .pure rfl
    exact agrees_next.bind fun _ _ _ => .pure rfl
  | close =>
    rw [if_neg (by simp), if_neg (by simpa using hc.symm)]
    exact .pure rfl

theorem agrees_takeSome {test : Char → Bool} (hclose : test ')' = false) (n : Nat) :
    e.Agrees Eq (takeSome test n) (takeSome test n) := by
  induction n with
  | zero => exact .pure rfl
  | succ n ih =>
    rw [takeSome]
    refine agrees_peek.bind fun p q hpq => ?_
    cases hpq with
    | same p =>
      split
      · refine .ite (fun _ => ?_) fun _ => .pure rfl
        refine agrees_next.bind fun _ _ _ => ?_
        exact ih.bind_eq fun _ => .pure rfl
      · exact .pure rfl
    | close =>
      simp only [hclose]
      exact .pure rfl

theorem agrees_nextGroup : e.Agrees Eq nextGroup nextGroup := by
  refine agrees_get.bind fun s w hsw => .pure ?_
  rw [hsw.groups]

theorem agrees_isClosed (group : Nat) : e.Agrees Eq (isClosed group) (isClosed group) := by
  refine agrees_get.bind fun s w hsw => .pure ?_
  rw [hsw.groups]

theorem agrees_checkBehind (group : Nat) :
    e.Agrees (fun _ _ => True) (checkBehind group) (checkBehind group) := by
  refine agrees_get.bind fun s w hsw => ?_
  rw [hsw.limit]
  split
  · exact .pure trivial
  · refine (agrees_isClosed group).bind fun a b hab => ?_
    refine .unless (by simp) ?_
    exact .unless (by simp) (.pure trivial)

theorem agrees_takeName_go (close : Char) (what : String) (taken : List Char) (n m : Nat) :
    e.Agrees Eq (takeName.go close what taken n) (takeName.go close what taken m) := by
  induction n generalizing taken m with
  | zero => exact .of_fails (fails_failBack _ _)
  | succ n ih =>
    cases m with
    | zero => exact .of_fails' (fails_failBack _ _)
    | succ m =>
      rw [takeName.go, takeName.go]
      refine agrees_next_bind (fails_ite (fails_failBack _ _) (fails_failBack _ _)) fun piece => ?_
      cases piece with
      | plain c =>
        refine .ite (fun _ => ?_) fun _ => ih _ _
        exact .unless (by simp) (.pure rfl)
      | escaped c => exact ih _ _

theorem agrees_remaining : e.Agrees (fun _ _ => True) remaining remaining := by
  intro s w a b s' w' hs hx hy
  cases hx
  cases hy
  exact ⟨trivial, hs⟩

theorem agrees_takeName (close : Char) (what : String) :
    e.Agrees Eq (takeName close what) (takeName close what) :=
  agrees_remaining.bind fun _ _ _ => agrees_takeName_go _ _ _ _ _

end Basic

/-! ## Escapes and sets -/

section Escape

theorem agrees_readHex (c : Char) (n : Nat) : e.Agrees Eq (readHex c n) (readHex c n) := by
  refine (agrees_takeSome (by decide) n).bind_eq fun digits => ?_
  exact .ite (fun _ => .pure rfl) fun _ => .of_fails (fails_failBack _ _)

theorem agrees_readLongHex : e.Agrees Eq readLongHex readLongHex := by
  refine (agrees_takeSome (by decide) 8).bind_eq fun digits => ?_
  exact .unless (by simp) (.unless (by simp) (.unless (by simp) (.pure rfl)))

theorem agrees_readNamed : e.Agrees Eq readNamed readNamed := by
  refine (agrees_accept (by decide)).bind_eq fun opened => .unless (by simp) ?_
  refine (agrees_takeName _ _).bind_eq fun name => ?_
  refine agrees_get.bind fun s w hsw => ?_
  rw [hsw.named]
  split
  · exact .pure rfl
  · exact .of_fails (fails_failBack _ _)

theorem agrees_readCode? (c : Char) : e.Agrees Eq (readCode? c) (readCode? c) := by
  unfold readCode?
  split
  · exact .pure rfl
  · refine .ite (fun _ => ?_) fun _ => .ite (fun _ => ?_) fun _ => .ite (fun _ => ?_) fun _ =>
      .ite (fun _ => ?_) fun _ => .pure rfl
    · exact (agrees_readHex 'x' 2).bind_eq fun _ => .pure rfl
    · exact (agrees_readHex 'u' 4).bind_eq fun _ => .pure rfl
    · exact agrees_readLongHex.bind_eq fun _ => .pure rfl
    · exact agrees_readNamed.bind_eq fun _ => .pure rfl

@[simp] theorem fails_badEscape (c : Char) : (badEscape c : Read α).Fails := fails_failBack _ _

theorem agrees_octalCode (digits : List Char) : e.Agrees Eq (octalCode digits) (octalCode digits) :=
  .unless (by simp) (.pure rfl)

theorem agrees_readSetEscape (mode : Mode) (c : Char) :
    e.Agrees Eq (readSetEscape mode c) (readSetEscape mode c) := by
  unfold readSetEscape
  split
  · exact .pure rfl
  · refine .ite (fun _ => .pure rfl) fun _ => ?_
    refine (agrees_readCode? c).bind_eq fun code => ?_
    split
    · exact .pure rfl
    · refine .ite (fun _ => ?_) fun _ => .unless (by simp) (.pure rfl)
      exact (agrees_takeSome (by decide) 2).bind_eq fun _ => (agrees_octalCode _).bind_eq fun _ => .pure rfl

theorem agrees_readReference (mode : Mode) (digits : List Char) :
    e.Agrees Eq (readReference mode digits) (readReference mode digits) := by
  refine agrees_nextGroup.bind fun _ _ _ => .unless (by simp) ?_
  refine (agrees_isClosed _).bind fun _ _ _ => .unless (by simp) ?_
  exact (agrees_checkBehind _).bind fun _ _ _ => .pure rfl

theorem agrees_readDigits (mode : Mode) (c : Char) : e.Agrees Eq (readDigits mode c) (readDigits mode c) := by
  refine (agrees_takeSome (by decide) 1).bind_eq fun digits => ?_
  split
  · refine .ite (fun _ => ?_) fun _ => agrees_readReference _ _
    refine (agrees_takeSome (by decide) 1).bind_eq fun more => ?_
    split
    · exact (agrees_octalCode _).bind_eq fun _ => .pure rfl
    · exact agrees_readReference _ _
  · exact agrees_readReference _ _

theorem agrees_readEscape (mode : Mode) (c : Char) : e.Agrees Eq (readEscape mode c) (readEscape mode c) := by
  unfold readEscape
  dsimp only
  split
  · exact .pure rfl
  · split
    · exact .pure rfl
    · refine (agrees_readCode? c).bind_eq fun code => ?_
      split
      · exact .pure rfl
      · refine .ite (fun _ => ?_) fun _ => .ite (fun _ => agrees_readDigits _ _) fun _ => .unless (by simp) (.pure rfl)
        exact (agrees_takeSome (by decide) 2).bind_eq fun _ => .pure rfl

theorem agrees_itemOf (mode : Mode) (piece : Piece) : e.Agrees Eq (itemOf mode piece) (itemOf mode piece) := by
  cases piece with
  | plain c => exact .pure rfl
  | escaped c => exact agrees_readSetEscape mode c

theorem agrees_readItems (mode : Mode) (start start' : Nat) (items : List ClassItem) (n m : Nat) :
    e.Agrees Eq (readItems mode start items n) (readItems mode start' items m) := by
  induction n generalizing items m with
  | zero => exact .of_fails (fails_failAt _ _)
  | succ n ih =>
    cases m with
    | zero => exact .of_fails' (fails_failAt _ _)
    | succ m =>
      rw [readItems, readItems]
      refine agrees_next_bind (fails_failAt _ _) fun piece => ?_
      refine .ite (fun _ => .pure rfl) fun _ => ?_
      refine (agrees_itemOf mode piece).bind_eq fun low => ?_
      refine (agrees_accept (by decide)).bind_eq fun dash => ?_
      refine .ite (fun _ => ih _ _) fun _ => ?_
      refine agrees_next_bind (fails_failAt _ _) fun upper => ?_
      refine .ite (fun _ => .pure rfl) fun _ => ?_
      refine (agrees_itemOf mode upper).bind_eq fun high => ?_
      dsimp only
      split
      · exact .unless (by simp) (ih _ _)
      · exact .of_fails (fails_failBack _ _)

theorem agrees_readSet (mode : Mode) : e.Agrees Eq (readSet mode) (readSet mode) := by
  refine agrees_offset.bind fun _ _ _ => ?_
  refine (agrees_accept (by decide)).bind_eq fun negated => ?_
  refine agrees_remaining.bind fun _ _ _ => ?_
  exact (agrees_readItems _ _ _ _ _ _).bind_eq fun _ => .pure rfl

end Escape

/-! ## What a parenthesis begins -/

section Group

@[simp] theorem fails_unknownSetting (piece : Piece) (other : Defect) :
    (unknownSetting piece other : Read α).Fails := by
  cases piece <;> exact fails_failBack _ _

theorem agrees_readOn (on : List Char) (c : Char) (n m : Nat) : e.Agrees Eq (readOn on c n) (readOn on c m) := by
  induction n generalizing on c m with
  | zero => exact .of_fails (fails_failBack _ _)
  | succ n ih =>
    cases m with
    | zero => exact .of_fails' (fails_failBack _ _)
    | succ m =>
      rw [readOn, readOn]
      refine .unless (by simp) (.unless (by simp) ?_)
      refine agrees_next_bind (fails_failBack _ _) fun piece => ?_
      cases piece with
      | plain d => exact .ite (fun _ => .pure rfl) fun _ => .ite (fun _ => ih _ _ _) fun _ =>
          .of_fails (fails_unknownSetting _ _)
      | escaped d => exact .of_fails (fails_unknownSetting _ _)

theorem agrees_readOff (off : List Char) (c : Char) (n m : Nat) :
    e.Agrees Eq (readOff off c n) (readOff off c m) := by
  induction n generalizing off c m with
  | zero => exact .of_fails (fails_failBack _ _)
  | succ n ih =>
    cases m with
    | zero => exact .of_fails' (fails_failBack _ _)
    | succ m =>
      rw [readOff, readOff]
      refine .unless (by simp) ?_
      refine agrees_next_bind (fails_failBack _ _) fun piece => ?_
      cases piece with
      | plain d => exact .ite (fun _ => .pure rfl) fun _ => .ite (fun _ => ih _ _ _) fun _ =>
          .of_fails (fails_unknownSetting _ _)
      | escaped d => exact .of_fails (fails_unknownSetting _ _)

theorem agrees_readSettings (mode : Mode) (c : Char) : e.Agrees Eq (readSettings mode c) (readSettings mode c) := by
  refine agrees_remaining.bind fun _ _ _ => ?_
  refine .ite_bind (fun _ => .pure rfl) (fun _ => agrees_readOn _ _ _ _) fun read => ?_
  refine .ite (fun _ => .pure rfl) fun _ => .unless (by simp) ?_
  refine .ite (fun _ => ?_) fun _ => ?_
  · refine agrees_next_bind (fails_bind (fails_failBack _ _)) fun piece => ?_
    cases piece with
    | plain d =>
      refine .ite (fun _ => ?_) fun _ => .of_fails (fails_bind (fails_unknownSetting _ _))
      refine (agrees_readOff _ _ _ _).bind_eq fun off => ?_
      exact .unless (by simp) (.unless (by simp) (.pure rfl))
    | escaped d => exact .of_fails (fails_bind (fails_unknownSetting _ _))
  · exact .bind_eq (.pure rfl) fun off => .unless (by simp) (.unless (by simp) (.pure rfl))

theorem agrees_groupName (close : Char) : e.Agrees Eq (groupName close) (groupName close) := by
  refine (agrees_takeName _ _).bind_eq fun name => ?_
  exact .unless (by simp) (.pure rfl)

theorem agrees_groupNamed (name : String) : e.Agrees Eq (groupNamed name) (groupNamed name) := by
  refine agrees_get.bind fun s w hsw => ?_
  rw [hsw.names]
  split
  · exact .pure rfl
  · exact .of_fails (fails_failBack _ _)

theorem agrees_readNamedReference (mode : Mode) :
    e.Agrees Eq (readNamedReference mode) (readNamedReference mode) := by
  refine (agrees_groupName _).bind_eq fun name => ?_
  refine (agrees_groupNamed name).bind_eq fun group => ?_
  refine (agrees_isClosed group).bind fun _ _ _ => .unless (by simp) ?_
  exact (agrees_checkBehind _).bind fun _ _ _ => .pure rfl

theorem agrees_readCondition : e.Agrees Eq readCondition readCondition := by
  refine (agrees_takeName _ _).bind_eq fun name => ?_
  have hchecked (group : Nat) : e.Agrees Eq (checkBehind group >>= fun _ => pure group)
      (checkBehind group >>= fun _ => pure group) := (agrees_checkBehind group).bind fun _ _ _ => .pure rfl
  refine .ite (fun _ => ?_) fun _ => ?_
  · refine (agrees_groupNamed name).bind_eq fun group => ?_
    exact hchecked group
  · dsimp only
    split
    · exact .of_fails (fails_bind (fails_failBack _ _))
    · refine .unless (by simp) ?_
      refine agrees_offset.bind fun _ _ _ => ?_
      refine (agrees_modify fun s w hsw => ?_).bind fun _ _ _ => hchecked _
      -- Only what is asked for changes, which no reader looks at before the end.
      split <;> split <;> exact { hsw with }
    · exact .of_fails (fails_bind (fails_failBack _ _))

theorem agrees_skipComment (start start' n m : Nat) :
    e.Agrees (fun _ _ => True) (skipComment start n) (skipComment start' m) := by
  induction n generalizing m with
  | zero => exact .of_fails (fails_failAt _ _)
  | succ n ih =>
    cases m with
    | zero => exact .of_fails' (fails_failAt _ _)
    | succ m =>
      rw [skipComment, skipComment]
      refine agrees_next_bind (fails_failAt _ _) fun piece => ?_
      exact .ite (fun _ => .pure trivial) fun _ => ih m

theorem agrees_readOpening (mode : Mode) (start start' : Nat) :
    e.Agrees Eq (readOpening mode start) (readOpening mode start') := by
  refine (agrees_accept (by decide)).bind_eq fun extended => ?_
  refine .ite (fun _ => .pure rfl) fun _ => ?_
  refine agrees_next_bind (fails_failBack _ _) fun piece => ?_
  split
  · exact .of_fails (fails_failBack _ _)
  · exact .of_fails (fails_failBack _ _)
  · refine (agrees_accept (by decide)).bind_eq fun opened => ?_
    refine .ite (fun _ => ?_) fun _ => ?_
    · exact (agrees_groupName _).bind_eq fun _ => .pure rfl
    · refine (agrees_accept (by decide)).bind_eq fun refers => ?_
      refine .ite (fun _ => agrees_readNamedReference mode) fun _ => ?_
      refine agrees_next.bind fun p q hpq => .of_fails ?_
      cases p <;> exact fails_failBack _ _
  · exact .pure rfl
  · refine agrees_remaining.bind fun _ _ _ => ?_
    exact (agrees_skipComment _ _ _ _).bind fun _ _ _ => .pure rfl
  · exact .pure rfl
  · exact .pure rfl
  · refine agrees_next_bind (fails_failBack _ _) fun piece => ?_
    split
    · exact .of_fails (fails_failBack _ _)
    · exact .pure rfl
    · exact .pure rfl
    · exact .of_fails (fails_failBack _ _)
  · exact agrees_readCondition.bind_eq fun _ => .pure rfl
  · exact .pure rfl
  · exact .ite (fun _ => agrees_readSettings _ _) fun _ => .of_fails (fails_failBack _ _)

end Group

end Enclosure

end Lexing.Pattern
