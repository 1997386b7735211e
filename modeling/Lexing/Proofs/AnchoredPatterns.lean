import Lexing.Pattern
import Lexing.Proofs.EnclosedSequences

/-! A pattern in parentheses with an anchor before it. It matches where the anchor holds, and there as the pattern
does by itself. -/
namespace Lexing.Pattern

/-- An anchor as it is written before a pattern. -/
inductive Front where
  /-- The start of the text. -/
  | start
  /-- The start of a line if the settings say so, or else that of the text. -/
  | caret
  /-- The start of a line, with the setting for it in the pattern itself. -/
  | lines
deriving DecidableEq

namespace Front

def spelling : Front → String
  | start => "\\A"
  | caret => "^"
  | lines => "(?m)^"

/-- The anchor, and after it the pattern in parentheses. -/
def enclose (front : Front) (source : PatternText) : PatternText :=
  { source with spelling := front.spelling ++ "(?:" ++ source.spelling ++ ")" }

/-- The settings that the pattern in parentheses is read under. -/
def within (front : Front) (settings : List Char) : List Char :=
  match front with
  | lines => settings ++ ['m']
  | _ => settings

def anchor (front : Front) (settings : List Char) : Anchor :=
  match front with
  | start => .textStart
  | _ => if (Mode.ofLetters (front.within settings)).multiline then .lineStart else .textStart

/-- Where the anchor lets a pattern match: at the start of the text, and after a newline if lines count. -/
def Admits (front : Front) (settings : List Char) (text : Array Char) (place : Nat) : Prop :=
  place = 0 ∨ front ≠ start ∧ 'm' ∈ front.within settings ∧ text[place - 1]? = some '\n'

end Front

theorem Mode.multiline_foldl (letters : List Char) (mode : Mode) :
    (letters.foldl (·.set true ·) mode).multiline = (mode.multiline || letters.contains 'm') := by
  induction letters generalizing mode with
  | nil => simp
  | cons c letters ih =>
    rw [List.foldl_cons, ih, List.contains_cons]
    by_cases hc : c = 'm'
    · simp [hc, Mode.set]
    · have hset : (mode.set true c).multiline = mode.multiline := by
        unfold Mode.set
        split <;> first | rfl | exact absurd rfl hc
      rw [hset, beq_false_of_ne (Ne.symm hc), Bool.false_or]

theorem Mode.multiline_ofLetters (letters : List Char) : (Mode.ofLetters letters).multiline = letters.contains 'm' :=
  Mode.multiline_foldl letters {}

theorem Front.holds_anchor (front : Front) (settings : List Char) (text : Array Char) (place : Nat) :
    (front.anchor settings).holds text place = true ↔ front.Admits settings text place := by
  have hlines {letters : List Char} (h : front ≠ .start) (hletters : front.within settings = letters) :
      (if (Mode.ofLetters letters).multiline then Anchor.lineStart else .textStart).holds text place = true ↔
        front.Admits settings text place := by
    rw [Front.Admits, hletters, Mode.multiline_ofLetters]
    by_cases hm : 'm' ∈ letters
    · simp [hm, h, Anchor.holds]
    · simp [hm, Anchor.holds]
  cases front with
  | start => simp [Front.anchor, Front.Admits, Anchor.holds]
  | caret => exact hlines (by decide) rfl
  | lines => exact hlines (by decide) rfl

/-! ## Known pieces -/

section Known

variable {chars : Array Char} {s t : ReadState} {n : Nat} {mode : Mode} {first : Bool} {items : List Item}

theorem not_trailingEscape {place : Nat} {c : Char} (h : chars[place]? = some c) (hc : c ≠ '\\') :
    ¬ TrailingEscape chars place :=
  fun htrailing => hc (Option.some.inj (h.symm.trans htrailing.1))

theorem runOn_accept {c : Char} (hp : pieceAt chars s.offset = some (.plain c))
    (whole : ¬ TrailingEscape chars (s.offset + 1)) :
    (accept c).runOn chars s = .ok (true, { s with offset := s.offset + 1 }) := by
  refine (runOn_bind ..).trans ?_
  rw [runOn_peek, hp]
  change (if some (Piece.plain c) = some (.plain c) then _ else _ : Read Bool).runOn chars s = _
  rw [if_pos rfl, runOn_bind, runOn_next hp whole]
  rfl

/-- An escape that needs nothing after it. -/
theorem runOn_readSequence_escaped {c : Char} {node : Node} (hp : pieceAt chars s.offset = some (.escaped c))
    (whole : ¬ TrailingEscape chars (s.offset + 2)) (hnode : readEscape mode c = pure node) :
    (readSequence (n + 1) mode first items).runOn chars s =
      (readSequence n mode first (.ofNode node :: items)).runOn chars { s with offset := s.offset + 2 } := by
  rw [readSequence, runOn_bind_ok (runOn_peek ..), hp, if_neg (by simp), runOn_bind_ok (runOn_next hp whole)]
  dsimp only
  rw [hnode]
  rfl

/-- `^` is no blank and begins no comment, so it is read alike where these are skipped. -/
theorem runOn_readSequence_caret (hp : pieceAt chars s.offset = some (.plain '^'))
    (whole : ¬ TrailingEscape chars (s.offset + 1)) :
    (readSequence (n + 1) mode first items).runOn chars s =
      (readSequence n mode first
        (.ofNode (.anchor (if mode.multiline then .lineStart else .textStart)) :: items)).runOn chars
        { s with offset := s.offset + 1 } := by
  have hblank : (mode.verbose && isVerboseBlank '^') = false := Bool.and_false _
  have hcomment : (mode.verbose && '^' == '#') = false := Bool.and_false _
  rw [readSequence, runOn_bind_ok (runOn_peek ..), hp, if_neg (by simp), runOn_bind_ok (runOn_next hp whole)]
  dsimp only
  rw [hblank, hcomment]
  rfl

/-- What is read behind a parenthesis is for its opening to say. -/
theorem runOn_readSequence_parenthesis {opening : Opening} (hp : pieceAt chars s.offset = some (.plain '('))
    (whole : ¬ TrailingEscape chars (s.offset + 1))
    (hopening : (readOpening mode s.offset).runOn chars { s with offset := s.offset + 1 } = .ok (opening, t)) :
    (readSequence (n + 1) mode first items).runOn chars s =
      (match opening with
        | .comment => readSequence n mode first items
        | .settings letters => do
          if !first || !items.isEmpty then failAt s.offset .lateSettings
          modify fun s => { s with mode := s.mode.adjust letters [], settings := s.settings ++ letters }
          readSequence n (← get).mode first items
        | .reference node => readSequence n mode first (.ofNode node :: items)
        | .wrapping kind => do
          readSequence n mode first (⟨.other, ← readWrapped n mode s.offset kind⟩ :: items) : Read _).runOn
        chars t := by
  have hblank : (mode.verbose && isVerboseBlank '(') = false := Bool.and_false _
  have hcomment : (mode.verbose && '(' == '#') = false := Bool.and_false _
  rw [readSequence, runOn_bind_ok (runOn_peek ..), hp, if_neg (by simp), runOn_bind_ok (runOn_next hp whole)]
  dsimp only
  rw [hblank, hcomment]
  refine (runOn_bind_ok rfl).trans ?_
  refine (runOn_bind_ok hopening).trans ?_
  rfl

theorem runOn_readSequence_end (hend : pieceAt chars s.offset = none) :
    (readSequence (n + 1) mode first items).runOn chars s = .ok (items.reverse.flatMap Item.nodes, s) := by
  rw [readSequence, runOn_bind_ok (runOn_peek ..), hend, if_pos (.inl rfl)]
  rfl

theorem runOn_accept_end {c : Char} (hend : pieceAt chars s.offset = none) :
    (accept c).runOn chars s = .ok (false, s) := by
  refine (runOn_bind_ok (runOn_peek ..)).trans ?_
  rw [hend]
  rfl

/-- A group that only groups. -/
theorem runOn_readSequence_group (hparenthesis : chars[s.offset]? = some '(')
    (hextended : chars[s.offset + 1]? = some '?') (hplain : chars[s.offset + 2]? = some ':')
    (whole : ¬ TrailingEscape chars (s.offset + 3)) :
    (readSequence (n + 1) mode first items).runOn chars s =
      (readWrapped n mode s.offset .plain >>= fun nodes =>
        readSequence n mode first (⟨.other, nodes⟩ :: items)).runOn chars { s with offset := s.offset + 3 } := by
  have hopening : (readOpening mode s.offset).runOn chars { s with offset := s.offset + 1 } =
      .ok (.wrapping .plain, { s with offset := s.offset + 3 }) := by
    rw [readOpening, runOn_bind_ok (runOn_accept (s := { s with offset := s.offset + 1 })
      (pieceAt_plain hextended (by decide)) (not_trailingEscape hplain (by decide)))]
    exact runOn_bind_ok (runOn_next (s := { s with offset := s.offset + 2 }) (pieceAt_plain hplain (by decide)) whole)
  exact runOn_readSequence_parenthesis (pieceAt_plain hparenthesis (by decide))
    (not_trailingEscape hextended (by decide)) hopening

/-- The setting for lines, given for the whole pattern. -/
theorem runOn_readSequence_lines (hparenthesis : chars[s.offset]? = some '(')
    (hextended : chars[s.offset + 1]? = some '?') (hletter : chars[s.offset + 2]? = some 'm')
    (hclose : chars[s.offset + 3]? = some ')') (whole : ¬ TrailingEscape chars (s.offset + 4)) :
    (readSequence (n + 1) mode true []).runOn chars s =
      (readSequence n (s.mode.adjust ['m'] []) true []).runOn chars
        { s with offset := s.offset + 4, mode := s.mode.adjust ['m'] [], settings := s.settings ++ ['m'] } := by
  have hon {m : Nat} : (readOn [] 'm' (m + 1)).runOn chars { s with offset := s.offset + 3 } =
      .ok ((['m'], ')'), { s with offset := s.offset + 4 }) := by
    rw [readOn]
    exact runOn_bind_ok (runOn_next (s := { s with offset := s.offset + 3 }) (pieceAt_plain hclose (by decide)) whole)
  have hopening : (readOpening mode s.offset).runOn chars { s with offset := s.offset + 1 } =
      .ok (.settings ['m'], { s with offset := s.offset + 4 }) := by
    rw [readOpening, runOn_bind_ok (runOn_accept (s := { s with offset := s.offset + 1 })
      (pieceAt_plain hextended (by decide)) (not_trailingEscape hletter (by decide)))]
    refine (runOn_bind_ok (runOn_next (s := { s with offset := s.offset + 2 }) (pieceAt_plain hletter (by decide))
      (not_trailingEscape hclose (by decide)))).trans ?_
    refine (runOn_bind_ok rfl).trans ?_
    exact runOn_bind_ok hon
  refine (runOn_readSequence_parenthesis (pieceAt_plain hparenthesis (by decide))
    (not_trailingEscape hextended (by decide)) hopening).trans ?_
  rfl

end Known

/-! ## The whole pattern -/

section Whole

variable {chars : Array Char} {s t : ReadState} {named : String → Option Char} {settings : List Char}

/-- Before anything is read. -/
def ReadState.begun (named : String → Option Char) (settings : List Char) : ReadState :=
  { named, mode := Mode.ofLetters settings, settings }

/-- A loop that only looks leaves the state as it is. -/
theorem of_runOn_forIn {α : Type} {xs : List α} {f : α → PUnit → Read (ForInStep PUnit)}
    (hf : ∀ x u r s t, (f x u).runOn chars s = .ok (r, t) → t = s) {u v : PUnit}
    (h : (forIn xs u f).runOn chars s = .ok (v, t)) : t = s := by
  induction xs generalizing u s with
  | nil =>
    cases h
    rfl
  | cons x xs ih =>
    rw [List.forIn_cons] at h
    obtain ⟨r, s', hr, h⟩ := exists_of_runOn_bind h
    cases hf x u r s s' hr
    cases r with
    | done u =>
      cases h
      rfl
    | yield u => exact ih h

/-- All of the pattern is read, and what is read is the tree. -/
theorem of_runOn_readWhole {tree : Node} (h : (readWhole settings).runOn chars { named } = .ok (tree, t)) :
    ¬ TrailingEscape chars 0 ∧ pieceAt chars t.offset = none ∧ ∃ alternatives,
      (readAlternatives (3 * chars.size + 3) (Mode.ofLetters settings) true true).runOn chars
        (.begun named settings) = .ok (alternatives, t) ∧ tree = Node.sequence (Node.ofAlternatives alternatives) := by
  obtain ⟨_, s₀, hmove, h⟩ := exists_of_runOn_bind h
  obtain ⟨rfl, whole⟩ := of_runOn_moveTo hmove
  obtain ⟨_, s₁, hmodify, h⟩ := exists_of_runOn_bind h
  cases hmodify
  obtain ⟨_, s₂, hread, h⟩ := exists_of_runOn_bind h
  cases hread
  obtain ⟨_, s₃, hget, h⟩ := exists_of_runOn_bind h
  cases hget
  obtain ⟨alternatives, s₄, halternatives, h⟩ := exists_of_runOn_bind h
  obtain ⟨_, s₅, hget, h⟩ := exists_of_runOn_bind h
  cases hget
  obtain ⟨_, h⟩ := of_runOn_unless (by simp) h
  obtain ⟨piece, s₆, hpeek, h⟩ := exists_of_runOn_bind h
  cases hpeek
  obtain ⟨hnone, h⟩ := of_runOn_unless (by simp) h
  obtain ⟨_, s₇, hget, h⟩ := exists_of_runOn_bind h
  cases hget
  obtain ⟨_, s₈, hasked, h⟩ := exists_of_runOn_bind h
  have hkept : s₈ = s₄ := by
    refine of_runOn_forIn (fun x u r s t hx => ?_) hasked
    obtain ⟨_, s', hgroup, hx⟩ := exists_of_runOn_bind hx
    cases hgroup
    obtain ⟨_, hx⟩ := of_runOn_unless (by simp) hx
    cases hx
    rfl
  subst hkept
  dsimp only at h
  split at h
  · exact absurd h (fails_bind (fails_throw _) _ _ _)
  · obtain ⟨_, h⟩ := of_runOn_unless (by simp) h
    cases h
    exact ⟨whole, by simpa using hnone, alternatives, halternatives, rfl⟩

theorem exists_of_compile {source : PatternText} {pattern : Pattern} (h : compile source settings = .ok pattern) :
    ∃ tree t, (readWhole settings).runOn source.spelling.toList.toArray { named := source.named } = .ok (tree, t) ∧
      pattern = ⟨source.spelling, tree, t.groups.size, t.names⟩ := by
  unfold compile at h
  split at h
  · next tree t hread =>
    cases h
    exact ⟨tree, t, hread, rfl⟩
  · cases h

end Whole

/-! ## Behind the anchor -/

namespace Front

/-- What the pattern in parentheses comes after. -/
def opened : Front → List Char
  | start => ['\\', 'A', '(', '?', ':']
  | caret => ['^', '(', '?', ':']
  | lines => ['(', '?', 'm', ')', '^', '(', '?', ':']

theorem toList_enclose (front : Front) (source : PatternText) :
    (front.enclose source).spelling.toList = front.opened ++ source.spelling.toList ++ [')'] := by
  cases front <;> simp [enclose, spelling, opened]

/-- The pattern by itself, and in parentheses after the anchor. -/
def enclosure (front : Front) (source : PatternText) (settings : List Char) : Enclosure where
  inner := source.spelling.toList.toArray
  outer := (front.enclose source).spelling.toList.toArray
  gap := front.opened.length
  mode := Mode.ofLetters (front.within settings)
  size_eq := by simp [toList_enclose]; omega
  get_eq := by
    intro i hi
    rw [toList_enclose, List.getElem?_toArray, List.append_assoc, List.getElem?_append_right (Nat.le_add_right _ _),
      Nat.add_sub_cancel_left, List.getElem?_append_left (by simpa using hi), List.getElem?_toArray]
  close := by
    rw [toList_enclose, List.getElem?_toArray, List.append_assoc, List.getElem?_append_right (Nat.le_add_right _ _),
      Nat.add_sub_cancel_left, List.getElem?_append_right (by simp)]
    simp

/-- Where the parenthesis is opened, with the settings that hold in it. -/
def behind (front : Front) (named : String → Option Char) (settings : List Char) : ReadState where
  offset := front.opened.length
  named := named
  mode := Mode.ofLetters (front.within settings)
  settings := front.within settings

theorem outer_enclosure (front : Front) (source : PatternText) (settings : List Char) :
    (front.enclosure source settings).outer = (front.opened ++ (source.spelling.toList ++ [')'])).toArray := by
  rw [← List.append_assoc, ← toList_enclose]
  rfl

/-- The anchor is read, and the parenthesis is opened. Each of the fronts is given with its pieces, a setting for
lines taking a step of its own. -/
theorem runOn_opened (front : Front) (source : PatternText) (settings : List Char) (n : Nat) :
    ∃ k place, (readSequence (n + 3) (Mode.ofLetters settings) true []).runOn
        (front.enclosure source settings).outer (.begun source.named settings) =
      (readWrapped k (Mode.ofLetters (front.within settings)) place .plain >>= fun nodes =>
        readSequence k (Mode.ofLetters (front.within settings)) true
          [⟨.other, nodes⟩, .ofNode (.anchor (front.anchor settings))]).runOn
        (front.enclosure source settings).outer (front.behind source.named settings) := by
  have whole : ¬ TrailingEscape (front.enclosure source settings).outer front.opened.length :=
    (front.enclosure source settings).whole_gap
  have hchar (i : Nat) (hi : i < front.opened.length) :
      (front.enclosure source settings).outer[i]? = front.opened[i]? := by
    rw [outer_enclosure, List.getElem?_toArray, List.getElem?_append_left hi]
  generalize (front.enclosure source settings).outer = chars at whole hchar
  cases front with
  | start =>
    have hanchor : pieceAt chars 0 = some (.escaped 'A') := pieceAt_escaped (hchar 0 (by decide)) (hchar 1 (by decide))
    refine ⟨n + 1, 2, ?_⟩
    rw [runOn_readSequence_escaped hanchor (not_trailingEscape (c := '(') (hchar 2 (by decide)) (by decide)) rfl]
    exact runOn_readSequence_group (hchar 2 (by decide)) (hchar 3 (by decide)) (hchar 4 (by decide)) whole
  | caret =>
    have hanchor : pieceAt chars 0 = some (.plain '^') := pieceAt_plain (hchar 0 (by decide)) (by decide)
    refine ⟨n + 1, 1, ?_⟩
    rw [runOn_readSequence_caret hanchor (not_trailingEscape (c := '(') (hchar 1 (by decide)) (by decide))]
    exact runOn_readSequence_group (hchar 1 (by decide)) (hchar 2 (by decide)) (hchar 3 (by decide)) whole
  | lines =>
    have hmode : (Mode.ofLetters settings).adjust ['m'] [] = Mode.ofLetters (settings ++ ['m']) := by
      simp [Mode.ofLetters, Mode.adjust]
    have hanchor : pieceAt chars 4 = some (.plain '^') := pieceAt_plain (hchar 4 (by decide)) (by decide)
    refine ⟨n, 5, ?_⟩
    rw [runOn_readSequence_lines (hchar 0 (by decide)) (hchar 1 (by decide)) (hchar 2 (by decide)) (hchar 3 (by decide))
      (not_trailingEscape (c := '^') (hchar 4 (by decide)) (by decide))]
    change (readSequence (n + 2) ((Mode.ofLetters settings).adjust ['m'] []) true []).runOn chars
      { offset := 4, named := source.named, mode := (Mode.ofLetters settings).adjust ['m'] [],
        settings := settings ++ ['m'] } = _
    rw [hmode, runOn_readSequence_caret hanchor (not_trailingEscape (c := '(') (hchar 5 (by decide)) (by decide))]
    exact runOn_readSequence_group (hchar 5 (by decide)) (hchar 6 (by decide)) (hchar 7 (by decide)) whole

/-- What stands in a parenthesis that is closed. -/
theorem of_runOn_readWrapped {chars : Array Char} {s t : ReadState} {mode : Mode} {k start : Nat} {nodes : List Node}
    (h : (readWrapped k mode start .plain).runOn chars s = .ok (nodes, t)) :
    ∃ n alternatives u, k = n + 1 ∧
      (readAlternatives n mode false false).runOn chars s = .ok (alternatives, u) ∧
      next.runOn chars u = .ok (some (.plain ')'), t) ∧ nodes = Node.ofAlternatives alternatives := by
  cases k with
  | zero =>
    rw [readWrapped] at h
    exact absurd h (fails_failBack _ _ _ _ _)
  | succ n =>
    rw [readWrapped.eq_def] at h
    dsimp only at h
    obtain ⟨_, u, hinside, h⟩ := exists_of_runOn_bind h
    obtain ⟨alternatives, _, halternatives, hinside⟩ := exists_of_runOn_bind hinside
    cases hinside
    obtain ⟨_, _, hclose, h⟩ := exists_of_runOn_bind h
    cases h
    exact ⟨n, alternatives, u, rfl, halternatives, Enclosure.of_runOn_closeParenthesis hclose, rfl⟩

/-- Read by itself and behind the anchor, the pattern is the same tree. -/
theorem compile_enclose {front : Front} {source : PatternText} {settings : List Char} {inner outer : Pattern}
    (hinner : compile source (front.within settings) = .ok inner)
    (houter : compile (front.enclose source) settings = .ok outer) :
    outer.groupCount = inner.groupCount ∧ outer.names = inner.names ∧ ∃ nodes, inner.tree = Node.sequence nodes ∧
      outer.tree = Node.sequence (.anchor (front.anchor settings) :: nodes) := by
  let e := front.enclosure source settings
  obtain ⟨_, t, hread, rfl⟩ := exists_of_compile hinner
  obtain ⟨whole, hend, alternatives, halternatives, rfl⟩ := of_runOn_readWhole hread
  obtain ⟨_, t', hread', rfl⟩ := exists_of_compile houter
  obtain ⟨_, _, alternatives', halternatives', rfl⟩ := of_runOn_readWhole hread'
  change (readAlternatives (3 * e.outer.size + 3) _ true true).runOn e.outer _ = _ at halternatives'
  obtain ⟨n, hn⟩ : ∃ n, 3 * e.outer.size + 3 = n + 4 := ⟨3 * e.outer.size - 1, by have := e.size_eq; omega⟩
  rw [hn, readAlternatives] at halternatives'
  obtain ⟨nodes', u, hsequence, hrest⟩ := exists_of_runOn_bind halternatives'
  -- The anchor, and the text in parentheses.
  obtain ⟨k, place, hopened⟩ := runOn_opened front source settings n
  obtain ⟨nodes, v, hwrapped, hsequence⟩ := exists_of_runOn_bind (hopened.symm.trans hsequence)
  obtain ⟨k, inside, w, rfl, hinside, hclose, rfl⟩ := of_runOn_readWrapped hwrapped
  have hfollows : e.Follows (.begun source.named (front.within settings)) (front.behind source.named settings) :=
    ⟨.inside (Nat.zero_le _) whole, rfl, rfl, rfl, rfl, rfl⟩
  obtain ⟨rfl, hfollows⟩ :=
    (e.agreesTo _).alternatives _ _ _ _ (fun _ => rfl) _ _ _ _ _ _ hfollows halternatives hinside
  -- The parenthesis that closes the text is the last of the longer one.
  have hlast : v = { w with offset := w.offset + 1 } ∧ pieceAt e.outer v.offset = none := by
    rcases of_runOn_next hclose with ⟨hnone, _⟩ | ⟨p, hp, hpiece, rfl, _⟩
    · cases hnone
    · cases hp
      rcases hfollows.places.next_cases with ⟨p, hp, _⟩ | ⟨_, _, _, hafter⟩ | ⟨_, hnone⟩
      · cases hend.symm.trans hp
      · exact ⟨rfl, hafter⟩
      · cases hnone.symm.trans hpiece
  obtain ⟨rfl, hlast⟩ := hlast
  cases (runOn_readSequence_end hlast).symm.trans hsequence
  rw [runOn_bind_ok (runOn_accept_end hlast)] at hrest
  cases hrest
  refine ⟨congrArg Array.size hfollows.groups.symm, hfollows.names.symm, _, rfl, ?_⟩
  simp [Node.ofAlternatives, Item.ofNode]

/-- Where the anchor holds, the match is that of the pattern by itself. -/
theorem matchAt_enclose {front : Front} {source : PatternText} {settings : List Char} {inner outer : Pattern}
    (hinner : compile source (front.within settings) = .ok inner)
    (houter : compile (front.enclose source) settings = .ok outer) (text : Array Char) (place : Nat) :
    outer.matchAt text place =
      if (front.anchor settings).holds text place then inner.matchAt text place else none := by
  obtain ⟨hcount, hnames, nodes, hinner, houter⟩ := compile_enclose hinner houter
  unfold matchAt
  rw [hcount, hnames, hinner, houter]
  by_cases hinside : place ≤ text.size
  · simp only [dif_pos hinside]
    cases nodes with
    | nil => rfl
    | cons node nodes => rfl
  · simp [hinside]

end Front

end Lexing.Pattern
