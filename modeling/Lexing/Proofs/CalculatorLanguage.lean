import Lexing.Proofs.CalculatorRules
import Lexing.Proofs.Unmatched

/-! The language of the calculator, character by character, and that its lexer lexes just that. What is
expected of a text is told without rules, matches or environments. -/
namespace Lexing.Calculator

open Pattern Definition

/-! ## What is expected -/

/-- Digits begin here: there are none just before. -/
def startsNumber (cs : List Char) (place : Nat) : Bool :=
  cs[place]?.any Char.isDigit && (place == 0 || !cs[place - 1]?.any Char.isDigit)

def startsTooLong (cs : List Char) (place : Nat) : Bool :=
  startsNumber cs place && Text.digitLimit < (digitsFrom cs place).length

def firstTooLong? (cs : List Char) : Option Nat := (List.range cs.length).find? (startsTooLong cs)

def firstIllegal? (cs : List Char) : Option Nat := cs.findIdx? (!isLegal ·)

def valueOf (digits : List Char) : Nat := Nat.ofDigits 10 (digits.reverse.map fun c => c.toNat - '0'.toNat)

def lineAt (cs : List Char) (place : Nat) : Int := 1 + (cs.take place).count '\n'

def columnAt (cs : List Char) (place : Nat) : Int := place - lineStart (cs.take place)

/-- The token that begins at a place, if one does. -/
def tokenAt (cs : List Char) (label : Option String) (place : Nat) : Option Token :=
  let position (length : Nat) : Position := ⟨place, lineAt cs place, columnAt cs place, length, label⟩
  match cs[place]?.bind signType with
  | some type => some ⟨.str type, .null, some (position 1)⟩
  | none =>
    if startsNumber cs place then
      let digits := digitsFrom cs place
      some ⟨.str "NUM", .int (valueOf digits), some (position digits.length)⟩
    else none

def tokensUpTo (cs : List Char) (label : Option String) (place : Nat) : List Token :=
  (List.range place).filterMap (tokenAt cs label)

def unmatchedAt (cs : List Char) (label : Option String) (place : Nat) : Unmatched :=
  ⟨place, lineAt cs place, columnAt cs place, String.ofList (cs.drop place), label⟩

def tooLongAt (cs : List Char) (place : Nat) : Fault := .numeral (.tooLong (digitsFrom cs place).length)

/-- Whichever comes first goes wrong, a number that is too long or a character that is not legal. -/
def expected (cs : List Char) (label : Option String) : Except Fault (List Token) :=
  match firstTooLong? cs, firstIllegal? cs with
  | some j, none => .error (tooLongAt cs j)
  | some j, some i => .error (if j < i then tooLongAt cs j else .unmatched (unmatchedAt cs label i))
  | none, some i => .error (.unmatched (unmatchedAt cs label i))
  | none, none => .ok (tokensUpTo cs label cs.length ++ [.endOfStream])

theorem expected_tooLong {cs : List Char} {j : Nat} (label : Option String) (hj : firstTooLong? cs = some j)
    (hi : ∀ i, firstIllegal? cs = some i → j < i) : expected cs label = .error (tooLongAt cs j) := by
  unfold expected
  rw [hj]
  cases h : firstIllegal? cs with
  | none => rfl
  | some i => simp only [hi i h, if_true]

theorem expected_unmatched {cs : List Char} {i : Nat} (label : Option String) (hi : firstIllegal? cs = some i)
    (hj : ∀ j, firstTooLong? cs = some j → i ≤ j) :
    expected cs label = .error (.unmatched (unmatchedAt cs label i)) := by
  unfold expected
  rw [hi]
  cases h : firstTooLong? cs with
  | none => rfl
  | some j => simp only [Nat.not_lt.mpr (hj j h), if_false]

theorem read_token {cs : List Char} {label : Option String} {place : Nat} {token : Token} (env : Environment)
    (h : tokenAt cs label place = some token) : token.mapValues env.read = token := by
  unfold tokenAt at h
  split at h
  · cases h
    rfl
  · split at h
    · cases h
      rfl
    · cases h

/-! ## Stretches that are read -/

section

variable {cs : List Char} {label : Option String} {place n : Nat} {rule : Rule} {outcome : Except Fault Value}

theorem bind_signType_of_any (h : cs[place]?.any Char.isDigit) : cs[place]?.bind signType = none := by
  obtain ⟨c, hc, hdigit⟩ := (Option.any_eq_true _ _).mp h
  rw [hc, Option.bind_some, signType_of_isDigit hdigit]

theorem startsNumber_succ (h : cs[place]?.any Char.isDigit) : startsNumber cs (place + 1) = false := by
  simp [startsNumber, h]

namespace Reads

theorem pos (h : Reads cs place rule n outcome) : 0 < n := by
  cases h with
  | sign | blank => exact Nat.one_pos
  | number here | tooLong here => exact List.length_pos_iff.mpr (digitsFrom_ne_nil here)

/-- Beyond its first character, a stretch has digits only. -/
theorem any_isDigit {k : Nat} (h : Reads cs place rule n outcome) (hn : 1 < n) (hk : k < n) :
    cs[place + k]?.any Char.isDigit := by
  cases h with
  | sign | blank => exact absurd hn (Nat.lt_irrefl 1)
  | number here | tooLong here => exact any_of_lt_runLength hk

/-- No digits go on where a stretch ends. -/
theorem apart (h : Reads cs place rule n outcome) (hnext : cs[place + n]?.any Char.isDigit) :
    startsNumber cs (place + n) := by
  have hpos := h.pos
  have hbefore : ¬ cs[place + n - 1]?.any Char.isDigit := by
    cases h with
    | @sign _ c _ here hsign =>
      rw [Nat.add_sub_cancel, here]
      simp [isDigit_of_signType hsign]
    | @blank c here hblank =>
      rw [Nat.add_sub_cancel, here]
      simp [isDigit_of_isBlank hblank]
    | number | tooLong => exact absurd hnext (not_any_runLength _ _ _)
  simp [startsNumber, hnext, hbefore]

theorem legal {k : Nat} (h : Reads cs place rule n outcome) (hk : k < n) : cs[place + k]?.all isLegal := by
  cases h with
  | sign here hsign =>
    obtain rfl := Nat.lt_one_iff.mp hk
    rw [Nat.add_zero, here, Option.all_some, isLegal, hsign]
    rfl
  | blank here hblank =>
    obtain rfl := Nat.lt_one_iff.mp hk
    rw [Nat.add_zero, here, Option.all_some, isLegal, hblank, Bool.or_true]
  | number | tooLong =>
    obtain ⟨c, hc, hdigit⟩ := (Option.any_eq_true _ _).mp (any_of_lt_runLength hk)
    rw [hc, Option.all_some, isLegal, hdigit, Bool.or_true, Bool.true_or]

theorem startsNumber_within {k : Nat} (h : Reads cs place rule n outcome) (hk : k + 1 < n) :
    startsNumber cs (place + (k + 1)) = false :=
  startsNumber_succ (h.any_isDigit (by omega) (by omega))

theorem tokenAt_within {k : Nat} (h : Reads cs place rule n outcome) (hk : k + 1 < n) :
    tokenAt cs label (place + (k + 1)) = none := by
  have hdigit := h.any_isDigit (by omega) hk
  simp [tokenAt, bind_signType_of_any hdigit, h.startsNumber_within hk]

theorem tokenAt_eq {v : Value} {emit : Option Emit} (h : Reads cs place rule n (.ok v))
    (hemit : Emit.ofResult v = .ok emit) (hstarts : cs[place]?.any Char.isDigit → startsNumber cs place) :
    tokenAt cs label place = emit.map fun e =>
      ⟨e.type, e.value, some ⟨place, lineAt cs place, columnAt cs place, n, label⟩⟩ := by
  cases h with
  | sign here hsign =>
    cases hemit
    simp [tokenAt, here, hsign, Emit.ofPair, Emit.isNothing]
  | number here =>
    cases hemit
    simp [tokenAt, bind_signType_of_any here, hstarts here, Emit.ofPair, Emit.isNothing, valueOf,
      Text.decimal_eq_ofDigits]
  | blank here hblank =>
    cases hemit
    simp [tokenAt, here, signType_of_isBlank hblank, startsNumber, isDigit_of_isBlank hblank, Emit.ofPair,
      Emit.isNothing]

theorem startsTooLong_eq {k : Nat} {v : Value} (h : Reads cs place rule n (.ok v)) (hk : k < n) :
    startsTooLong cs (place + k) = false := by
  cases k with
  | zero =>
    rw [Nat.add_zero]
    cases h with
    | sign here hsign => simp [startsTooLong, startsNumber, here, isDigit_of_signType hsign]
    | number _ short => simp [startsTooLong, short]
    | blank here hblank => simp [startsTooLong, startsNumber, here, isDigit_of_isBlank hblank]
  | succ k => simp [startsTooLong, h.startsNumber_within hk]

theorem getLast?_eq (h : Reads cs place rule n outcome) (hmem : '\n' ∈ (cs.drop place).take n) :
    ((cs.drop place).take n).getLast? = some '\n' := by
  by_cases hn : 1 < n
  · -- There are only digits, and a newline is none.
    obtain ⟨k, hk⟩ := List.mem_iff_getElem?.mp hmem
    rw [List.getElem?_take] at hk
    split at hk
    · next hlt =>
      have hdigit := h.any_isDigit hn hlt
      rw [List.getElem?_drop] at hk
      rw [hk] at hdigit
      cases hdigit
    · cases hk
  · have hpos := h.pos
    obtain rfl : n = 1 := by omega
    rw [List.take_one] at hmem ⊢
    have hhead : (cs.drop place).head? = some '\n' := Option.mem_toList.mp hmem
    rw [hhead]
    rfl

end Reads

theorem tokensUpTo_succ (cs : List Char) (label : Option String) (place : Nat) :
    tokensUpTo cs label (place + 1) = tokensUpTo cs label place ++ (tokenAt cs label place).toList := by
  rw [tokensUpTo, List.range_succ, List.filterMap_append, tokensUpTo]
  cases h : tokenAt cs label place <;> simp [h]

/-- Only the first place of a stretch may have a token. -/
theorem Reads.tokensUpTo_eq (h : Reads cs place rule n outcome) (label : Option String) :
    tokensUpTo cs label (place + n) = tokensUpTo cs label place ++ (tokenAt cs label place).toList := by
  have hupTo : ∀ k < n, tokensUpTo cs label (place + (k + 1)) =
      tokensUpTo cs label place ++ (tokenAt cs label place).toList := by
    intro k hk
    induction k with
    | zero => exact tokensUpTo_succ cs label place
    | succ k ih =>
      rw [← Nat.add_assoc, tokensUpTo_succ, ih (Nat.lt_of_succ_lt hk), h.tokenAt_within hk,
        Option.toList_none, List.append_nil]
  have hlast := hupTo (n - 1) (Nat.sub_one_lt_of_lt h.pos)
  rwa [Nat.sub_add_cancel h.pos] at hlast

end

/-! ## Runs -/

/-- What holds at every boundary that the calculator reaches. -/
structure Reached (cs : List Char) (label : Option String) (calls : List Call) (s : Boundary) : Prop where
  state : s.env.state = defaultState
  legal : ∀ i < s.cursor.offset, cs[i]?.all isLegal
  short : ∀ i < s.cursor.offset, startsTooLong cs i = false
  apart : cs[s.cursor.offset]?.any Char.isDigit → startsNumber cs s.cursor.offset
  tokens : calls.filterMap (·.token? label) = tokensUpTo cs label s.cursor.offset

section

variable {text : Array Char} {label : Option String} {env : Environment} {calls : List Call} {call : Call}
  {s t : Boundary}

theorem newline_last (h : lexer.definition.Steps text (.start env) calls s) (hcall : call ∈ calls)
    (hmem : '\n' ∈ call.chunk.toList) : call.chunk.toList.getLast? = some '\n' := by
  obtain ⟨_, u, _, _, step⟩ := h.step_of_mem hcall
  obtain ⟨n, outcome, hreads, hstop, _⟩ := reads_of_fires step.fires
  have hchunk : call.chunk.toList = (text.toList.drop u.cursor.offset).take n := by
    rw [Call.chunk, chunk_toList step.fires, hstop, Nat.add_sub_cancel_left]
  rw [hchunk] at hmem ⊢
  exact hreads.getLast?_eq hmem

/-- As newlines are read one by one, columns are true. -/
theorem place_eq (h : lexer.definition.Steps text (.start env) calls s) :
    s.cursor.line = lineAt text.toList s.cursor.offset ∧
      s.cursor.column = columnAt text.toList s.cursor.offset := by
  have hlaw := h.lineLaw
  have hcolumn : s.cursor.column = s.cursor.offset - lineStart (text.toList.take s.cursor.offset) := by
    rw [hlaw.column_eq_iff]
    cases hlast : Call.lastWithNewline calls with
    | none => exact .inl (Call.lastWithNewline_eq_none.mp hlast)
    | some call =>
      obtain ⟨before, after, rfl, hmem, _⟩ := Call.lastWithNewline_eq_some hlast
      exact .inr ⟨call, rfl, newline_last h (by simp) hmem⟩
  have hstart := lineStart_le (text.toList.take s.cursor.offset)
  rw [List.length_take] at hstart
  rw [lineAt, columnAt, hcolumn, hlaw.line]
  omega

theorem Reached.start (cs : List Char) (label : Option String) :
    Reached cs label [] (.start (.plain defaultState)) where
  state := rfl
  legal i hi := absurd hi (Nat.not_lt_zero i)
  short i hi := absurd hi (Nat.not_lt_zero i)
  apart hdigit := Bool.and_eq_true_iff.mpr ⟨hdigit, rfl⟩
  tokens := rfl

theorem forall_lt_add {P : Nat → Prop} {m n : Nat} (hm : ∀ i < m, P i) (hn : ∀ k < n, P (m + k)) :
    ∀ i < m + n, P i := by
  intro i hi
  rcases Nat.lt_or_ge i m with hlt | hge
  · exact hm i hlt
  · obtain ⟨k, rfl⟩ := Nat.exists_eq_add_of_le hge
    exact hn k (by omega)

theorem Reached.step (hsteps : lexer.definition.Steps text (.start env) calls s)
    (h : Reached text.toList label calls s) (hstep : lexer.definition.Step text s call t) :
    Reached text.toList label (calls ++ [call]) t := by
  obtain ⟨n, outcome, hreads, hstop, hresult⟩ := reads_of_fires hstep.fires
  obtain ⟨rfl, henv⟩ := Prod.mk.inj (hresult.symm.trans hstep.acts)
  have hoffset : t.cursor.offset = s.cursor.offset + n := hstep.offset_eq.trans hstop
  have htoken : call.token? label = tokenAt text.toList label s.cursor.offset := by
    obtain ⟨hline, hcolumn⟩ := place_eq hsteps
    have hlength : call.firing.found.length = n := by
      rw [Match.length, hstop, hstep.fires.start_eq, Nat.add_sub_cancel_left]
    rw [hreads.tokenAt_eq hstep.understood h.apart, ← hline, ← hcolumn, Call.token?]
    congr 1
    funext e
    rw [Firing.token, Firing.position, hstep.fires.cursor_eq, hlength]
  constructor
  case state =>
    rw [← henv]
    exact h.state
  case legal =>
    rw [hoffset]
    exact forall_lt_add h.legal fun k hk => hreads.legal hk
  case short =>
    rw [hoffset]
    exact forall_lt_add h.short fun k hk => hreads.startsTooLong_eq hk
  case apart =>
    rw [hoffset]
    exact hreads.apart
  case tokens =>
    rw [List.filterMap_append, h.tokens, hoffset, hreads.tokensUpTo_eq, ← htoken]
    cases hemit : call.token? label <;> simp [hemit]

theorem reached (h : lexer.definition.Steps text (.start (.plain defaultState)) calls s) (label : Option String) :
    Reached text.toList label calls s := by
  generalize hstart : Boundary.start (.plain defaultState) = start at h
  induction h with
  | nil => exact hstart ▸ .start _ _
  | snoc before step ih => exact ih.step (hstart ▸ before) step

namespace Reached

variable {cs : List Char}

theorem le_firstIllegal {i : Nat} (h : Reached cs label calls s) (hi : firstIllegal? cs = some i) :
    s.cursor.offset ≤ i := by
  obtain ⟨hlt, hillegal, _⟩ := List.findIdx?_eq_some_iff_getElem.mp hi
  refine Nat.le_of_not_lt fun hbefore => ?_
  have hlegal := h.legal i hbefore
  rw [List.getElem?_eq_getElem hlt, Option.all_some] at hlegal
  rw [hlegal] at hillegal
  cases hillegal

theorem le_firstTooLong {j : Nat} (h : Reached cs label calls s) (hj : firstTooLong? cs = some j) :
    s.cursor.offset ≤ j := by
  obtain ⟨hlong, _⟩ := List.find?_range_eq_some.mp hj
  refine Nat.le_of_not_lt fun hbefore => ?_
  rw [h.short j hbefore] at hlong
  cases hlong

theorem firstIllegal_eq {c : Char} (h : Reached cs label calls s) (here : cs[s.cursor.offset]? = some c)
    (hillegal : ¬ isLegal c) : firstIllegal? cs = some s.cursor.offset := by
  obtain ⟨hlt, rfl⟩ := List.getElem?_eq_some_iff.mp here
  refine List.findIdx?_eq_some_iff_getElem.mpr ⟨hlt, by simpa using hillegal, fun i hi => ?_⟩
  have hlegal := h.legal i hi
  rw [List.getElem?_eq_getElem (Nat.lt_trans hi hlt), Option.all_some] at hlegal
  simp [hlegal]

theorem firstTooLong_eq (h : Reached cs label calls s) (here : cs[s.cursor.offset]?.any Char.isDigit)
    (hlong : Text.digitLimit < (digitsFrom cs s.cursor.offset).length) :
    firstTooLong? cs = some s.cursor.offset := by
  obtain ⟨c, hc, _⟩ := (Option.any_eq_true _ _).mp here
  obtain ⟨hlt, _⟩ := List.getElem?_eq_some_iff.mp hc
  refine List.find?_range_eq_some.mpr ⟨?_, List.mem_range.mpr hlt, fun i hi => ?_⟩
  · rw [startsTooLong, h.apart here, decide_eq_true hlong]
    rfl
  · rw [h.short i hi]
    rfl

end Reached

theorem not_isLegal_of_stuck {c : Char} (hstate : s.env.state = defaultState)
    (hnone : lexer.definition.select s.env text s.cursor.offset = .ok none)
    (here : text.toList[s.cursor.offset]? = some c) : ¬ isLegal c := by
  intro legal
  obtain ⟨rule, hrule, found, heligible⟩ := exists_eligible here legal
  refine select_eq_none hnone rule ?_ found heligible
  rw [hstate, get_default]
  exact hrule

/-- A run that ends as it should: with all read, or at what comes first of what goes wrong. -/
inductive Finishes (text : Array Char) (s : Boundary) : Run → Prop
  | done (consumed : s.cursor.offset = text.size) : Finishes text s (.done s.cursor s.env)
  | stuck (illegal : firstIllegal? text.toList = some s.cursor.offset) :
      Finishes text s (.stuck s.cursor s.env)
  | failed {f : Firing} {env : Environment} (fires : lexer.definition.Fires text s f)
      (number : f.rule = numberRule) (raised : f.result s.env = (.error (tooLongAt text.toList s.cursor.offset), env))
      (tooLong : firstTooLong? text.toList = some s.cursor.offset) :
      Finishes text s (.failed f (tooLongAt text.toList s.cursor.offset) env)

theorem Reached.finishes {r : Run} (h : Reached text.toList label calls s)
    (hsteps : lexer.definition.Steps text (.start env) calls s) (hends : lexer.definition.Ends text s r) :
    Finishes text s r := by
  cases hends with
  | done consumed => exact .done (Nat.le_antisymm (hsteps.offset_le (Nat.zero_le _)) consumed)
  | stuck inside hnone =>
    have here : text.toList[s.cursor.offset]? = some text[s.cursor.offset] := by
      rw [Array.getElem?_toList, Array.getElem?_eq_getElem inside]
    exact .stuck (h.firstIllegal_eq here (not_isLegal_of_stuck h.state hnone here))
  | refused inside error =>
    obtain ⟨c?, hselect⟩ := exists_select textual
    cases hselect.symm.trans error
  | raised fires acts =>
    obtain ⟨n, outcome, hreads, _, hresult⟩ := reads_of_fires fires
    obtain ⟨rfl, rfl⟩ := Prod.mk.inj (hresult.symm.trans acts)
    generalize hrule : Firing.rule _ = rule at hreads
    cases hreads with
    | tooLong here long => exact .failed fires hrule acts (h.firstTooLong_eq here long)
  | rejected fires acts rejected =>
    obtain ⟨n, outcome, hreads, _, hresult⟩ := reads_of_fires fires
    obtain ⟨rfl, rfl⟩ := Prod.mk.inj (hresult.symm.trans acts)
    generalize Firing.rule _ = rule at hreads
    cases hreads <;> cases rejected

end

theorem lt_firstIllegal {cs : List Char} {i j : Nat} (hj : firstTooLong? cs = some j)
    (hi : firstIllegal? cs = some i) (hle : j ≤ i) : j < i := by
  refine Nat.lt_of_le_of_ne hle ?_
  rintro rfl
  obtain ⟨hlong, _⟩ := List.find?_range_eq_some.mp hj
  obtain ⟨hlt, hillegal, _⟩ := List.findIdx?_eq_some_iff_getElem.mp hi
  have hdigit : cs[j].isDigit := by
    simp only [startsTooLong, startsNumber, List.getElem?_eq_getElem hlt, Option.any_some,
      Bool.and_eq_true] at hlong
    exact hlong.1.1
  simp [isLegal, hdigit] at hillegal

theorem firstIllegal_eq_none {cs : List Char} (h : ∀ i < cs.length, cs[i]?.all isLegal) :
    firstIllegal? cs = none := by
  refine List.findIdx?_eq_none_iff.mpr fun c hc => ?_
  obtain ⟨i, hi, rfl⟩ := List.mem_iff_getElem.mp hc
  have hlegal := h i hi
  rw [List.getElem?_eq_getElem hi, Option.all_some] at hlegal
  simp [hlegal]

theorem firstTooLong_eq_none {cs : List Char} (h : ∀ i < cs.length, startsTooLong cs i = false) :
    firstTooLong? cs = none := by
  refine List.find?_eq_none.mpr fun i hi => ?_
  rw [h i (List.mem_range.mp hi)]
  exact Bool.false_ne_true

theorem readTokens_tokensUpTo (cs : List Char) (label : Option String) (env : Environment) (place : Nat) :
    env.readTokens (.ok (tokensUpTo cs label place ++ [.endOfStream])) =
      .ok (tokensUpTo cs label place ++ [.endOfStream]) := by
  have hread : ∀ token ∈ tokensUpTo cs label place ++ [.endOfStream],
      token.mapValues env.read = id token := by
    intro token htoken
    rcases List.mem_append.mp htoken with hmem | hlast
    · obtain ⟨i, _, hi⟩ := List.mem_filterMap.mp hmem
      exact read_token env hi
    · rw [List.mem_singleton.mp hlast]
      rfl
  exact congrArg Except.ok ((List.map_congr_left hread).trans (List.map_id _))

/-- The lexer of the calculator comes to what is expected of a text: its tokens, or what first goes wrong
in it. A number that is too long is told by the action of the rule for numbers. -/
theorem lexes_expected (source : String) (label : Option String) (trace : Bool) :
    ∃ env, lexer.newEnvironment = .ok env ∧
      let d := lexer.definition
      let text := source.toList.toArray
      (d.lex source env label trace).answer = expected source.toList label ∧
      ∀ j, firstTooLong? source.toList = some j → (∀ i, firstIllegal? source.toList = some i → j < i) →
        ∃ calls s f last, d.Steps text (.start env) calls s ∧ s.cursor.offset = j ∧ d.Fires text s f ∧
          f.rule = numberRule ∧ f.result s.env = (.error (tooLongAt source.toList j), last) := by
  refine ⟨.plain defaultState, newEnvironment_eq, ?_⟩
  intro d text
  obtain ⟨calls, s, steps, hends⟩ := d.exists_steps text (.start (.plain defaultState))
  have hreached := reached steps label
  have hfinishes := hreached.finishes steps hends
  rw [steps.lex_eq label trace]
  generalize d.runFrom text s = r at hfinishes
  cases hfinishes with
  | done consumed =>
    have hoffset : s.cursor.offset = source.toList.length := consumed.trans List.size_toArray
    have hlegal := hreached.legal
    have hshort := hreached.short
    rw [hoffset] at hlegal hshort
    refine ⟨?_, ?_⟩
    · have hanswer := readTokens_tokensUpTo source.toList label s.env s.cursor.offset
      rw [← hreached.tokens] at hanswer
      rw [expected, firstTooLong_eq_none hshort, firstIllegal_eq_none hlegal, ← hoffset, ← hreached.tokens]
      exact hanswer
    · intro j hj
      cases (firstTooLong_eq_none hshort).symm.trans hj
  | stuck illegal =>
    refine ⟨?_, ?_⟩
    · obtain ⟨hline, hcolumn⟩ := place_eq steps
      rw [expected_unmatched label illegal fun j hj => hreached.le_firstTooLong hj, unmatchedAt, ← hline,
        ← hcolumn, ← slice_size]
      rfl
    · intro j hj hfirst
      exact absurd (hfirst _ illegal) (Nat.not_lt.mpr (hreached.le_firstTooLong hj))
  | failed fires number raised tooLong =>
    refine ⟨?_, ?_⟩
    · rw [expected_tooLong label tooLong fun i hi =>
        lt_firstIllegal tooLong hi (hreached.le_firstIllegal hi)]
      rfl
    · intro j hj _
      cases tooLong.symm.trans hj
      exact ⟨calls, s, _, _, steps, rfl, fires, number, raised⟩

example : expected "1+\n 23".toList none = .ok [
    ⟨.str "NUM", .int 1, some ⟨0, 1, 0, 1, none⟩⟩, ⟨.str "PLS", .null, some ⟨1, 1, 1, 1, none⟩⟩,
    ⟨.str "NUM", .int 23, some ⟨4, 2, 1, 2, none⟩⟩, .endOfStream] := by decide +kernel

end Lexing.Calculator
