import Lexing.Proofs.CalculatorSpelling

/-! Spelling a calculation and lexing it back. A spelling is read stretch by stretch, each of them at the
place where the one before it ends; and what was lexed can be spelled anew. -/
namespace Lexing

/-- What the action asked for when it made the token. -/
def Token.asked (t : Token) : Emit := ⟨t.type, t.value⟩

namespace Calculator

open Definition

/-- Lexes in a new environment. -/
def tokenize (source : String) (label : Option String) (trace : Bool) : Except Fault (List Token) := do
  (lexer.definition.lex source (← lexer.newEnvironment) label trace).answer

section

variable {source : String} {label : Option String} {trace : Bool} {tokens : List Token}

theorem tokenize_eq (source : String) (label : Option String) (trace : Bool) :
    tokenize source label trace = (lexer.definition.lex source (.plain defaultState) label trace).answer := by
  rw [tokenize, newEnvironment_eq]
  rfl

/-- A text is lexed if its characters are legal and its numbers are short enough. -/
theorem tokenize_eq_ok : tokenize source label trace = .ok tokens ↔
    (∀ i < source.toList.length, source.toList[i]?.all isLegal ∧ startsTooLong source.toList i = false) ∧
      tokens = tokensUpTo source.toList label source.toList.length ++ [.endOfStream] := by
  rw [tokenize_eq]
  obtain ⟨calls, s, steps, hends⟩ :=
    lexer.definition.exists_steps source.toList.toArray (.start (.plain defaultState))
  have hreached := reached steps label
  have hfinishes := hreached.finishes steps hends
  rw [Lexed.answer, steps.lex_eq label trace]
  generalize lexer.definition.runFrom source.toList.toArray s = r at hfinishes
  cases hfinishes with
  | done consumed =>
    have hoffset : s.cursor.offset = source.toList.length := consumed.trans List.size_toArray
    have hall : ∀ i < source.toList.length, source.toList[i]?.all isLegal ∧
        startsTooLong source.toList i = false := fun i hi =>
      ⟨hreached.legal i (hoffset ▸ hi), hreached.short i (hoffset ▸ hi)⟩
    have hanswer := readTokens_tokensUpTo source.toList label s.env source.toList.length
    have htokens : calls.filterMap (·.token? label) =
        tokensUpTo source.toList label source.toList.length := by rw [hreached.tokens, hoffset]
    rw [← htokens] at hanswer ⊢
    refine (Eq.congr_left hanswer).trans ⟨fun h => ⟨hall, (Except.ok.inj h).symm⟩, fun h => ?_⟩
    rw [h.2]
  | stuck illegal =>
    refine ⟨fun h => (by cases h), fun h => ?_⟩
    cases illegal.symm.trans (firstIllegal_eq_none fun i hi => (h.1 i hi).1)
  | failed fires number raised tooLong =>
    refine ⟨fun h => (by cases h), fun h => ?_⟩
    cases tooLong.symm.trans (firstTooLong_eq_none fun i hi => (h.1 i hi).2)

end

/-! ## Reading a spelling -/

/-- From a place on, stretches that are read follow each other up to the end, and ask for tokens. -/
inductive ReadsOn (cs : List Char) : Nat → List Emit → Prop
  | done : ReadsOn cs cs.length []
  | step {place n : Nat} {rule : Rule} {v : Value} {emit : Option Emit} {emits : List Emit}
      (reads : Reads cs place rule n (.ok v)) (understood : Emit.ofResult v = .ok emit)
      (onward : ReadsOn cs (place + n) emits) : ReadsOn cs place (emit.toList ++ emits)

section

variable {cs gap rest : List Char} {place : Nat} {emits : List Emit}

theorem ReadsOn.asked_eq (h : ReadsOn cs place emits) (label : Option String)
    (hstarts : cs[place]?.any Char.isDigit → startsNumber cs place) :
    (tokensUpTo cs label cs.length).map (·.asked) = (tokensUpTo cs label place).map (·.asked) ++ emits := by
  induction h with
  | done => rw [List.append_nil]
  | @step place n rule v emit emits reads understood onward ih =>
    have htoken : (tokenAt cs label place).toList.map (·.asked) = emit.toList := by
      rw [reads.tokenAt_eq understood hstarts]
      cases emit <;> rfl
    rw [ih reads.apart, reads.tokensUpTo_eq, List.map_append, htoken, List.append_assoc]

theorem ReadsOn.legal (h : ReadsOn cs place emits) {i : Nat} (hi : place ≤ i) (hlt : i < cs.length) :
    cs[i]?.all isLegal ∧ startsTooLong cs i = false := by
  induction h with
  | done => omega
  | @step place n rule v emit emits reads understood onward ih =>
    rcases Nat.lt_or_ge i (place + n) with hwithin | hbeyond
    · obtain ⟨k, rfl⟩ := Nat.exists_eq_add_of_le hi
      have hk : k < n := by omega
      exact ⟨reads.legal hk, reads.startsTooLong_eq hk⟩
    · exact ih hbeyond

theorem getElem?_of_drop {c : Char} (h : cs.drop place = c :: rest) : cs[place]? = some c := by
  rw [← List.head?_drop, h]
  rfl

theorem ReadsOn.of_blanks (hblank : ∀ c ∈ gap, Text.isBlank c) (here : cs.drop place = gap ++ rest)
    (onward : ReadsOn cs (place + gap.length) emits) : ReadsOn cs place emits := by
  induction gap generalizing place with
  | nil => exact onward
  | cons c gap ih =>
    have hreads : Reads cs place blankRule 1 (.ok .null) :=
      .blank (getElem?_of_drop here) (hblank c List.mem_cons_self)
    refine .step hreads rfl (ih (fun d hd => hblank d (List.mem_cons_of_mem _ hd)) ?_ ?_)
    · rw [← List.drop_drop, here]
      rfl
    · rwa [Nat.add_assoc, Nat.add_comm 1]

theorem digitsFrom_of_drop {digits : List Char} (here : cs.drop place = digits ++ rest)
    (hdigits : ∀ c ∈ digits, c.isDigit) (hrest : ∀ c ∈ rest.head?, c.isDigit = false) :
    digitsFrom cs place = digits := by
  have hnone : rest.takeWhile Char.isDigit = [] := by
    cases rest with
    | nil => rfl
    | cons c rest => exact List.takeWhile_cons_of_neg (by simp [hrest c rfl])
  rw [digitsFrom, here, List.takeWhile_append_of_pos hdigits, hnone, List.append_nil]

/-- An item is read in one stretch if no further digits follow a number. -/
theorem Item.exists_reads {item : Item} {zeros : Nat} (here : cs.drop place = item.spelled zeros ++ rest)
    (short : (item.spelled zeros).length ≤ Text.digitLimit)
    (hrest : item.isNumber → ∀ c ∈ rest.head?, c.isDigit = false) :
    ∃ rule v, Reads cs place rule (item.spelled zeros).length (.ok v) ∧
      Emit.ofResult v = .ok (some item.emit) := by
  cases item with
  | sign c type known =>
    -- What the pattern of the rule looks like does not matter here.
    exact ⟨signRule "" c type, .str type, .sign (getElem?_of_drop here) known, rfl⟩
  | number n =>
    have hdigits := digitsFrom_of_drop here (fun c hc => isDigit_of_mem_spelled rfl hc) (hrest rfl)
    have hany : cs[place]?.any Char.isDigit := by
      obtain ⟨c, digits, hspelled⟩ := List.exists_cons_of_ne_nil (spelled_ne_nil (.number n) zeros)
      rw [hspelled] at here
      rw [getElem?_of_drop here]
      exact isDigit_of_mem_spelled rfl (hspelled ▸ List.mem_cons_self)
    have hreads := Reads.number hany (hdigits ▸ short)
    rw [hdigits] at hreads
    refine ⟨_, _, hreads, ?_⟩
    rw [spelled, Text.decimal_zeros_append_toDigits]
    rfl

theorem Spaced.readsOn {items : List Item} {body : List Char} (h : Spaced items body) {place : Nat}
    (here : cs.drop place = body) (hle : place ≤ cs.length) : ReadsOn cs place (items.map (·.emit)) := by
  induction h generalizing place with
  | nil =>
    obtain rfl : place = cs.length := Nat.le_antisymm hle (List.drop_eq_nil_iff.mp here)
    exact .done
  | @cons item zeros gap rest items short blank apart next ih =>
    have hfirst : item.isNumber → ∀ c ∈ (gap ++ rest).head?, c.isDigit = false := by
      intro hnumber c hc
      cases gap with
      -- Only a number may not follow at once, so a sign does, or nothing.
      | nil => exact next.isDigit_head (fun hany => apart hnumber hany rfl) c hc
      | cons d gap =>
        cases hc
        exact isDigit_of_isBlank (blank c List.mem_cons_self)
    obtain ⟨rule, v, hreads, hunderstood⟩ := Item.exists_reads here short hfirst
    have hlength := congrArg List.length here
    simp only [List.length_drop, List.length_append] at hlength
    have hgap : cs.drop (place + (item.spelled zeros).length) = gap ++ rest := by
      rw [← List.drop_drop, here, List.drop_left]
    have hnext : cs.drop (place + (item.spelled zeros).length + gap.length) = rest := by
      rw [← List.drop_drop, hgap, List.drop_left]
    exact .step hreads hunderstood (.of_blanks blank hgap (ih hnext (by omega)))

theorem Renders.readsOn {items : List Item} (h : Renders items cs) : ReadsOn cs 0 (items.map (·.emit)) := by
  obtain ⟨blank, spaced⟩ := h
  refine .of_blanks blank rfl (spaced.readsOn ?_ ?_)
  · rw [Nat.zero_add, List.drop_left]
  · simp

end

theorem tokenize_of_renders {items : List Item} {source : String} (h : Renders items source.toList)
    (label : Option String) (trace : Bool) :
    ∃ tokens, tokenize source label trace = .ok tokens ∧
      tokens.map (·.asked) = items.map (·.emit) ++ [Token.endOfStream.asked] := by
  have hreads := h.readsOn
  refine ⟨_, tokenize_eq_ok.mpr ⟨fun i hi => hreads.legal (Nat.zero_le i) hi, rfl⟩, ?_⟩
  have hstarts : source.toList[0]?.any Char.isDigit → startsNumber source.toList 0 := fun hdigit =>
    Bool.and_eq_true_iff.mpr ⟨hdigit, rfl⟩
  rw [List.map_append, hreads.asked_eq label hstarts]
  rfl

/-! ## Spelling what was lexed -/

/-- The items of tokens; the last token stands for none. -/
def itemsOf (tokens : List Token) : List Item := tokens.filterMap (Item.ofEmit? ·.asked)

theorem exists_item {cs : List Char} {label : Option String} {place : Nat} {token : Token}
    (h : tokenAt cs label place = some token) (hshort : startsTooLong cs place = false) :
    ∃ item : Item, item.emit = token.asked ∧ (item.spelled 0).length ≤ Text.digitLimit := by
  unfold tokenAt at h
  split at h
  · next type hsign =>
    cases h
    obtain ⟨c, _, known⟩ := Option.bind_eq_some_iff.mp hsign
    exact ⟨.sign c type known, rfl, (by decide : 1 ≤ Text.digitLimit)⟩
  · split at h
    · next hstarts =>
      cases h
      refine ⟨.number (valueOf (digitsFrom cs place)), rfl, ?_⟩
      rw [startsTooLong, hstarts, Bool.true_and, decide_eq_false_iff_not, Nat.not_lt] at hshort
      have hvalue : valueOf (digitsFrom cs place) < 10 ^ Text.digitLimit := calc
        valueOf (digitsFrom cs place) = Text.decimal (digitsFrom cs place) :=
          (Text.decimal_eq_ofDigits _).symm
        _ < 10 ^ (digitsFrom cs place).length := Text.decimal_lt fun c hc => isDigit_of_mem hc
        _ ≤ 10 ^ Text.digitLimit := Nat.pow_le_pow_right (by decide) hshort
      exact (Nat.length_toDigits_le_iff (by decide) (by decide)).mpr hvalue
    · cases h

/-- The tokens of a text can be spelled again. -/
theorem exists_items (cs : List Char) (label : Option String) {place : Nat}
    (hshort : ∀ i < place, startsTooLong cs i = false) :
    ∃ items : List Item, (tokensUpTo cs label place).map (·.asked) = items.map (·.emit) ∧
      ∀ item ∈ items, (item.spelled 0).length ≤ Text.digitLimit := by
  induction place with
  | zero => exact ⟨[], rfl, by simp⟩
  | succ place ih =>
    obtain ⟨items, hitems, hfits⟩ := ih fun i hi => hshort i (Nat.lt_succ_of_lt hi)
    rw [tokensUpTo_succ, List.map_append, hitems]
    cases htoken : tokenAt cs label place with
    | none => exact ⟨items, by simp, hfits⟩
    | some token =>
      obtain ⟨item, hemit, hfit⟩ := exists_item htoken (hshort place (Nat.lt_succ_self place))
      refine ⟨items ++ [item], by simp [hemit], fun other hother => ?_⟩
      rcases List.mem_append.mp hother with hmem | hlast
      · exact hfits other hmem
      · rwa [List.mem_singleton.mp hlast]

theorem itemsOf_eq {tokens : List Token} {items : List Item}
    (h : tokens.map (·.asked) = items.map (·.emit) ++ [Token.endOfStream.asked]) :
    itemsOf tokens = items := by
  have hitems : (items.map (·.emit)).filterMap Item.ofEmit? = items := by
    rw [List.filterMap_map]
    have hid : Item.ofEmit? ∘ (·.emit) = some := funext Item.ofEmit?_emit
    rw [hid, List.filterMap_some]
  calc itemsOf tokens
    _ = (tokens.map (·.asked)).filterMap Item.ofEmit? := by rw [List.filterMap_map]; rfl
    _ = (items.map (·.emit)).filterMap Item.ofEmit? ++ [] := by rw [h, List.filterMap_append]; rfl
    _ = items := by rw [hitems, List.append_nil]

/-- Any spelling of a list of items is lexed to their tokens and a last one. And what a text is lexed to can
be spelled anew, without needless zeros and with single spaces, and is then lexed to the same types and
values. -/
theorem lexes_back (label label' : Option String) (trace trace' : Bool) :
    (∀ items (source : String), Renders items source.toList →
      ∃ tokens, tokenize source label trace = .ok tokens ∧
        tokens.map (·.asked) = items.map (·.emit) ++ [Token.endOfStream.asked]) ∧
    ∀ source tokens, tokenize source label trace = .ok tokens →
      ∃ again, tokenize (String.ofList (canonical (itemsOf tokens))) label' trace' = .ok again ∧
        again.map (·.asked) = tokens.map (·.asked) := by
  refine ⟨fun items source h => tokenize_of_renders h label trace, fun source tokens htokens => ?_⟩
  obtain ⟨hall, rfl⟩ := tokenize_eq_ok.mp htokens
  obtain ⟨items, hitems, hfits⟩ := exists_items source.toList label fun i hi => (hall i hi).2
  have hasked : (tokensUpTo source.toList label source.toList.length ++ [Token.endOfStream]).map (·.asked) =
      items.map (·.emit) ++ [Token.endOfStream.asked] := by
    rw [List.map_append, hitems]
    rfl
  have hrenders : Renders items (String.ofList (canonical items)).toList := by
    have hlead : ∀ c ∈ ([] : List Char), Text.isBlank c := by simp
    rw [String.toList_ofList]
    exact .mk hlead (spaced_canonical hfits)
  rw [itemsOf_eq hasked, hasked]
  exact tokenize_of_renders hrenders label' trace'

example : canonical (itemsOf [⟨.str "NUM", .int 7, none⟩, ⟨.str "MUL", .null, none⟩,
    ⟨.str "NUM", .int 12, none⟩, .endOfStream]) = "7 * 12".toList := by decide +kernel

end Calculator

end Lexing
