import Lexing.Proofs.Calculator
import Lexing.Proofs.CharRuns
import Lexing.Proofs.Numerals
import Lexing.Proofs.Steps
import Mathlib.Data.List.TakeWhile

/-! What each rule of the calculator takes, and what comes of it. The first character decides: signs,
digits and blanks have nothing in common. -/
namespace Lexing

namespace Text.Ranges

variable {spans : Array (Nat × Nat)} {code lo hi first last : Nat}

theorem search_below (hlt : lo < hi) (hspan : spans[(lo + hi) / 2]? = some (first, last))
    (h : code < first) : search spans code lo hi = search spans code lo ((lo + hi) / 2) := by
  rw [search, if_pos hlt, hspan]
  simp only [h, if_true]

theorem search_above (hlt : lo < hi) (hspan : spans[(lo + hi) / 2]? = some (first, last))
    (hfirst : first ≤ code) (h : last < code) :
    search spans code lo hi = search spans code ((lo + hi) / 2 + 1) hi := by
  rw [search, if_pos hlt, hspan]
  simp only [Nat.not_lt.mpr hfirst, h, if_true, if_false]

end Text.Ranges

namespace Calculator

open Pattern

theorem admits_single {c d : Char} : (CharSet.single .exact c.toNat).admits d ↔ d = c := by
  simp [CharSet.single, CharSet.admits, ClassItem.admits, ClassItem.admits.isCase, Folding.family,
    Folding.lower, ← Char.toNat_inj]

theorem admits_digits (c : Char) :
    (CharSet.mk [.range '0'.toNat '9'.toNat] false .exact).admits c = c.isDigit := by
  simp [CharSet.admits, ClassItem.admits, Char.isDigit, UInt32.le_iff_toNat_le]

theorem admits_blank (c : Char) :
    (CharSet.mk [.named .space false false] false .exact).admits c = Text.isBlank c := by
  simp [CharSet.admits, ClassItem.admits, CharClass.admits]

theorem isDigit_of_signType {c : Char} {type : String} (h : signType c = some type) : c.isDigit = false := by
  unfold signType at h
  split at h <;> first | rfl | cases h

/-- There are no blanks between the space and the first one beyond ASCII. -/
theorem isBlank_of_between {c : Char} (hfirst : 0x20 < c.toNat) (hlast : c.toNat < 0x85) :
    Text.isBlank c = false := by
  have hnone : Text.blanks.find? c = none := calc
    Text.blanks.find? c = Text.Ranges.search Text.blanks.spans c.toNat 0 10 := rfl
    _ = Text.Ranges.search Text.blanks.spans c.toNat 0 5 :=
      Text.Ranges.search_below (by decide) rfl (by omega)
    _ = Text.Ranges.search Text.blanks.spans c.toNat 0 2 :=
      Text.Ranges.search_below (by decide) rfl (by omega)
    _ = Text.Ranges.search Text.blanks.spans c.toNat 2 2 :=
      Text.Ranges.search_above (by decide) rfl (by omega) (by omega)
    _ = none := by rw [Text.Ranges.search, if_neg (by decide)]
  rw [Text.isBlank, Text.Ranges.contains, hnone]
  rfl

theorem isBlank_of_signType {c : Char} {type : String} (h : signType c = some type) :
    Text.isBlank c = false := by
  have hcode : 0x20 < c.toNat ∧ c.toNat < 0x85 := by
    unfold signType at h
    split at h <;> first | decide | cases h
  exact isBlank_of_between hcode.1 hcode.2

theorem isBlank_of_isDigit {c : Char} (h : c.isDigit) : Text.isBlank c = false := by
  have hcode := Text.toNat_of_isDigit h
  exact isBlank_of_between (by omega) (by omega)

theorem isDigit_of_isBlank {c : Char} (h : Text.isBlank c) : c.isDigit = false := by
  refine Bool.eq_false_iff.mpr fun hdigit => ?_
  rw [isBlank_of_isDigit hdigit] at h
  cases h

theorem signType_of_isDigit {c : Char} (h : c.isDigit) : signType c = none := by
  refine Option.eq_none_iff_forall_ne_some.mpr fun type hsign => ?_
  rw [isDigit_of_signType hsign] at h
  cases h

theorem signType_of_isBlank {c : Char} (h : Text.isBlank c) : signType c = none := by
  refine Option.eq_none_iff_forall_ne_some.mpr fun type hsign => ?_
  rw [isBlank_of_signType hsign] at h
  cases h

/-- What some rule takes. -/
def isLegal (c : Char) : Bool := (signType c).isSome || c.isDigit || Text.isBlank c

/-! ## Texts of rules -/

/-- The digits from a place on, up to the first other character. -/
def digitsFrom (cs : List Char) (place : Nat) : List Char := (cs.drop place).takeWhile Char.isDigit

theorem isDigit_of_mem {cs : List Char} {place : Nat} {c : Char} (h : c ∈ digitsFrom cs place) : c.isDigit :=
  List.mem_takeWhile_imp h

theorem digitsFrom_ne_nil {cs : List Char} {place : Nat} (h : cs[place]?.any Char.isDigit) :
    digitsFrom cs place ≠ [] := by
  have hlength := runLength_of_pos h
  rintro hnil
  rw [runLength, ← digitsFrom, hnil] at hlength
  cases hlength

/-- A rule takes so many characters at a place, and this comes of them. -/
inductive Reads (cs : List Char) (place : Nat) : Rule → Nat → Except Fault Value → Prop
  | sign {source : String} {c : Char} {type : String} (here : cs[place]? = some c)
      (sign : signType c = some type) : Reads cs place (signRule source c type) 1 (.ok (.str type))
  | number (here : cs[place]?.any Char.isDigit) (short : (digitsFrom cs place).length ≤ Text.digitLimit) :
      Reads cs place numberRule (digitsFrom cs place).length
        (.ok (.tuple [.str "NUM", .int (Text.decimal (digitsFrom cs place))]))
  | tooLong (here : cs[place]?.any Char.isDigit) (long : Text.digitLimit < (digitsFrom cs place).length) :
      Reads cs place numberRule (digitsFrom cs place).length
        (.error (.numeral (.tooLong (digitsFrom cs place).length)))
  | blank {c : Char} (here : cs[place]? = some c) (blank : Text.isBlank c) :
      Reads cs place blankRule 1 (.ok .null)

section

variable {text : Array Char} {place : Nat} {flags : FlagSet} {found : Match}

theorem eligible_sign {source : String} {c : Char} {type : String}
    (h : (signRule source c type).Eligible flags text place found) :
    text.toList[place]? = some c ∧ found.stop = place + 1 := by
  have hmatch := Except.ok.inj h.matched
  obtain ⟨hchar, hstop⟩ := (matches_of_stops (matchAt_char _ _ rfl)).1 found hmatch
  obtain ⟨d, hd, hadmits⟩ := (Option.any_eq_true _ _).mp hchar
  rw [admits_single.mp hadmits] at hd
  exact ⟨by rwa [Array.getElem?_toList], hstop⟩

theorem eligible_number (h : numberRule.Eligible flags text place found) :
    text.toList[place]?.any Char.isDigit ∧ found.stop = place + (digitsFrom text.toList place).length := by
  have hmatch := Except.ok.inj h.matched
  obtain ⟨hdigit, hstop⟩ := (matches_of_stops (matchAt_run _ _ rfl)).1 found hmatch
  rw [funext admits_digits] at hdigit hstop
  exact ⟨by rwa [Array.getElem?_toList], hstop⟩

theorem eligible_blank (h : blankRule.Eligible flags text place found) :
    ∃ c, text.toList[place]? = some c ∧ Text.isBlank c ∧ found.stop = place + 1 := by
  have hmatch := Except.ok.inj h.matched
  obtain ⟨hchar, hstop⟩ := (matches_of_stops (matchAt_char _ _ rfl)).1 found hmatch
  obtain ⟨c, hc, hadmits⟩ := (Option.any_eq_true _ _).mp hchar
  rw [admits_blank] at hadmits
  exact ⟨c, by rwa [Array.getElem?_toList], hadmits, hstop⟩

theorem exists_signRule {c : Char} {type : String} (h : signType c = some type) :
    ∃ source, signRule source c type ∈ rules := by
  unfold signType at h
  split at h
  · cases h
    exact ⟨"\\+", by simp [rules]⟩
  · cases h
    exact ⟨"-", by simp [rules]⟩
  · cases h
    exact ⟨"\\*", by simp [rules]⟩
  · cases h
    exact ⟨"/", by simp [rules]⟩
  · cases h
    exact ⟨"\\(", by simp [rules]⟩
  · cases h
    exact ⟨"\\)", by simp [rules]⟩
  · cases h

/-- No rule needs a flag, so a match that is not empty is enough. -/
theorem eligible_of_matchAt {source : String} {tree : Node} {action : Action} {found : Match}
    (h : Pattern.matchAt ⟨source, tree, 0, []⟩ text place = some found) (advances : place < found.stop) :
    (compiled source tree action).Eligible flags text place found where
  enabled flag hflag := by
    rw [compiled, FlagSet.contains_empty] at hflag
    cases hflag
  matched := congrArg Except.ok h
  advances := advances

theorem exists_eligible_char {source : String} {set : CharSet} {action : Action}
    (h : text[place]?.any set.admits) :
    ∃ found, (compiled source (.char set) action).Eligible flags text place found := by
  have htree : Pattern.tree ⟨source, .char set, 0, []⟩ = .char set := rfl
  obtain ⟨found, hfound, hstop⟩ := (matches_of_stops (matchAt_char _ _ htree)).2 h
  exact ⟨found, eligible_of_matchAt hfound (by omega)⟩

/-- Where the first character is legal, some rule is eligible. -/
theorem exists_eligible {c : Char} (here : text.toList[place]? = some c) (legal : isLegal c) :
    ∃ rule ∈ rules, ∃ found, rule.Eligible flags text place found := by
  rw [Array.getElem?_toList] at here
  simp only [isLegal, Bool.or_eq_true, Option.isSome_iff_exists] at legal
  rcases legal with (⟨type, hsign⟩ | hdigit) | hblank
  · obtain ⟨source, hmem⟩ := exists_signRule hsign
    obtain ⟨found, h⟩ := exists_eligible_char (by rw [here]; exact admits_single.mpr rfl)
    exact ⟨_, hmem, found, h⟩
  · have htree : Pattern.tree ⟨"[0-9]+", digits, 0, []⟩ = digits := rfl
    have hany : text.toList[place]?.any Char.isDigit := by
      rw [Array.getElem?_toList, here]
      exact hdigit
    have hstops := matchAt_run text place htree
    rw [funext admits_digits, runLength_of_pos hany, ← Array.getElem?_toList] at hstops
    obtain ⟨found, hfound, hstop⟩ := (matches_of_stops hstops).2 hany
    exact ⟨numberRule, by simp [rules, numberRule], found, eligible_of_matchAt hfound (by omega)⟩
  · have hany : text[place]?.any (CharSet.mk [.named .space false false] false .exact).admits := by
      rw [funext admits_blank, here]
      exact hblank
    obtain ⟨found, h⟩ := exists_eligible_char hany
    exact ⟨blankRule, by simp [rules, blankRule], found, h⟩

end

theorem numberValue_digits {text : String} (hne : text.toList ≠ []) (h : ∀ c ∈ text.toList, c.isDigit) :
    numberValue text =
      if Text.digitLimit < text.toList.length then .error (.numeral (.tooLong text.toList.length))
      else .ok (.tuple [.str "NUM", .int (Text.decimal text.toList)]) := by
  rw [numberValue, Text.readInt_digits hne h]
  by_cases hlong : Text.digitLimit < text.toList.length
  · rw [if_pos hlong, if_pos hlong]
  · rw [if_neg hlong, if_neg hlong]

theorem chunk_toList {d : Definition} {text : Array Char} {s : Boundary} {f : Firing}
    (h : d.Fires text s f) : f.chunk.toList =
      (text.toList.drop s.cursor.offset).take (f.found.stop - s.cursor.offset) := by
  rw [← h.slice_eq, slice, String.toList_ofList, Array.toList_extract, List.extract_eq_take_drop]

theorem reads_of_fires {text : Array Char} {s : Boundary} {f : Firing}
    (h : lexer.definition.Fires text s f) :
    ∃ n outcome, Reads text.toList s.cursor.offset f.rule n outcome ∧
      f.found.stop = s.cursor.offset + n ∧
      f.result s.env = (outcome, { s.env with lastMatch := some f.found }) := by
  have hkind := kind_of_mem (mem_rules h.rule_mem)
  have heligible := h.eligible
  generalize hrule : f.rule = rule at hkind heligible
  unfold Firing.result
  rw [hrule]
  cases hkind with
  | sign hsign =>
    obtain ⟨here, hstop⟩ := eligible_sign heligible
    exact ⟨_, _, .sign here hsign, hstop, rfl⟩
  | number =>
    obtain ⟨here, hstop⟩ := eligible_number heligible
    have hdigits : f.chunk.toList = digitsFrom text.toList s.cursor.offset := by
      rw [chunk_toList h, hstop, Nat.add_sub_cancel_left]
      exact (List.prefix_iff_eq_take.mp (List.takeWhile_prefix _)).symm
    have hvalue := numberValue_digits (hdigits ▸ digitsFrom_ne_nil here)
      (hdigits ▸ fun c hc => isDigit_of_mem hc)
    have hresult : (numberRule.action.onMatch f.found f.chunk).run s.env =
        (numberValue f.chunk, { s.env with lastMatch := some f.found }) := by
      rw [Action.run_onMatch]
      exact run_readNumber f.chunk _
    rw [hvalue, hdigits] at hresult
    by_cases hlong : Text.digitLimit < (digitsFrom text.toList s.cursor.offset).length
    · rw [if_pos hlong] at hresult
      exact ⟨_, _, .tooLong here hlong, hstop, hresult⟩
    · rw [if_neg hlong] at hresult
      exact ⟨_, _, .number here (Nat.le_of_not_lt hlong), hstop, hresult⟩
  | blank =>
    obtain ⟨c, here, hblank, hstop⟩ := eligible_blank heligible
    exact ⟨_, _, .blank here hblank, hstop, rfl⟩

end Calculator

end Lexing
