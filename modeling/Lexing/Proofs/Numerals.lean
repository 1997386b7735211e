import Lexing.Text.Numeral
import Mathlib.Data.List.Induction
import Mathlib.Data.Nat.Digits.Defs

/-! Numbers that are written with ASCII digits alone: nothing stands in the way of reading them but their
length. -/
namespace Lexing.Text

theorem toNat_of_isDigit {c : Char} (h : c.isDigit) : 48 ≤ c.toNat ∧ c.toNat ≤ 57 := by
  simp only [Char.isDigit, Bool.and_eq_true, decide_eq_true_eq, ge_iff_le, UInt32.le_iff_toNat_le] at h
  exact h

theorem isNumeralSpace_of_isDigit {c : Char} (h : c.isDigit) : isNumeralSpace c = false := by
  obtain ⟨hfirst, hlast⟩ := toNat_of_isDigit h
  have hspace : c ≠ ' ' := by
    rintro rfl
    exact absurd hfirst (by decide)
  simp only [isNumeralSpace, Bool.or_eq_false_iff, beq_eq_false_iff_ne, Bool.and_eq_false_iff,
    decide_eq_false_iff_not]
  exact ⟨hspace, .inr (by omega)⟩

/-- The value of a row of digits, the last of them counting ones. -/
theorem decimal_eq_ofDigits (cs : List Char) :
    decimal cs = Nat.ofDigits 10 (cs.reverse.map fun c => c.toNat - '0'.toNat) := by
  induction cs using List.reverseRecOn with
  | nil => rfl
  | append_singleton cs c ih =>
    rw [decimal, List.foldl_append, List.reverse_concat, List.map_cons, Nat.ofDigits_cons, ← ih,
      Nat.add_comm]
    rfl

/-- Zeros in front make no difference. -/
theorem decimal_zeros_append_toDigits (zeros n : Nat) :
    decimal (List.replicate zeros '0' ++ Nat.toDigits 10 n) = n := calc
  decimal (List.replicate zeros '0' ++ Nat.toDigits 10 n)
    = Nat.ofDigitChars 10 (Nat.toDigits 10 n) (Nat.ofDigitChars 10 (List.replicate zeros '0') 0) :=
      Nat.ofDigitChars_append 0
  _ = Nat.ofDigitChars 10 (Nat.toDigits 10 n) 0 := by rw [Nat.ofDigitChars_replicate_zero, Nat.mul_zero]
  _ = n := Nat.ofDigitChars_ten_toDigits

theorem decimal_lt {cs : List Char} (h : ∀ c ∈ cs, c.isDigit) : decimal cs < 10 ^ cs.length := by
  have hdigits : ∀ d ∈ cs.reverse.map (fun c => c.toNat - '0'.toNat), d < 10 := by
    intro d hd
    obtain ⟨c, hc, rfl⟩ := List.mem_map.mp hd
    have hlast := (toNat_of_isDigit (h c (List.mem_reverse.mp hc))).2
    have hzero : '0'.toNat = 48 := rfl
    omega
  have hlt := Nat.ofDigits_lt_base_pow_length (by decide : 1 < 10) hdigits
  rwa [← decimal_eq_ofDigits, List.length_map, List.length_reverse] at hlt

theorem plainNumeral_digits {cs : List Char} (h : ∀ c ∈ cs, c.isDigit) : plainNumeral cs = cs := by
  unfold plainNumeral
  rw [if_pos]
  rw [List.all_eq_true]
  intro c hc
  have hlast := (toNat_of_isDigit (h c hc)).2
  exact decide_eq_true (by omega)

theorem spanDigits_cons {c : Char} (hc : c.isDigit) (afterDigit : Bool) (rest : List Char) :
    spanDigits afterDigit (c :: rest) = (spanDigits true rest).map fun (ds, tail) => (c :: ds, tail) := by
  have hmark : c ≠ '_' := by
    rintro rfl
    cases hc
  rw [spanDigits.eq_def]
  split
  · next heq => exact absurd (List.cons.inj heq).1 hmark
  · next heq =>
    cases heq
    rw [if_pos hc]
  · next heq => cases heq

theorem spanDigits_digits {cs : List Char} (h : ∀ c ∈ cs, c.isDigit) : spanDigits true cs = some (cs, []) := by
  induction cs with
  | nil => rfl
  | cons c cs ih =>
    rw [spanDigits_cons (h c List.mem_cons_self), ih fun d hd => h d (List.mem_cons_of_mem _ hd)]
    rfl

theorem readInt_digits {text : String} (hne : text.toList ≠ []) (h : ∀ c ∈ text.toList, c.isDigit) :
    readInt text =
      if digitLimit < text.toList.length then .error (.tooLong text.toList.length)
      else .ok (decimal text.toList) := by
  unfold readInt
  rw [plainNumeral_digits h]
  generalize text.toList = cs at hne h
  cases cs with
  | nil => exact absurd rfl hne
  | cons c cs =>
    have hc : c.isDigit := h c List.mem_cons_self
    have hspan : spanDigits false (c :: cs) = some (c :: cs, []) := by
      rw [spanDigits_cons hc, spanDigits_digits fun d hd => h d (List.mem_cons_of_mem _ hd)]
      rfl
    rw [List.dropWhile_cons_of_neg (by simp [isNumeralSpace_of_isDigit hc])]
    have hminus : c ≠ '-' := by
      rintro rfl
      cases hc
    have hplus : c ≠ '+' := by
      rintro rfl
      cases hc
    simp [hminus, hplus, hspan]

end Lexing.Text
