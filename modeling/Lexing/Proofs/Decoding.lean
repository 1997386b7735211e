import Lexing.Text.Encoding

/-! Texts and the bytes that encode them. Decoding is the inverse of encoding: it gives back every text from
its bytes, and fails on bytes that encode none. Line ends are unified by a rule on neighbouring characters. -/
namespace Lexing.Text

theorem toNat_ofNat {code : Nat} (h : code.isValidChar) : (Char.ofNat code).toNat = code := by
  rw [Char.ofNat, dif_pos h]
  rfl

theorem exists_of_map_ok {ε α β : Type} {f : α → β} {x : Except ε α} {y : β} (h : x.map f = .ok y) :
    ∃ a, x = .ok a ∧ y = f a := by
  cases x with
  | error fault => cases h
  | ok a => exact ⟨a, rfl, (Except.ok.inj h).symm⟩

/-! ## UTF-8 -/

/-- The second byte is what keeps long forms of short codes, surrogates and codes beyond the last apart. -/
theorem utf8Shape?_eq (lead : Nat) :
    utf8Shape? lead =
      if 0xc2 ≤ lead ∧ lead ≤ 0xdf then some (2, 0x80, 0xbf)
      else if 0xe0 ≤ lead ∧ lead ≤ 0xef then
        some (3, if lead = 0xe0 then 0xa0 else 0x80, if lead = 0xed then 0x9f else 0xbf)
      else if 0xf0 ≤ lead ∧ lead ≤ 0xf4 then
        some (4, if lead = 0xf0 then 0x90 else 0x80, if lead = 0xf4 then 0x8f else 0xbf)
      else none := by
  unfold utf8Shape?
  grind

variable {place start lead missing lo hi code : Nat} {b : UInt8} {rest : List UInt8}

theorem utf8From_of_shape {n : Nat} (hb : 0x80 ≤ b.toNat) (hshape : utf8Shape? b.toNat = some (n, lo, hi)) :
    utf8From place (b :: rest) =
      utf8Rest place b.toNat (place + 1) (n - 1) lo hi (utf8Payload n b.toNat) rest := by
  rw [utf8From, if_neg (Nat.not_lt.mpr hb), hshape]

theorem utf8Rest_last (h : lo ≤ b.toNat ∧ b.toNat ≤ hi) :
    utf8Rest start lead place 1 lo hi code (b :: rest) =
      (utf8From (place + 1) rest).map (Char.ofNat (code * 0x40 + b.toNat % 0x40) :: ·) := by
  have hrange : (b.toNat < lo || hi < b.toNat) = false := by simp; omega
  rw [utf8Rest, hrange]
  rfl

theorem utf8Rest_more (hmissing : 2 ≤ missing) (h : lo ≤ b.toNat ∧ b.toNat ≤ hi) :
    utf8Rest start lead place missing lo hi code (b :: rest) =
      utf8Rest start lead (place + 1) (missing - 1) 0x80 0xbf (code * 0x40 + b.toNat % 0x40) rest := by
  have hrange : (b.toNat < lo || hi < b.toNat) = false := by simp; omega
  rw [utf8Rest, hrange, if_neg Bool.false_ne_true, if_neg (by omega)]

/-- The bytes of one character, and its code. -/
inductive Utf8Sequence : List UInt8 → Nat → Prop
  | one {a : UInt8} (lead : a.toNat < 0x80) : Utf8Sequence [a] a.toNat
  | two {a b : UInt8} (lead : 0xc2 ≤ a.toNat ∧ a.toNat ≤ 0xdf) (second : 0x80 ≤ b.toNat ∧ b.toNat ≤ 0xbf) :
      Utf8Sequence [a, b] (a.toNat % 0x20 * 0x40 + b.toNat % 0x40)
  | three {a b c : UInt8} (lead : 0xe0 ≤ a.toNat ∧ a.toNat ≤ 0xef)
      (second : (if a.toNat = 0xe0 then 0xa0 else 0x80) ≤ b.toNat ∧
        b.toNat ≤ if a.toNat = 0xed then 0x9f else 0xbf)
      (third : 0x80 ≤ c.toNat ∧ c.toNat ≤ 0xbf) :
      Utf8Sequence [a, b, c] ((a.toNat % 0x10 * 0x40 + b.toNat % 0x40) * 0x40 + c.toNat % 0x40)
  | four {a b c d : UInt8} (lead : 0xf0 ≤ a.toNat ∧ a.toNat ≤ 0xf4)
      (second : (if a.toNat = 0xf0 then 0x90 else 0x80) ≤ b.toNat ∧
        b.toNat ≤ if a.toNat = 0xf4 then 0x8f else 0xbf)
      (third : 0x80 ≤ c.toNat ∧ c.toNat ≤ 0xbf) (fourth : 0x80 ≤ d.toNat ∧ d.toNat ≤ 0xbf) :
      Utf8Sequence [a, b, c, d]
        (((a.toNat % 0x08 * 0x40 + b.toNat % 0x40) * 0x40 + c.toNat % 0x40) * 0x40 + d.toNat % 0x40)

namespace Utf8Sequence

variable {bytes : List UInt8}

/-- A character is read off its bytes, whatever follows. -/
theorem utf8From_append (h : Utf8Sequence bytes code) (place : Nat) (rest : List UInt8) :
    utf8From place (bytes ++ rest) =
      (utf8From (place + bytes.length) rest).map (Char.ofNat code :: ·) := by
  cases h with
  | one lead =>
    rw [List.singleton_append, utf8From, if_pos lead]
    rfl
  | @two a b lead second =>
    have hshape : utf8Shape? a.toNat = some (2, 0x80, 0xbf) := by rw [utf8Shape?_eq, if_pos lead]
    exact (utf8From_of_shape (by omega) hshape).trans (utf8Rest_last second)
  | @three a b c lead second third =>
    have hshape := utf8Shape?_eq a.toNat
    rw [if_neg (by omega), if_pos lead] at hshape
    calc utf8From place (a :: b :: c :: rest)
        = utf8Rest place a.toNat (place + 1) 2 _ _ (a.toNat % 0x10) (b :: c :: rest) :=
          utf8From_of_shape (by omega) hshape
      _ = utf8Rest place a.toNat (place + 2) 1 0x80 0xbf (a.toNat % 0x10 * 0x40 + b.toNat % 0x40) (c :: rest) :=
          utf8Rest_more (by decide) second
      _ = _ := utf8Rest_last third
  | @four a b c d lead second third fourth =>
    have hshape := utf8Shape?_eq a.toNat
    rw [if_neg (by omega), if_neg (by omega), if_pos lead] at hshape
    calc utf8From place (a :: b :: c :: d :: rest)
        = utf8Rest place a.toNat (place + 1) 3 _ _ (a.toNat % 0x08) (b :: c :: d :: rest) :=
          utf8From_of_shape (by omega) hshape
      _ = utf8Rest place a.toNat (place + 2) 2 0x80 0xbf (a.toNat % 0x08 * 0x40 + b.toNat % 0x40)
            (c :: d :: rest) := utf8Rest_more (by decide) second
      _ = utf8Rest place a.toNat (place + 3) 1 0x80 0xbf
            ((a.toNat % 0x08 * 0x40 + b.toNat % 0x40) * 0x40 + c.toNat % 0x40) (d :: rest) :=
          utf8Rest_more (by decide) third
      _ = _ := utf8Rest_last fourth

theorem length_pos (h : Utf8Sequence bytes code) : 0 < bytes.length := by
  cases h <;> exact Nat.succ_pos _

theorem isValidChar (h : Utf8Sequence bytes code) : code.isValidChar := by
  unfold Nat.isValidChar
  cases h <;> grind

/-- The bytes are those of the character with the code. -/
theorem encodeChar_eq (h : Utf8Sequence bytes code) : String.utf8EncodeChar (Char.ofNat code) = bytes := by
  have hcode : (Char.ofNat code).val.toNat = code := toNat_ofNat h.isValidChar
  have hbyte {n : Nat} {u : UInt8} (h : n = u.toNat) : UInt8.ofNat n = u := by
    rw [h, UInt8.ofNat_toNat]
  unfold String.utf8EncodeChar
  rw [hcode]
  clear hcode
  cases h with
  | @one a lead => rw [if_pos (by omega), hbyte rfl]
  | @two a b lead second =>
    rw [if_neg (by omega), if_pos (by omega), hbyte (u := a) (by omega), hbyte (u := b) (by omega)]
  | @three a b c lead second third =>
    have hlow : 0x800 ≤ (a.toNat % 0x10 * 0x40 + b.toNat % 0x40) * 0x40 + c.toNat % 0x40 := by grind
    have second : 0x80 ≤ b.toNat ∧ b.toNat ≤ 0xbf := by grind
    rw [if_neg (by omega), if_neg (by omega), if_pos (by omega), hbyte (u := a) (by omega),
      hbyte (u := b) (by omega), hbyte (u := c) (by omega)]
  | @four a b c d lead second third fourth =>
    have hlow : 0x10000 ≤ ((a.toNat % 0x08 * 0x40 + b.toNat % 0x40) * 0x40 + c.toNat % 0x40) * 0x40 +
      d.toNat % 0x40 := by grind
    have second : 0x80 ≤ b.toNat ∧ b.toNat ≤ 0xbf := by grind
    rw [if_neg (by omega), if_neg (by omega), if_neg (by omega), hbyte (u := a) (by omega),
      hbyte (u := b) (by omega), hbyte (u := c) (by omega), hbyte (u := d) (by omega)]

end Utf8Sequence

/-- The bytes of every character are such a sequence; surrogates are no characters. -/
theorem utf8Sequence_encodeChar (c : Char) : Utf8Sequence (String.utf8EncodeChar c) c.toNat := by
  have hvalid : c.val.toNat.isValidChar := c.valid
  have hbyte {n : Nat} (h : n < 256) : (UInt8.ofNat n).toNat = n := UInt8.toNat_ofNat_of_lt' h
  change Utf8Sequence (String.utf8EncodeChar c) c.val.toNat
  unfold String.utf8EncodeChar
  generalize c.val.toNat = v at hvalid
  dsimp only
  split
  · have ha := hbyte (n := v) (by omega)
    generalize UInt8.ofNat v = a at ha
    exact ha ▸ .one (by omega)
  · split
    · have ha := hbyte (n := v / 64 % 0x20 + 0xc0) (by omega)
      have hb := hbyte (n := v % 0x40 + 0x80) (by omega)
      generalize UInt8.ofNat (v / 64 % 0x20 + 0xc0) = a at ha ⊢
      generalize UInt8.ofNat (v % 0x40 + 0x80) = b at hb ⊢
      have hcode : a.toNat % 0x20 * 0x40 + b.toNat % 0x40 = v := by omega
      exact hcode ▸ .two (by omega) (by omega)
    · split
      · have ha := hbyte (n := v / 4096 % 0x10 + 0xe0) (by omega)
        have hb := hbyte (n := v / 64 % 0x40 + 0x80) (by omega)
        have hc := hbyte (n := v % 0x40 + 0x80) (by omega)
        generalize UInt8.ofNat (v / 4096 % 0x10 + 0xe0) = a at ha ⊢
        generalize UInt8.ofNat (v / 64 % 0x40 + 0x80) = b at hb ⊢
        generalize UInt8.ofNat (v % 0x40 + 0x80) = c at hc ⊢
        have hcode : (a.toNat % 0x10 * 0x40 + b.toNat % 0x40) * 0x40 + c.toNat % 0x40 = v := by omega
        refine hcode ▸ .three (by omega) ⟨?_, ?_⟩ (by omega)
        · split <;> omega
        · split <;> omega
      · have ha := hbyte (n := v / 262144 % 0x08 + 0xf0) (by omega)
        have hb := hbyte (n := v / 4096 % 0x40 + 0x80) (by omega)
        have hc := hbyte (n := v / 64 % 0x40 + 0x80) (by omega)
        have hd := hbyte (n := v % 0x40 + 0x80) (by omega)
        generalize UInt8.ofNat (v / 262144 % 0x08 + 0xf0) = a at ha ⊢
        generalize UInt8.ofNat (v / 4096 % 0x40 + 0x80) = b at hb ⊢
        generalize UInt8.ofNat (v / 64 % 0x40 + 0x80) = c at hc ⊢
        generalize UInt8.ofNat (v % 0x40 + 0x80) = d at hd ⊢
        have hcode : ((a.toNat % 0x08 * 0x40 + b.toNat % 0x40) * 0x40 + c.toNat % 0x40) * 0x40 +
            d.toNat % 0x40 = v := by omega
        refine hcode ▸ .four (by omega) ⟨?_, ?_⟩ (by omega) (by omega)
        · split <;> omega
        · split <;> omega

/-- A character that is read to its end had a further byte in its range. -/
theorem utf8Rest_eq_ok {chars : List Char} {bytes : List UInt8}
    (h : utf8Rest start lead place missing lo hi code bytes = .ok chars) :
    ∃ b rest, bytes = b :: rest ∧ (lo ≤ b.toNat ∧ b.toNat ≤ hi) := by
  cases bytes with
  | nil => cases h
  | cons b rest =>
    refine ⟨b, rest, rfl, ?_⟩
    rw [utf8Rest] at h
    split at h
    · cases h
    · next hrange =>
      simp only [Bool.or_eq_true, decide_eq_true_eq] at hrange
      omega

/-- Where decoding goes on, it has read a character. -/
theorem exists_sequence {chars : List Char} (h : utf8From place (b :: rest) = .ok chars) :
    ∃ bytes code after, Utf8Sequence bytes code ∧ b :: rest = bytes ++ after := by
  by_cases hone : b.toNat < 0x80
  · exact ⟨[b], b.toNat, rest, .one hone, rfl⟩
  have hb : 0x80 ≤ b.toNat := Nat.le_of_not_lt hone
  have hshape := utf8Shape?_eq b.toNat
  by_cases htwo : 0xc2 ≤ b.toNat ∧ b.toNat ≤ 0xdf
  · rw [if_pos htwo] at hshape
    rw [utf8From_of_shape hb hshape] at h
    obtain ⟨c, rest, rfl, second⟩ := utf8Rest_eq_ok h
    exact ⟨[b, c], _, rest, .two htwo second, rfl⟩
  by_cases hthree : 0xe0 ≤ b.toNat ∧ b.toNat ≤ 0xef
  · rw [if_neg htwo, if_pos hthree] at hshape
    rw [utf8From_of_shape hb hshape] at h
    obtain ⟨c, rest, rfl, second⟩ := utf8Rest_eq_ok h
    rw [utf8Rest_more (by decide) second] at h
    obtain ⟨d, rest, rfl, third⟩ := utf8Rest_eq_ok h
    exact ⟨[b, c, d], _, rest, .three hthree second third, rfl⟩
  by_cases hfour : 0xf0 ≤ b.toNat ∧ b.toNat ≤ 0xf4
  · rw [if_neg htwo, if_neg hthree, if_pos hfour] at hshape
    rw [utf8From_of_shape hb hshape] at h
    obtain ⟨c, rest, rfl, second⟩ := utf8Rest_eq_ok h
    rw [utf8Rest_more (by decide) second] at h
    obtain ⟨d, rest, rfl, third⟩ := utf8Rest_eq_ok h
    rw [utf8Rest_more (by decide) third] at h
    obtain ⟨e, rest, rfl, fourth⟩ := utf8Rest_eq_ok h
    exact ⟨[b, c, d, e], _, rest, .four hfour second third fourth, rfl⟩
  · rw [if_neg htwo, if_neg hthree, if_neg hfour] at hshape
    rw [utf8From, if_neg hone, hshape] at h
    cases h

theorem utf8From_flatMap (chars : List Char) (place : Nat) :
    utf8From place (chars.flatMap String.utf8EncodeChar) = .ok chars := by
  induction chars generalizing place with
  | nil => rfl
  | cons c chars ih =>
    rw [List.flatMap_cons, (utf8Sequence_encodeChar c).utf8From_append, ih, Char.ofNat_toNat]
    rfl

theorem eq_flatMap_of_utf8From {bytes : List UInt8} {chars : List Char} (h : utf8From place bytes = .ok chars) :
    bytes = chars.flatMap String.utf8EncodeChar := by
  induction hlength : bytes.length using Nat.strongRecOn generalizing place bytes chars with
  | ind n ih =>
    cases bytes with
    | nil =>
      cases h
      rfl
    | cons b rest =>
      obtain ⟨bytes, code, after, hseq, hsplit⟩ := exists_sequence h
      rw [hsplit] at h hlength ⊢
      rw [hseq.utf8From_append] at h
      obtain ⟨chars', hafter, rfl⟩ := exists_of_map_ok h
      have hpos := hseq.length_pos
      rw [List.length_append] at hlength
      rw [List.flatMap_cons, hseq.encodeChar_eq, ← ih after.length (by omega) hafter rfl]

theorem utf8From_eq_ok {bytes : List UInt8} {chars : List Char} :
    utf8From place bytes = .ok chars ↔ bytes = chars.flatMap String.utf8EncodeChar :=
  ⟨eq_flatMap_of_utf8From, fun h => h ▸ utf8From_flatMap chars place⟩

/-! ## One byte for each character -/

/-- A byte for each character, if there is one for all of them. -/
def byteOf (c : Char) : UInt8 := .ofNat c.toNat

theorem toNat_byteOf {c : Char} (h : c.toNat < 0x100) : (byteOf c).toNat = c.toNat :=
  UInt8.toNat_ofNat_of_lt' h

theorem toNat_ofNat_byte (b : UInt8) : (Char.ofNat b.toNat).toNat = b.toNat :=
  toNat_ofNat (.inl (Nat.lt_trans b.toNat_lt (by decide)))

theorem byteOf_ofNat (b : UInt8) : byteOf (Char.ofNat b.toNat) = b := by
  rw [byteOf, toNat_ofNat_byte, UInt8.ofNat_toNat]

theorem ofNat_byteOf {c : Char} (h : c.toNat < 0x100) : Char.ofNat (byteOf c).toNat = c := by
  rw [toNat_byteOf h, Char.ofNat_toNat]

theorem map_ofNat_eq {bytes : List UInt8} {chars : List Char} :
    bytes.map (fun b => Char.ofNat b.toNat) = chars ↔
      bytes = chars.map byteOf ∧ ∀ c ∈ chars, c.toNat < 0x100 := by
  constructor
  · rintro rfl
    refine ⟨?_, fun c hc => ?_⟩
    · rw [List.map_map]
      exact (List.map_id'' byteOf_ofNat bytes).symm
    · obtain ⟨b, _, rfl⟩ := List.mem_map.mp hc
      rw [toNat_ofNat_byte]
      exact b.toNat_lt
  · rintro ⟨rfl, h⟩
    rw [List.map_map]
    exact (List.map_congr_left fun c hc => ofNat_byteOf (h c hc)).trans (List.map_id _)

theorem asciiFrom_eq_ok {bytes : List UInt8} {chars : List Char} :
    asciiFrom place bytes = .ok chars ↔
      bytes.map (fun b => Char.ofNat b.toNat) = chars ∧ ∀ b ∈ bytes, b.toNat < 0x80 := by
  induction bytes generalizing place chars with
  | nil => simp [asciiFrom]
  | cons b bytes ih =>
    rw [asciiFrom, List.map_cons, List.forall_mem_cons]
    split
    · next hb =>
      constructor
      · intro h
        obtain ⟨chars', hrest, rfl⟩ := exists_of_map_ok h
        obtain ⟨rfl, hall⟩ := ih.mp hrest
        exact ⟨rfl, hb, hall⟩
      · rintro ⟨rfl, -, hall⟩
        rw [ih.mpr ⟨rfl, hall⟩]
        rfl
    · next hb => simp [hb]

namespace Encoding

/-- How texts are written in an encoding. Two of the encodings have bytes for their own characters only. -/
inductive Encodes : Encoding → String → List UInt8 → Prop
  | utf8 (text : String) : Encodes .utf8 text text.toUTF8.data.toList
  | latin1 {text : String} (h : ∀ c ∈ text.toList, c.toNat < 0x100) :
      Encodes .latin1 text (text.toList.map byteOf)
  | ascii {text : String} (h : ∀ c ∈ text.toList, c.toNat < 0x80) :
      Encodes .ascii text (text.toList.map byteOf)

variable {encoding : Encoding} {text : String} {bytes : List UInt8}

theorem data_toUTF8 (text : String) : text.toUTF8.data.toList = text.toList.flatMap String.utf8EncodeChar := by
  rw [String.toUTF8_eq_toByteArray, ← String.utf8Encode_toList, List.utf8Encode, List.toList_data_toByteArray]

/-- A text is given back from its bytes. -/
theorem Encodes.decodeChars_eq (h : encoding.Encodes text bytes) :
    encoding.decodeChars bytes = .ok text.toList := by
  cases h with
  | utf8 =>
    exact utf8From_eq_ok.mpr (data_toUTF8 text)
  | latin1 h => exact congrArg Except.ok (map_ofNat_eq.mpr ⟨rfl, h⟩)
  | ascii h =>
    have hbyte : ∀ c ∈ text.toList, c.toNat < 0x100 := fun c hc => Nat.lt_trans (h c hc) (by decide)
    refine asciiFrom_eq_ok.mpr ⟨map_ofNat_eq.mpr ⟨rfl, hbyte⟩, fun b hb => ?_⟩
    obtain ⟨c, hc, rfl⟩ := List.mem_map.mp hb
    rw [toNat_byteOf (hbyte c hc)]
    exact h c hc

/-- The encodings whose bytes are told here. -/
def isCommon : Encoding → Bool
  | .utf8 | .latin1 | .ascii => true
  | _ => false

/-- Bytes that are decoded are those of the text. -/
theorem encodes_of_decodeChars (hcommon : encoding.isCommon)
    (h : encoding.decodeChars bytes = .ok text.toList) : encoding.Encodes text bytes := by
  cases encoding with
  | utf8 =>
    have hbytes := utf8From_eq_ok.mp h
    rw [hbytes, ← data_toUTF8]
    exact .utf8 text
  | latin1 =>
    obtain ⟨rfl, hall⟩ := map_ofNat_eq.mp (Except.ok.inj h)
    exact .latin1 hall
  | ascii =>
    obtain ⟨hchars, hall⟩ := asciiFrom_eq_ok.mp h
    obtain ⟨hbytes, _⟩ := map_ofNat_eq.mp hchars
    rw [hbytes]
    refine .ascii fun c hc => ?_
    rw [← hchars] at hc
    obtain ⟨b, hb, rfl⟩ := List.mem_map.mp hc
    rw [toNat_ofNat_byte]
    exact hall b hb
  | utf8Marked | utf16 | utf16le | utf16be => cases hcommon

end Encoding

/-! ## Line ends -/

/-- A text with its line ends unified: a carriage return and a newline behind it are one newline, any other
carriage return is a newline, and all else stays. -/
inductive LineEndsUnified : List Char → List Char → Prop
  | nil : LineEndsUnified [] []
  | pair {chars unified : List Char} (rest : LineEndsUnified chars unified) :
      LineEndsUnified ('\r' :: '\n' :: chars) ('\n' :: unified)
  | lone {chars unified : List Char} (single : chars.head? ≠ some '\n') (rest : LineEndsUnified chars unified) :
      LineEndsUnified ('\r' :: chars) ('\n' :: unified)
  | other {c : Char} {chars unified : List Char} (plain : c ≠ '\r') (rest : LineEndsUnified chars unified) :
      LineEndsUnified (c :: chars) (c :: unified)

theorem lineEndsUnified_iff {chars unified : List Char} :
    LineEndsUnified chars unified ↔ unifyNewlines chars = unified := by
  constructor
  · intro h
    induction h with
    | nil => rfl
    | pair _ ih => rw [unifyNewlines, ih]
    | lone single _ ih =>
      rw [unifyNewlines, ih]
      rintro rest rfl
      exact single rfl
    | other plain _ ih =>
      rw [unifyNewlines, ih]
      · exact fun rest hc _ => plain hc
      · exact plain
  · rintro rfl
    fun_induction unifyNewlines chars with
    | case1 chars ih => exact .pair ih
    | case2 chars single ih =>
      refine .lone (fun hhead => ?_) ih
      obtain ⟨rest, hrest⟩ := List.head?_eq_some_iff.mp hhead
      exact single rest hrest
    | case3 c chars _ plain ih => exact .other plain ih
    | case4 => exact .nil

theorem LineEndsUnified.of_notMem {chars : List Char} (h : '\r' ∉ chars) : LineEndsUnified chars chars := by
  induction chars with
  | nil => exact .nil
  | cons c chars ih =>
    rw [List.mem_cons, not_or] at h
    exact .other (Ne.symm h.1) (ih h.2)

end Lexing.Text
