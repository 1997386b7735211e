/-! Bytes to text. A fault names the encoding, the bytes at fault and the reason. -/
namespace Lexing.Text

inductive Encoding where
  | ascii
  | latin1
  | utf8
  | utf8Marked
  | utf16
  | utf16le
  | utf16be
deriving DecidableEq, Repr

/-- Small letters, with each run of other signs as one underscore. -/
def plainName (name : String) : String :=
  let parts := (name.toList.map fun c => if c.isAlphanum || c == '.' then c.toLower else '_').splitBy
    fun a b => (a == '_') == (b == '_')
  let words := parts.filter fun part => part.head? != some '_'
  String.ofList (List.intercalate ['_'] words)

def Encoding.names : List (Encoding × List String) := [
  (.ascii, ["ascii", "us_ascii", "us", "646", "iso646_us", "cp367", "ibm367", "csascii",
    "iso_ir_6", "ansi_x3.4_1968", "ansi_x3_4_1968", "ansi_x3.4_1986", "iso_646.irv_1991"]),
  (.latin1, ["latin_1", "latin1", "latin", "l1", "iso_8859_1", "iso8859_1", "iso8859", "8859",
    "cp819", "ibm819", "csisolatin1", "iso_8859_1_1987", "iso_ir_100"]),
  (.utf8, ["utf_8", "utf8", "u8", "utf", "cp65001", "utf8_ucs2", "utf8_ucs4", "locale"]),
  (.utf8Marked, ["utf_8_sig"]),
  (.utf16, ["utf_16", "utf16", "u16"]),
  (.utf16le, ["utf_16_le", "utf_16le", "unicodelittleunmarked"]),
  (.utf16be, ["utf_16_be", "utf_16be", "unicodebigunmarked"])]

def Encoding.ofName? (name : String) : Option Encoding :=
  (names.find? fun (_, spellings) => spellings.contains (plainName name)).map (·.1)

inductive DecodeFault where
  /-- Bytes `first` up to but not including `past` cannot be decoded. -/
  | bytes (encoding : String) (first past lead : Nat) (reason : String)
  | noMark
deriving DecidableEq

/-- How many bytes a start byte announces, and the range of the second one. -/
def utf8Shape? (lead : Nat) : Option (Nat × Nat × Nat) :=
  if 0xc2 ≤ lead && lead ≤ 0xdf then some (2, 0x80, 0xbf)
  else if lead == 0xe0 then some (3, 0xa0, 0xbf)
  else if lead == 0xed then some (3, 0x80, 0x9f)
  else if 0xe1 ≤ lead && lead ≤ 0xef then some (3, 0x80, 0xbf)
  else if lead == 0xf0 then some (4, 0x90, 0xbf)
  else if 0xf1 ≤ lead && lead ≤ 0xf3 then some (4, 0x80, 0xbf)
  else if lead == 0xf4 then some (4, 0x80, 0x8f)
  else none

/-- The leading payload bits of a start byte of an `n`-byte character. -/
def utf8Payload (n lead : Nat) : Nat := lead % (if n = 2 then 0x20 else if n = 3 then 0x10 else 0x08)

mutual

/-- Decodes from byte number `place` on. -/
def utf8From (place : Nat) : List UInt8 → Except DecodeFault (List Char)
  | [] => .ok []
  | b :: rest =>
    if b.toNat < 0x80 then do return Char.ofNat b.toNat :: (← utf8From (place + 1) rest)
    else match utf8Shape? b.toNat with
      | none => .error (.bytes "utf-8" place (place + 1) b.toNat "invalid start byte")
      | some (n, lo, hi) => utf8Rest place b.toNat (place + 1) (n - 1) lo hi (utf8Payload n b.toNat) rest

/-- Takes the `missing` bytes of a character that began at byte `start`; the next lies in `lo..hi`. -/
def utf8Rest (start lead place missing lo hi code : Nat) : List UInt8 → Except DecodeFault (List Char)
  | [] => .error (.bytes "utf-8" start place lead "unexpected end of data")
  | b :: rest =>
    if b.toNat < lo || hi < b.toNat then
      .error (.bytes "utf-8" start place lead "invalid continuation byte")
    else if missing ≤ 1 then do
      return Char.ofNat (code * 0x40 + b.toNat % 0x40) :: (← utf8From (place + 1) rest)
    else utf8Rest start lead (place + 1) (missing - 1) 0x80 0xbf (code * 0x40 + b.toNat % 0x40) rest

end

def asciiFrom (place : Nat) : List UInt8 → Except DecodeFault (List Char)
  | [] => .ok []
  | b :: rest =>
    if b.toNat < 0x80 then do return Char.ofNat b.toNat :: (← asciiFrom (place + 1) rest)
    else .error (.bytes "ascii" place (place + 1) b.toNat "ordinal not in range(128)")

/-- Pairs of bytes, the more significant one first if `big`. -/
def utf16From (big : Bool) (place : Nat) : List UInt8 → Except DecodeFault (List Char)
  | [] => .ok []
  | [b] => .error (.bytes (name big) place (place + 1) b.toNat "truncated data")
  | a :: b :: rest =>
    let unit := pair a b
    if unit < 0xd800 || 0xe000 ≤ unit then do
      return Char.ofNat unit :: (← utf16From big (place + 2) rest)
    else if 0xdc00 ≤ unit then
      .error (.bytes (name big) place (place + 2) a.toNat "illegal encoding")
    else match rest with
      | c :: d :: rest =>
        let low := pair c d
        if 0xdc00 ≤ low && low < 0xe000 then do
          return Char.ofNat (0x10000 + (unit - 0xd800) * 0x400 + (low - 0xdc00)) ::
            (← utf16From big (place + 4) rest)
        else .error (.bytes (name big) place (place + 2) a.toNat "illegal UTF-16 surrogate")
      | short => .error (.bytes (name big) place (place + 2 + short.length) a.toNat "unexpected end of data")
where
  name (big : Bool) : String := if big then "utf-16-be" else "utf-16-le"
  pair (a b : UInt8) : Nat := if big then a.toNat * 0x100 + b.toNat else b.toNat * 0x100 + a.toNat

/-- A byte order mark is dropped where the encoding asks for one, and kept elsewhere. -/
def Encoding.decodeChars (bytes : List UInt8) : Encoding → Except DecodeFault (List Char)
  | .ascii => asciiFrom 0 bytes
  | .latin1 => .ok (bytes.map fun b => Char.ofNat b.toNat)
  | .utf8 => utf8From 0 bytes
  | .utf8Marked => match bytes with
    | 0xef :: 0xbb :: 0xbf :: rest => utf8From 0 rest
    | [0xef, 0xbb] => .ok []
    | [0xef] => .ok []
    | _ => utf8From 0 bytes
  | .utf16 => match bytes with
    | 0xff :: 0xfe :: rest => utf16From false 2 rest
    | 0xfe :: 0xff :: rest => utf16From true 2 rest
    | _ => do
      let _ ← utf16From false 0 bytes
      if bytes.isEmpty then return [] else throw .noMark
  | .utf16le => utf16From false 0 bytes
  | .utf16be => utf16From true 0 bytes

def DecodeFault.message : DecodeFault → String
  | .noMark => "UTF-16 stream does not start with BOM"
  | .bytes encoding first past lead reason =>
    if past = first + 1 then
      s!"'{encoding}' codec can't decode byte 0x{String.ofList (twoHex lead)} in position {first}: {reason}"
    else s!"'{encoding}' codec can't decode bytes in position {first}-{past - 1}: {reason}"
where
  twoHex (n : Nat) : List Char := [digit (n / 16), digit (n % 16)]
  digit (n : Nat) : Char := if n < 10 then Char.ofNat (0x30 + n) else Char.ofNat (0x57 + n)

/-- Every line end is read as one newline. -/
def unifyNewlines : List Char → List Char
  | '\r' :: '\n' :: rest => '\n' :: unifyNewlines rest
  | '\r' :: rest => '\n' :: unifyNewlines rest
  | c :: rest => c :: unifyNewlines rest
  | [] => []

end Lexing.Text
