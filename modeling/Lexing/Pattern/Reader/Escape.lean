import Lexing.Pattern.Reader.Basic
import Lexing.Text.Numeral

/-! Escapes and bracketed sets. -/
namespace Lexing.Pattern

/-- Letters that stand for one control character after a backslash. -/
def controlCode? : Char → Option Nat
  | 'a' => some 0x07
  | 'f' => some 0x0c
  | 'n' => some 0x0a
  | 'r' => some 0x0d
  | 't' => some 0x09
  | 'v' => some 0x0b
  | '\\' => some 0x5c
  | _ => none

def classOf? (mode : Mode) : Char → Option ClassItem
  | 'd' => some (.named .digit mode.ascii false)
  | 'D' => some (.named .digit mode.ascii true)
  | 's' => some (.named .space mode.ascii false)
  | 'S' => some (.named .space mode.ascii true)
  | 'w' => some (.named .word mode.ascii false)
  | 'W' => some (.named .word mode.ascii true)
  | _ => none

def anchorOf? (mode : Mode) : Char → Option Anchor
  | 'A' => some .textStart
  | 'Z' => some .textEnd
  | 'b' => some (.boundary mode.ascii)
  | 'B' => some (.noBoundary mode.ascii)
  | _ => none

/-- Exactly `n` hexadecimal digits after the letter `c`. -/
def readHex (c : Char) (n : Nat) : Read Nat := do
  let digits ← takeSome isHex n
  if digits.length = n then return ofDigits 16 digits
  else failBack (digits.length + 2) (.incompleteEscape (String.ofList ('\\' :: c :: digits)))

/-- Codes no text can hold are refused, in two ways by size. -/
def readLongHex : Read Nat := do
  let digits ← takeSome isHex 8
  let escape := String.ofList ('\\' :: 'U' :: digits)
  if digits.length < 8 then failBack (digits.length + 2) (.incompleteEscape escape)
  let code := ofDigits 16 digits
  if 0x7fffffff < code then throw .codeTooLarge
  if 0x10ffff < code then failBack 10 (.badEscape escape)
  return code

/-- The code of a character that is given by its name. -/
def readNamed : Read Nat := do
  if !(← accept '\x7b') then failBack 0 .missingBrace
  let name ← takeName '\x7d' "character name"
  match (← get).named name with
  | some c => return c.toNat
  | none => failBack (name.length + 4) (.unknownCharacter name)

/-- The escapes that are read alike in and out of sets. -/
def readCode? (c : Char) : Read (Option Nat) := do
  match controlCode? c with
  | some code => return some code
  | none =>
    if c == 'x' then return some (← readHex 'x' 2)
    else if c == 'u' then return some (← readHex 'u' 4)
    else if c == 'U' then return some (← readLongHex)
    else if c == 'N' then return some (← readNamed)
    else return none

def badEscape (c : Char) : Read α := failBack 2 (.badEscape (String.ofList ['\\', c]))

def octalCode (digits : List Char) : Read Nat := do
  let code := ofDigits 8 digits
  if 0o377 < code then
    failBack (digits.length + 1) (.octalRange (String.ofList ('\\' :: digits)))
  return code

/-- An escape inside a set, after its two characters were taken. -/
def readSetEscape (mode : Mode) (c : Char) : Read ClassItem := do
  if let some item := classOf? mode c then return item
  if c == 'b' then return .code 0x08
  if let some code ← readCode? c then return .code code
  if isOctal c then
    return .code (← octalCode (c :: (← takeSome isOctal 2)))
  if c.isDigit || isAsciiLetter c then badEscape c
  return .code c.toNat

def readReference (mode : Mode) (digits : List Char) : Read Node := do
  let group := ofDigits 10 digits
  if (← nextGroup) ≤ group then failBack digits.length (.unknownReference group)
  if !(← isClosed group) then failBack (digits.length + 1) .openReference
  checkBehind group
  return .reference group (foldingOf mode)

/-- Three octal digits make a code; fewer digits refer to a group. -/
def readDigits (mode : Mode) (c : Char) : Read Node := do
  match ← takeSome Char.isDigit 1 with
  | [d] =>
    if isOctal c && isOctal d then
      match ← takeSome isOctal 1 with
      | [e] => return .char (.single (foldingOf mode) (← octalCode [c, d, e]))
      | _ => readReference mode [c, d]
    else readReference mode [c, d]
  | _ => readReference mode [c]

/-- An escape outside sets, after its two characters were taken. A class is the set of that class alone. -/
def readEscape (mode : Mode) (c : Char) : Read Node := do
  let literal (code : Nat) : Node := .char (.single (foldingOf mode) code)
  if let some item := classOf? mode c then return .char ⟨[item], false, foldingOf mode⟩
  if let some anchor := anchorOf? mode c then return .anchor anchor
  if let some code ← readCode? c then return literal code
  if c == '0' then return literal (ofDigits 8 (c :: (← takeSome isOctal 2)))
  if c.isDigit then readDigits mode c
  else if isAsciiLetter c then badEscape c
  else return literal c.toNat

def itemOf (mode : Mode) : Piece → Read ClassItem
  | .plain c => return .code c.toNat
  | .escaped c => readSetEscape mode c

/-- A set of one code is that character, or any other if negated. -/
def setNode (mode : Mode) (negated : Bool) (items : List ClassItem) : Node :=
  match items.eraseDups with
  | [.code n] => .char { CharSet.single (foldingOf mode) n with negated }
  | distinct => .char ⟨distinct, negated, foldingOf mode⟩

/-- The items of a set up to its bracket; `start` is where the set begins. -/
def readItems (mode : Mode) (start : Nat) (items : List ClassItem) : Nat → Read (List ClassItem)
  | 0 => failAt start .unterminatedSet
  | n + 1 => do
    match ← next with
    | none => failAt start .unterminatedSet
    | some piece =>
      if piece = .plain ']' ∧ items ≠ [] then return items
      let low ← itemOf mode piece
      if !(← accept '-') then readItems mode start (items ++ [low]) n
      else match ← next with
        | none => failAt start .unterminatedSet
        | some upper =>
          if upper = .plain ']' then return items ++ [low, .code '-'.toNat]
          let high ← itemOf mode upper
          let bad := failBack (piece.length + 1 + upper.length) (.badRange piece.text upper.text)
          match low, high with
          | .code a, .code b =>
            if b < a then bad else readItems mode start (items ++ [.range a b]) n
          | _, _ => bad

/-- A set, after its bracket was taken. -/
def readSet (mode : Mode) : Read Node := do
  let start := (← offset) - 1
  let negated ← accept '^'
  return setNode mode negated (← readItems mode start [] ((← remaining) + 1))

end Lexing.Pattern
