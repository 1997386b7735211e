import Lexing.Text.Blank
import Lexing.Text.Digit

/-! Whole numbers in text: blanks around, a sign, digits of any script, single underscores between
them. At most 4300 digits are read, and at most as many written. -/
namespace Lexing.Text

inductive NumeralFault where
  | malformed (text : String)
  | tooLong (digits : Nat)
  /-- A number to be written has too many digits. -/
  | unwritable
deriving DecidableEq

def digitLimit : Nat := 4300

/-- The first number with too many digits to be written. -/
def writableBound : Nat := Nat.pow 10 digitLimit

def isWritable (n : Int) : Bool := n.natAbs < writableBound

/-- Blanks that may stand around a number. -/
def isNumeralSpace (c : Char) : Bool :=
  c == ' ' || (0x09 ≤ c.toNat && c.toNat ≤ 0x0d)

/-- Text with a character outside ASCII has its blanks and digits read as the ASCII ones. -/
def plainNumeral (s : List Char) : List Char :=
  if s.all (·.toNat < 0x80) then s
  else s.map fun c =>
    if c.toNat < 0x7f then c
    else if isBlank c then ' '
    else match digitValue? c with
      | some d => Char.ofNat (0x30 + d)
      | none => '?'

/-- Digits up to the first other character, underscores only between two of them. -/
def spanDigits (afterDigit : Bool) : List Char → Option (List Char × List Char)
  | '_' :: rest =>
    if afterDigit then (spanDigits false rest) else none
  | c :: rest =>
    if c.isDigit then (spanDigits true rest).map fun (ds, tail) => (c :: ds, tail)
    else if afterDigit then some ([], c :: rest) else none
  | [] => if afterDigit then some ([], []) else none

def decimal (digits : List Char) : Nat :=
  digits.foldl (fun n c => 10 * n + (c.toNat - 0x30)) 0

def readInt (text : String) : Except NumeralFault Int :=
  let body := (plainNumeral text.toList).dropWhile isNumeralSpace
  let (negative, body) := match body with
    | '-' :: rest => (true, rest)
    | '+' :: rest => (false, rest)
    | _ => (false, body)
  match spanDigits false body with
  | none => .error (.malformed text)
  | some (digits, tail) =>
    if digitLimit < digits.length then .error (.tooLong digits.length)
    else if tail.all isNumeralSpace then
      .ok (if negative then -(decimal digits : Int) else decimal digits)
    else .error (.malformed text)

end Lexing.Text
