import Lexing.Pattern.Defect
import Lexing.Pattern.Mode
import Lexing.Pattern.Node
import Lexing.Text.Identifier

/-! Reading the text of a pattern piece by piece, one piece ahead. -/
namespace Lexing.Pattern

/-- A character, or a backslash with the character after it. -/
inductive Piece where
  | plain (c : Char)
  | escaped (c : Char)
deriving DecidableEq, Repr

def Piece.chars : Piece → List Char
  | .plain c => [c]
  | .escaped c => ['\\', c]

def Piece.text (piece : Piece) : String := String.ofList piece.chars

def Piece.length : Piece → Nat
  | .plain _ => 1
  | .escaped _ => 2

structure ReadState where
  /-- Where the next piece begins. -/
  offset : Nat := 0
  /-- The characters that may be named. -/
  named : String → Option Char := fun _ => none
  /-- Settings of the whole pattern, and the letters they were given by. -/
  mode : Mode := {}
  settings : List Char := []
  /-- Widths of the groups from group 1 on, none while a group is open. -/
  groups : Array (Option Width) := #[]
  names : List (String × Nat) := []
  /-- Groups that conditions ask about, with the place of the first asking. -/
  asked : List (Nat × Nat) := []
  /-- Inside a lookbehind, the number of groups before it and one. -/
  behindLimit : Option Nat := none

/-- Reads under the characters of the pattern. -/
abbrev Read := ReaderT (Array Char) (StateT ReadState (Except ReadFault))

def failAt (place : Nat) (defect : Defect) : Read α :=
  throw (.malformed ⟨defect, some place⟩)

/-- Fails at a place before the next piece. -/
def failBack (back : Nat) (defect : Defect) : Read α := do
  failAt ((← get).offset - back) defect

def offset : Read Nat := return (← get).offset

def pieceAt (chars : Array Char) (place : Nat) : Option Piece :=
  match chars[place]? with
  | none => none
  | some '\\' => match chars[place + 1]? with
    | some c => some (.escaped c)
    | none => some (.plain '\\')
  | some c => some (.plain c)

def peek : Read (Option Piece) := return pieceAt (← read) (← get).offset

/-- A backslash that ends the pattern is refused as soon as it comes next. -/
def moveTo (place : Nat) : Read Unit := do
  let chars ← read
  if chars[place]? = some '\\' ∧ place + 1 = chars.size then failAt place .trailingEscape
  modify ({ · with offset := place })

/-- Takes the next piece, none at the end. -/
def next : Read (Option Piece) := do
  let piece ← peek
  match piece with
  | some p => moveTo ((← get).offset + p.length)
  | none => pure ()
  return piece

def accept (c : Char) : Read Bool := do
  if (← peek) = some (.plain c) then
    let _ ← next
    return true
  else return false

/-- Takes up to `n` characters as long as they pass the test. -/
def takeSome (test : Char → Bool) : Nat → Read (List Char)
  | 0 => return []
  | n + 1 => do
    match ← peek with
    | some (.plain c) =>
      if test c then
        let _ ← next
        return c :: (← takeSome test n)
      else return []
    | _ => return []

/-- Bounds the pieces that are left. -/
def remaining : Read Nat := return (← read).size - (← get).offset

/-- Takes a name up to its closing character, and that too. -/
def takeName (close : Char) (what : String) : Read String := do
  let rec go (taken : List Char) : Nat → Read String
    | 0 => failBack taken.length (.unterminatedName close)
    | n + 1 => do
      match ← next with
      | none =>
        if taken.isEmpty then failBack 0 (.missing what)
        else failBack taken.length (.unterminatedName close)
      | some (.plain c) =>
        if c = close then
          if taken.isEmpty then failBack 1 (.missing what) else return String.ofList taken
        else go (taken ++ [c]) n
      | some piece => go (taken ++ piece.chars) n
  go [] ((← remaining) + 1)

def isOctal (c : Char) : Bool := '0' ≤ c && c ≤ '7'

def isHex (c : Char) : Bool := c.isDigit || ('a' ≤ c && c ≤ 'f') || ('A' ≤ c && c ≤ 'F')

def isAsciiLetter (c : Char) : Bool := c.isAlpha

def hexValue (c : Char) : Nat :=
  if c.isDigit then c.toNat - 0x30
  else if 'a' ≤ c then c.toNat - 0x57
  else c.toNat - 0x37

def ofDigits (base : Nat) (digits : List Char) : Nat :=
  digits.foldl (fun n c => base * n + hexValue c) 0

/-- Groups are numbered from 1; this is the number the next one gets. -/
def nextGroup : Read Nat := return (← get).groups.size + 1

def isClosed (group : Nat) : Read Bool :=
  return 0 < group && (((← get).groups[group - 1]?).join).isSome

/-- Inside a lookbehind only groups closed before it may be referred to. -/
def checkBehind (group : Nat) : Read Unit := do
  match (← get).behindLimit with
  | none => return ()
  | some limit =>
    if !(← isClosed group) then failBack 0 .openReference
    if limit ≤ group then failBack 0 .referenceWithin

def foldingOf (mode : Mode) : Folding :=
  if mode.ignoreCase then if mode.ascii then .ascii else .unicode else .exact

end Lexing.Pattern
