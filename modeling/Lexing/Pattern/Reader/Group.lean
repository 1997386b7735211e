import Lexing.Pattern.Reader.Basic
import Lexing.Text.Numeral

/-! What an opening parenthesis begins. -/
namespace Lexing.Pattern

/-- How a parenthesis wraps what is inside it. -/
inductive Wrapping where
  | capture (name : Option String)
  | plain
  /-- Under settings of its own. -/
  | scoped (mode : Mode)
  | atomic
  | ahead (wanted : Bool)
  | behind (wanted : Bool)
  | choice (group : Nat)

inductive Opening where
  | comment
  /-- Settings for the whole pattern. -/
  | settings (letters : List Char)
  | reference (node : Node)
  | wrapping (kind : Wrapping)

def unknownSetting (piece : Piece) (other : Defect) : Read α :=
  match piece with
  | .plain c => failBack 1 (if Text.isLetter c then .unknownSetting else other)
  | .escaped _ => failBack 2 other

/-- Letters that turn settings on, up to the character that ends them. -/
def readOn (on : List Char) (c : Char) : Nat → Read (List Char × Char)
  | 0 => failBack 0 .settingsUnclosed
  | n + 1 => do
    if c == 'L' then failBack 0 .localeSetting
    let on := c :: on
    if isScriptSetting c && on.any (fun d => isScriptSetting d && d != c) then
      failBack 0 .incompatibleSettings
    match ← next with
    | none => failBack 0 .settingsUnclosed
    | some (.plain d) =>
      if d == ')' || d == '-' || d == ':' then return (on, d)
      else if isSetting d then readOn on d n
      else unknownSetting (.plain d) .settingsUnclosed
    | some piece => unknownSetting piece .settingsUnclosed

/-- Letters that turn settings off, up to a colon. -/
def readOff (off : List Char) (c : Char) : Nat → Read (List Char)
  | 0 => failBack 0 .noColon
  | n + 1 => do
    if isScriptSetting c then failBack 0 .scriptSettingOff
    let off := c :: off
    match ← next with
    | none => failBack 0 .noColon
    | some (.plain d) =>
      if d == ':' then return off
      else if isSetting d then readOff off d n
      else unknownSetting (.plain d) .noColon
    | some piece => unknownSetting piece .noColon

def readSettings (mode : Mode) (c : Char) : Read Opening := do
  let fuel := (← remaining) + 1
  let (on, close) ← if c == '-' then pure ([], '-') else readOn [] c fuel
  if close == ')' then return .settings on
  if on.contains 't' then failBack 1 .templateScoped
  let off ← if close == '-' then do
      match ← next with
      | none => failBack 0 .noSetting
      | some (.plain d) =>
        if isSetting d then readOff [] d fuel else unknownSetting (.plain d) .noSetting
      | some piece => unknownSetting piece .noSetting
    else pure []
  if off.contains 't' then failBack 1 .templateOff
  if on.any off.contains then failBack 1 .settingOnAndOff
  return .wrapping (.scoped (mode.adjust on off))

def groupName (close : Char) : Read String := do
  let name ← takeName close "group name"
  if !Text.isIdentifier name then failBack (name.length + 1) (.badGroupName name)
  return name

def groupNamed (name : String) : Read Nat := do
  match (← get).names.lookup name with
  | some group => return group
  | none => failBack (name.length + 1) (.unknownGroupName name)

def readNamedReference (mode : Mode) : Read Opening := do
  let name ← groupName ')'
  let group ← groupNamed name
  if !(← isClosed group) then failBack (name.length + 1) .openReference
  checkBehind group
  return .reference (.reference group (foldingOf mode))

/-- Group numbers from here on are refused at once. -/
def groupLimit : Nat := 1073741823

/-- The group a condition asks about; a number may be that of a later group. -/
def readCondition : Read Nat := do
  let name ← takeName ')' "group name"
  let back := name.length + 1
  let group ← if Text.isIdentifier name then groupNamed name else
    match Text.readInt name with
    | .ok (.ofNat 0) => failBack back .groupZero
    | .ok (.ofNat group) => do
      if groupLimit ≤ group then failBack back (.unknownReference group)
      let place := (← offset) - back
      modify fun s => if s.asked.any (·.1 == group) then s else { s with asked := s.asked ++ [(group, place)] }
      pure group
    | _ => failBack back (.badGroupName name)
  checkBehind group
  return group

def skipComment (start : Nat) : Nat → Read Unit
  | 0 => failAt start .unterminatedComment
  | n + 1 => do
    match ← next with
    | none => failAt start .unterminatedComment
    | some piece => if piece = .plain ')' then return () else skipComment start n

/-- Reads on from a parenthesis at `start`, which was taken, to where what it holds begins. -/
def readOpening (mode : Mode) (start : Nat) : Read Opening := do
  if !(← accept '?') then return .wrapping (.capture none)
  match ← next with
  | none => failBack 0 .unexpectedEnd
  | some (.escaped c) => failBack 3 (.unknownExtension (Piece.escaped c).text)
  | some (.plain 'P') =>
    if ← accept '<' then return .wrapping (.capture (some (← groupName '>')))
    else if ← accept '=' then readNamedReference mode
    else match ← next with
      | none => failBack 0 .unexpectedEnd
      | some piece => failBack (piece.length + 2) (.unknownExtension ("P" ++ piece.text))
  | some (.plain ':') => return .wrapping .plain
  | some (.plain '#') =>
    skipComment start ((← remaining) + 1)
    return .comment
  | some (.plain '=') => return .wrapping (.ahead true)
  | some (.plain '!') => return .wrapping (.ahead false)
  | some (.plain '<') =>
    match ← next with
    | none => failBack 0 .unexpectedEnd
    | some (.plain '=') => return .wrapping (.behind true)
    | some (.plain '!') => return .wrapping (.behind false)
    | some piece => failBack (piece.length + 2) (.unknownExtension ("<" ++ piece.text))
  | some (.plain '(') => return .wrapping (.choice (← readCondition))
  | some (.plain '>') => return .wrapping .atomic
  | some (.plain c) =>
    if isSetting c || c == '-' then readSettings mode c
    else failBack 2 (.unknownExtension (String.singleton c))

end Lexing.Pattern
