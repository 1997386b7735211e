import Lexing.Pattern.Alternatives
import Lexing.Pattern.Reader.Escape
import Lexing.Pattern.Reader.Group

/-! The text of a pattern as a tree. -/
namespace Lexing.Pattern

/-- What stands in a sequence, by what a repetition after it means. -/
inductive ItemKind where
  | anchor
  | repeated
  | other
deriving DecidableEq

/-- A piece of a sequence. A plain group is several nodes, or none. -/
structure Item where
  kind : ItemKind
  nodes : List Node

def Item.ofNode (node : Node) : Item :=
  match node with
  | .anchor _ => ⟨.anchor, [node]⟩
  | _ => ⟨.other, [node]⟩

structure Bounds where
  least : Nat
  most : Option Nat

/-- Counts from here on are refused. -/
def repetitionLimit : Nat := 4294967295

def readCount (digits : List Char) : Read Nat := do
  if Text.digitLimit < digits.length then throw (.numberTooLong digits.length)
  let n := ofDigits 10 digits
  if repetitionLimit ≤ n then throw .repetitionTooLarge
  return n

/-- Bounds in braces after the first brace was taken, none if it stands for itself. -/
def readBraces : Read (Option Bounds) := do
  let here ← offset
  if (← peek) = some (.plain '\x7d') then return none
  let low ← takeSome Char.isDigit (← remaining)
  let high ← if ← accept ',' then takeSome Char.isDigit (← remaining) else pure low
  if !(← accept '\x7d') then
    moveTo here
    return none
  let least ← if low.isEmpty then pure 0 else readCount low
  if high.isEmpty then return some ⟨least, none⟩
  let most ← readCount high
  if most < least then failAt here .emptyBounds
  return some ⟨least, some most⟩

def readBounds (c : Char) : Read (Option Bounds) :=
  match c with
  | '?' => return some ⟨0, some 1⟩
  | '*' => return some ⟨0, none⟩
  | '+' => return some ⟨1, none⟩
  | _ => readBraces

def readGreed : Read Greed := do
  if ← accept '?' then return .lazy
  else if ← accept '+' then return .possessive
  else return .greedy

/-- Repeats the last of the items, which are kept last first. -/
def repeatLast (place : Nat) (bounds : Bounds) (items : List Item) : Read (List Item) := do
  match items with
  | [] => failAt place .nothingToRepeat
  | item :: before =>
    match item.kind with
    | .anchor => failAt place .nothingToRepeat
    | .repeated => failAt place .multipleRepeat
    | .other =>
      let node := .repetition bounds.least bounds.most (← readGreed) (.sequence item.nodes)
      return ⟨.repeated, [node]⟩ :: before

def isVerboseBlank (c : Char) : Bool := c == ' ' || (0x09 ≤ c.toNat && c.toNat ≤ 0x0d)

def skipLine : Nat → Read Unit
  | 0 => return ()
  | n + 1 => do
    match ← next with
    | none => return ()
    | some piece => if piece = .plain '\n' then return () else skipLine n

/-- Opens the next group, under a name not used before. -/
def openGroup (name : Option String) : Read Nat := do
  let group ← nextGroup
  if let some name := name then
    if let some former := (← get).names.lookup name then
      failBack (name.length + 1) (.groupRedefined name group former)
    modify fun s => { s with names := s.names ++ [(name, group)] }
  modify fun s => { s with groups := s.groups.push none }
  return group

def closeGroup (group : Nat) (body : Node) : Read Unit :=
  modify fun s => { s with groups := s.groups.set! (group - 1) (some (body.width s.groups)) }

def closeParenthesis (start : Nat) : Read Unit := do
  if !(← accept ')') then failAt start .unterminatedGroup

/-- Reads under the limit that a lookbehind puts on references. -/
def lookingBehind (body : Read (List Node)) : Read (List Node) := do
  let limit := (← get).behindLimit
  let inner := limit.getD (← nextGroup)
  modify ({ · with behindLimit := some inner })
  let nodes ← body
  modify ({ · with behindLimit := limit })
  return nodes

mutual

/-- Alternatives up to a closing parenthesis or the end. Settings for the whole pattern may stand only
at the start of it; `first` holds there. -/
def readAlternatives : Nat → Mode → Bool → Bool → Read (List (List Node))
  | 0, _, _, _ => failBack 0 .unexpectedEnd
  | n + 1, mode, top, first => do
    let nodes ← readSequence n mode first []
    if ← accept '|' then
      let whole := (← get).mode
      return nodes :: (← readAlternatives n (if top then whole else mode) top false)
    else return [nodes]

/-- One alternative; `items` are those read so far, last first. -/
def readSequence : Nat → Mode → Bool → List Item → Read (List Node)
  | 0, _, _, _ => failBack 0 .unexpectedEnd
  | n + 1, mode, first, items => do
    let piece ← peek
    if piece = none ∨ piece = some (.plain '|') ∨ piece = some (.plain ')') then
      return items.reverse.flatMap Item.nodes
    let _ ← next
    match piece with
    | none => return []
    | some (.escaped c) =>
      readSequence n mode first (.ofNode (← readEscape mode c) :: items)
    | some (.plain c) =>
      if mode.verbose && isVerboseBlank c then readSequence n mode first items
      else if mode.verbose && c == '#' then
        skipLine ((← remaining) + 1)
        readSequence n mode first items
      else if c == '[' then readSequence n mode first (.ofNode (← readSet mode) :: items)
      else if c == '.' then
        let set := if mode.dotAll then CharSet.anyChar else .notNewline
        readSequence n mode first (.ofNode (.char set) :: items)
      else if c == '^' then
        readSequence n mode first (.ofNode (.anchor (if mode.multiline then .lineStart else .textStart)) :: items)
      else if c == '$' then
        readSequence n mode first (.ofNode (.anchor (if mode.multiline then .lineEnd else .lastLine)) :: items)
      else if c == '*' || c == '+' || c == '?' || c == '\x7b' then
        let place := (← offset) - 1
        match ← readBounds c with
        | some bounds => readSequence n mode first (← repeatLast place bounds items)
        | none => readSequence n mode first (.ofNode (.char (.single (foldingOf mode) c.toNat)) :: items)
      else if c == '(' then
        let start := (← offset) - 1
        match ← readOpening mode start with
        | .comment => readSequence n mode first items
        | .settings letters =>
          if !first || !items.isEmpty then failAt start .lateSettings
          modify fun s => { s with mode := s.mode.adjust letters [], settings := s.settings ++ letters }
          readSequence n (← get).mode first items
        | .reference node => readSequence n mode first (.ofNode node :: items)
        | .wrapping kind =>
          readSequence n mode first (⟨.other, ← readWrapped n mode start kind⟩ :: items)
      else readSequence n mode first (.ofNode (.char (.single (foldingOf mode) c.toNat)) :: items)

/-- What a parenthesis holds, up to and with the closing one. -/
def readWrapped : Nat → Mode → Nat → Wrapping → Read (List Node)
  | 0, _, _, _ => failBack 0 .unexpectedEnd
  | n + 1, mode, start, kind => do
    let inside (mode : Mode) : Read (List Node) := return Node.ofAlternatives (← readAlternatives n mode false false)
    match kind with
    | .capture name =>
      let group ← openGroup name
      let body := Node.sequence (← inside mode)
      closeParenthesis start
      closeGroup group body
      return [.capture group body]
    | .plain =>
      let nodes ← inside mode
      closeParenthesis start
      return nodes
    | .scoped inner =>
      let nodes ← inside inner
      closeParenthesis start
      return [.scoped (.sequence nodes)]
    | .atomic =>
      let nodes ← inside mode
      closeParenthesis start
      return [.atomic (.sequence nodes)]
    | .ahead wanted =>
      let nodes ← inside mode
      closeParenthesis start
      return [.ahead wanted (.sequence nodes)]
    | .behind wanted =>
      let body := Node.sequence (← lookingBehind (inside mode))
      closeParenthesis start
      return [.behind wanted (body.width (← get).groups) body]
    | .choice group =>
      let yes ← readSequence n mode false []
      let no ← if ← accept '|' then
          let no ← readSequence n mode false []
          if (← peek) = some (.plain '|') then failBack 0 .tooManyBranches
          pure no
        else pure []
      closeParenthesis start
      return [.choice group (.sequence yes) (.sequence no)]

end

/-- The first thing in a tree that cannot be matched with: a lookbehind of no one width, or any
repetition in a template. -/
def Node.defect? (template : Bool) : Node → Option Defect
  | .empty | .char _ | .anchor _ | .reference .. => none
  | .seq a b | .alt a b => (a.defect? template).or (b.defect? template)
  | .choice _ a b => (a.defect? template).or (b.defect? template)
  | .capture _ body | .atomic body | .scoped body | .ahead _ body => body.defect? template
  | .repetition _ _ greed body =>
    if template then some (.templateRepeat (match greed with
      | .greedy => "MAX_REPEAT"
      | .lazy => "MIN_REPEAT"
      | .possessive => "POSSESSIVE_REPEAT"))
    else body.defect? template
  | .behind _ width body =>
    if width.least ≠ width.most then some .behindNotFixed else body.defect? template

/-- No lookbehind goes back this far. -/
def lookbehindLimit : Nat := Nat.pow 2 31

/-- Some lookbehind in a tree would go back too far. -/
def Node.looksTooFar : Node → Bool
  | .empty | .char _ | .anchor _ | .reference .. => false
  | .seq a b | .alt a b | .choice _ a b => a.looksTooFar || b.looksTooFar
  | .capture _ body | .atomic body | .scoped body | .ahead _ body | .repetition _ _ _ body => body.looksTooFar
  | .behind _ width body => lookbehindLimit ≤ width.least || body.looksTooFar

/-- A whole pattern, under settings given beforehand. -/
def readWhole (given : List Char) : Read Node := do
  moveTo 0
  modify ({ · with mode := Mode.ofLetters given, settings := given })
  let alternatives ← readAlternatives (3 * (← read).size + 3) (← get).mode true true
  let settings := (← get).settings
  if settings.contains 'a' && settings.contains 'u' then throw .scriptClash
  if (← peek).isSome then failBack 0 .unbalanced
  for (group, place) in (← get).asked do
    if (← nextGroup) ≤ group then failAt place (.unknownReference group)
  let node := Node.sequence (Node.ofAlternatives alternatives)
  if let some defect := node.defect? (settings.contains 't') then throw (.malformed ⟨defect, none⟩)
  if node.looksTooFar then throw .lookbehindTooLong
  return node

end Lexing.Pattern
