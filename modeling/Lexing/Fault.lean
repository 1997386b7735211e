import Lexing.Pattern.Defect
import Lexing.Position
import Lexing.Text.Encoding
import Lexing.Text.Numeral
import Lexing.Value

/-! Everything that can go wrong, by cause. -/
namespace Lexing

/-- Input that no rule matches. -/
structure Unmatched where
  offset : Int
  line : Int
  column : Int
  remainder : String
  source : Option String
deriving DecidableEq, Repr

def Unmatched.message (u : Unmatched) : String :=
  locate u.source u.line u.column ++
    " Unable to match string with any of the given rules: " ++ u.remainder

/-- Faults that an action raises of its own accord. -/
inductive Alarm where
  | value
  | key
  | runtime
  | type
  | rule
deriving DecidableEq, Repr

/-- Why a file cannot be opened. -/
inductive FileFault where
  | missing (path : String)
  | isDirectory (path : String)
  | notDirectory (path : String)
  | nullInPath
  | unknownEncoding (name : String)
  | encodingKind (kind : String)
  | undecodable (cause : Text.DecodeFault)
deriving DecidableEq

inductive Fault where
  | unmatched (input : Unmatched)
  | lastState (state : String)
  | raised (alarm : Alarm) (arguments : List Value)
  | malformedPattern (pattern : String) (cause : Pattern.Malformed)
  /-- A pattern that was to be ready before it came to a rule. -/
  | unreadPattern (pattern : String) (cause : Pattern.Malformed)
  | repetitionTooLarge
  | codeTooLarge
  | scriptClash
  | lookbehindTooLong
  | notPattern (kind : String)
  | notAction (kind : String)
  | resultSize (result : Value)
  /-- What was chosen is shown. -/
  | notPolicy (choice : String)
  | notIterable (kind : String)
  | notHashable (kind : String)
  | notName (kind : String)
  | bytesPattern
  | numeral (cause : Text.NumeralFault)
  | notNumeric (kind : String)
  /-- An infinite number, or what is no number, has no whole part. -/
  | noWhole (x : Double)
  | intTooLarge
  | noGroup
  | noAttribute (kind name : String)
  | noSetter (kind name : String)
  | badAddition (left right : String)
  | badConcatenation (target other : String)
  | badJoin (place : Nat) (kind : String)
  | notJoinable
  | noLength (kind : String)
  | notSliceable (kind : String)
  | badIndex
  /-- What is made is named first; so for the next two. -/
  | missingArguments (made : String) (names : List String)
  | extraArguments (made : String) (least most given : Nat)
  | unexpectedArgument (made name : String)
  | notCallable (kind : String)
  | unknownName (name : String)
  | file (cause : FileFault)
deriving DecidableEq

def Text.NumeralFault.message : Text.NumeralFault → String
  | .malformed text => "invalid literal for int() with base 10: " ++ ((Text.quote text).take 200).toString
  | .tooLong digits =>
    s!"Exceeds the limit ({Text.digitLimit} digits) for integer string conversion: value has {digits} digits; " ++
      "use sys.set_int_max_str_digits() to increase the limit"
  | .unwritable =>
    s!"Exceeds the limit ({Text.digitLimit} digits) for integer string conversion; " ++
      "use sys.set_int_max_str_digits() to increase the limit"

def FileFault.message : FileFault → String
  | .missing path => "[Errno 2] No such file or directory: " ++ Text.quote path
  | .isDirectory path => "[Errno 21] Is a directory: " ++ Text.quote path
  | .notDirectory path => "[Errno 20] Not a directory: " ++ Text.quote path
  | .nullInPath => "embedded null byte"
  | .unknownEncoding name => "unknown encoding: " ++ name
  | .encodingKind kind => "open() argument 'encoding' must be str or None, not " ++ kind
  | .undecodable cause => cause.message

/-- One argument is shown plainly, or quoted where it is a key; several are shown as a tuple. -/
def argumentsText (alarm : Alarm) : List Value → String
  | [] => ""
  | [v] => if alarm = .key then v.render else v.display
  | vs => (Value.tuple vs).render

/-- Names in a row, the last two joined by a word. -/
def nameList (names : List String) : String :=
  match names.reverse with
  | [] => ""
  | [a] => a
  | [b, a] => a ++ " and " ++ b
  | last :: before => ", ".intercalate before.reverse ++ ", and " ++ last

/-- What making something is called. -/
def makerText (made : String) : String := made ++ ".__init__()"

def missingText (made : String) (names : List String) : String :=
  let plural := if names.length = 1 then "argument" else "arguments"
  makerText made ++ s!" missing {names.length} required positional {plural}: " ++
    nameList (names.map fun name => "'" ++ name ++ "'")

def extraText (made : String) (least most given : Nat) : String :=
  let taken := if least = most then toString most else s!"from {least} to {most}"
  makerText made ++ s!" takes {taken} positional arguments but {given} were given"

def Fault.message : Fault → String
  | .unmatched input => input.message
  | .lastState state => "Cannot pop state '" ++ state ++ "': it is the only state on the stack"
  | .raised alarm arguments => argumentsText alarm arguments
  | .malformedPattern pattern cause => "Invalid pattern " ++ Text.quote pattern ++ ": " ++ cause.message pattern
  | .unreadPattern pattern cause => cause.message pattern
  | .repetitionTooLarge => "the repetition number is too large"
  | .codeTooLarge => "Python int too large to convert to C int"
  | .scriptClash => "ASCII and UNICODE flags are incompatible"
  | .lookbehindTooLong => "invalid SRE code"
  | .notPattern kind => "Rule pattern must be a string or compiled pattern, got " ++ kind
  | .notAction kind => "Rule action must be callable, got " ++ kind
  | .resultSize result => "Action must return a type or a (type, value) pair, got " ++ result.render
  | .notPolicy choice => choice ++ " is not a valid MatchPolicy"
  | .notIterable kind => "'" ++ kind ++ "' object is not iterable"
  | .notHashable kind => "unhashable type: '" ++ kind ++ "'"
  | .notName kind => "names of states and flags are text, got " ++ kind
  | .bytesPattern => "cannot use a bytes pattern on a string-like object"
  | .numeral cause => cause.message
  | .notNumeric kind =>
    "int() argument must be a string, a bytes-like object or a real number, not '" ++ kind ++ "'"
  | .noWhole (.undefined _) => "cannot convert float NaN to integer"
  | .noWhole _ => "cannot convert float infinity to integer"
  | .intTooLarge => "int too large to convert to float"
  | .noGroup => "no such group"
  | .noAttribute kind name => "'" ++ kind ++ "' object has no attribute '" ++ name ++ "'"
  | .noSetter kind name => "property '" ++ name ++ "' of '" ++ kind ++ "' object has no setter"
  | .badAddition left right => "unsupported operand type(s) for +: '" ++ left ++ "' and '" ++ right ++ "'"
  | .badConcatenation target other =>
    "can only concatenate " ++ target ++ " (not \"" ++ other ++ "\") to " ++ target
  | .badJoin place kind => s!"sequence item {place}: expected str instance, {kind} found"
  | .notJoinable => "can only join an iterable"
  | .noLength kind => "object of type '" ++ kind ++ "' has no len()"
  | .notSliceable kind => "'" ++ kind ++ "' object is not subscriptable"
  | .badIndex => "slice indices must be integers or None or have an __index__ method"
  | .missingArguments made names => missingText made names
  | .extraArguments made least most given => extraText made least most given
  | .unexpectedArgument made name => makerText made ++ " got an unexpected keyword argument '" ++ name ++ "'"
  | .notCallable kind => "'" ++ kind ++ "' object is not callable"
  | .unknownName name => Text.quote name
  | .file cause => cause.message

namespace Fault

/-- Changes the values that an action put into the fault. -/
def mapValues (f : Value → Value) : Fault → Fault
  | .raised alarm arguments => .raised alarm (arguments.map f)
  | .resultSize result => .resultSize (f result)
  | fault => fault

/-- No number that the fault tells has too many digits. -/
def isWritable : Fault → Bool
  | .unmatched input => Text.isWritable input.offset
  | .raised _ arguments => arguments.all (·.isWritable)
  | .resultSize result => result.isWritable
  | _ => true

/-- The message about a result is made while its rule fires, so a result with too long a number makes for
another fault. -/
def told (fault : Fault) : Fault :=
  match fault with
  | .resultSize result => if result.isWritable then fault else .numeral .unwritable
  | _ => fault

end Fault

/-- The arguments that something is made from: of `needed` names all, and one more at most. -/
def checkCount (made : String) (needed : List String) (values : List Value) : Except Fault Unit :=
  if values.length < needed.length then .error (.missingArguments made (needed.drop values.length))
  else if needed.length + 1 < values.length then
    .error (.extraArguments made (needed.length + 1) (needed.length + 2) (values.length + 1))
  else .ok ()

def labelOf : List Value → Except Fault (Option String)
  | [.str label] => .ok (some label)
  | [] | [.null] => .ok none
  | v :: _ => .error (.notName v.kind)

/-- An offset, a line, a column, what is left, and a label unless there is none. The message is made at
once, so line and column must be fit to be written. -/
def Unmatched.ofValues (values : List Value) : Except Fault Unmatched := do
  checkCount "LexingError" ["stream_offset", "line_number", "line_offset", "remainder"] values
  match values with
  | .int offset :: .int line :: .int column :: .str remainder :: rest =>
    if Text.isWritable line && Text.isWritable column then
      return ⟨offset, line, column, remainder, ← labelOf rest⟩
    else throw (.numeral .unwritable)
  | _ => throw (.notName "object")

/-- The one state of a stack that cannot be popped. -/
def lastStateOf : List Value → Except Fault String
  | [v] => .ok v.display
  | [] => .error (.missingArguments "StateStackError" ["state"])
  | more => .error (.extraArguments "StateStackError" 2 2 (more.length + 1))

/-- An offset, a line, a column, a length, and a label unless there is none. -/
def Position.ofValues (values : List Value) : Except Fault Position := do
  checkCount "StreamPosition" ["stream_offset", "line_number", "line_offset", "length"] values
  match values with
  | .int offset :: .int line :: .int column :: .int length :: rest =>
    return ⟨offset, line, column, length, ← labelOf rest⟩
  | _ => throw (.notName "object")

end Lexing
