import Lexing.Body
import Lexing.Config
import Lexing.Files
import Lexing.LexResult
import Lexing.LexerType

/-! Steps of a session, and what they answer. Objects go by their names. -/
namespace Lexing.Session

/-- A path as text, or as an object that spells itself in the shortest way. -/
structure PathName where
  path : String
  isObject : Bool

def PathName.label (p : PathName) : String := if p.isObject then Path.normal p.path else p.path

structure TypeSpec where
  name : String
  parent : String
  body : List BodyItem
  policy : Option PolicyChoice
  start : Option String
  definition : Option String
  environmentKind : Option EnvironmentKind

inductive Step where
  | builder (name : String)
  | rule (on : String) (spec : RuleSpec)
  | policy (on : String) (choice : PolicyChoice)
  | start (on state : String)
  | build (on name : String)
  | definition (on : String)
  | rulesOf (on state : String)
  | enabled (on state : String) (flags : List String)
  | declare (name : String) (spec : RuleSpec)
  | decorate (on name : String) (action : ActionSource)
  | declareInto (declaration on : String)
  | type (spec : TypeSpec)
  | environment (name start : String)
  | newEnvironment (type name : String)
  | environmentOf (on name : String)
  | showEnvironment (on : String)
  | push (on state : String)
  | pop (on : String)
  | setState (on state : String)
  | setFlag (on flag : String)
  | unsetFlag (on flag : String)
  | clearFlags (on : String)
  /-- Matches at the start of a text and runs an action on the match. -/
  | perform (on : String) (pattern : PatternSource) (text : String) (action : ActionSource)
  | lexer (type name : String)
  | lex (on text : String) (label : Option String)
  | tryLex (on text : String) (label : Option String)
  | tokenize (type text : String) (label environment : Option String)
  | scan (on text : String) (label environment : Option String)
  | scanner (name on text environment : String) (label : Option String)
  /-- Takes a scanner up where it stopped. -/
  | resume (on : String)
  | writeFile (path : String) (bytes : List UInt8)
  | tokenizeFile (type : String) (path : PathName) (environment : Option String)
  | lexFile (on : String) (path : PathName)
  | showConfig
  | setConfig (settings : List (String × Value))
  | resetConfig
  | makeConfig (entries : List (Value × Value)) (use : Bool)
  /-- Runs steps under other settings, and restores those before in the end. -/
  | within (settings : List (String × Value)) (steps : List Step) (raising : Option String)
  | takeLog
  /-- A step that cannot be made out. -/
  | refused (fault : Fault)

mutual

inductive Answer where
  | nothing
  | size (states : Nat)
  | chained (states : Nat)
  | definition (d : Definition)
  | rules (contains : Bool) (rules : List Rule)
  | enabled (each : List Bool)
  | declaration (d : Declaration)
  | kind (name : String)
  | text (rendered : String)
  | value (v : Value)
  | tokens (ts : List Token)
  | result (r : LexResult)
  | config (now : Config)
  | madeConfig (made now : Config)
  | within (inside : Config) (replies : List Reply) (raised : Option String) (after : Config)
  | log (records : List Record)

/-- The answer to a step, and the environment it worked in as it is afterwards. -/
inductive Reply where
  | mk (answer : Except Fault Answer) (environment : Option Environment)

end

/-- No number that the answer itself tells has too many digits. -/
def Answer.isWritable : Answer → Bool
  | .value v => v.isWritable
  | .tokens ts => ts.all (·.isWritable)
  | .result r => r.tokens.all (·.isWritable)
  | _ => true

mutual

/-- No number in a fault or an environment has too many digits, also in the replies that an answer holds. -/
def Reply.isWritable : Reply → Bool
  | .mk answer environment =>
    (match answer with
      | .ok answer => answer.holdsWritable
      | .error fault => fault.isWritable) &&
    (match environment with
      | some env => env.readAttributes.all (·.2.isWritable)
      | none => true)

def Answer.holdsWritable : Answer → Bool
  | .within _ replies _ _ => areWritable replies
  | _ => true

def areWritable : List Reply → Bool
  | [] => true
  | reply :: rest => reply.isWritable && areWritable rest

end

/-- An answer with too long a number is a fault of its own. -/
def Reply.ofAnswer (answer : Except Fault Answer) (environment : Option Environment) : Reply :=
  match answer with
  | .ok answer => .mk (if answer.isWritable then .ok answer else .error (.numeral .unwritable)) environment
  | .error fault => .mk (.error fault) environment

/-- The object whose environment a step shows; one that was to be made is shown only if it was. -/
def Step.shown (step : Step) (succeeded : Bool) : Option String :=
  match step with
  | .environment name _ | .newEnvironment _ name | .environmentOf _ name =>
    if succeeded then some name else none
  | .showEnvironment on | .push on _ | .pop on | .setState on _ | .setFlag on _ | .unsetFlag on _
  | .clearFlags on | .perform on .. => some on
  | .lexer _ name => some name
  | .lex on .. | .tryLex on .. | .lexFile on _ => some on
  | .tokenize _ _ _ env | .scan _ _ _ env => env
  | .scanner _ _ _ env _ => some env
  | .tokenizeFile _ _ env => env
  | _ => none

end Lexing.Session
