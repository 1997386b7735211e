import Lexing.Fault
import Lexing.FlagSet
import Lexing.Pattern
import Lexing.Shelf

/-! What rule actions see and change. -/
namespace Lexing

def defaultState : String := "default"

/-- A kind of environment: its name, and the attributes new ones begin with. -/
structure EnvironmentKind where
  name : String
  attributes : List (String × Value)

def EnvironmentKind.plain : EnvironmentKind := ⟨"Environment", []⟩

/-- Attributes that follow from the rest of an environment and cannot be put. -/
def derivedAttributes : List String := ["state", "states", "flags"]

def matchAttribute : String := "match"

/-- A stack of states that is never empty, a set of flags, the match at hand, and attributes that
actions keep for themselves. The lists among them stand on a shelf. -/
structure Environment where
  kind : String
  /-- The current state is on top. -/
  state : String
  /-- States below it, from the top down. -/
  below : List String
  flags : FlagSet
  lastMatch : Option Match
  attributes : List (String × Value)
  shelf : Shelf

namespace Environment

/-- An environment without attributes. -/
def bare (kind start : String) : Environment := ⟨kind, start, [], .empty, none, [], .empty⟩

def plain (start : String) : Environment := bare EnvironmentKind.plain.name start

/-- The whole stack, bottom first. -/
def states (env : Environment) : List String := env.below.reverse ++ [env.state]

def depth (env : Environment) : Nat := env.below.length + 1

def push (state : String) (env : Environment) : Environment :=
  { env with state, below := env.state :: env.below }

def pop (env : Environment) : Except Fault Environment :=
  match env.below with
  | [] => .error (.lastState env.state)
  | state :: below => .ok { env with state, below }

/-- Replaces the state on top. -/
def setState (state : String) (env : Environment) : Environment := { env with state }

def setFlag (flag : String) (env : Environment) : Environment :=
  { env with flags := env.flags.insert flag }

/-- A flag that is not set may be unset. -/
def unsetFlag (flag : String) (env : Environment) : Environment :=
  { env with flags := env.flags.erase flag }

def clearFlags (env : Environment) : Environment := { env with flags := .empty }

/-- That there is no match yet is an attribute too. -/
def get? (name : String) (env : Environment) : Option Value :=
  if name = "state" then some (.str env.state)
  else if name = "states" then some (.tuple (env.states.map .str))
  else if name = matchAttribute ∧ env.lastMatch.isNone then some .null
  else env.attributes.lookup name

def get (name : String) (env : Environment) : Except Fault Value :=
  match env.get? name with
  | some v => .ok v
  | none => .error (.noAttribute env.kind name)

def putAttribute (name : String) (value : Value) : List (String × Value) → List (String × Value)
  | [] => [(name, value)]
  | (other, old) :: rest =>
    if other = name then (name, value) :: rest else (other, old) :: putAttribute name value rest

/-- Puts an attribute, with its lists on the shelf. The match at hand can be put away. -/
def put (name : String) (value : Value) (env : Environment) : Except Fault Environment :=
  if derivedAttributes.contains name then .error (.noSetter env.kind name)
  else if name = matchAttribute ∧ value == .null then .ok { env with lastMatch := none }
  else
    let (value, shelf) := (Shelf.keep value).run env.shelf
    .ok { env with attributes := putAttribute name value env.attributes, shelf }

/-- Appends to a list on the shelf. -/
def append (place : Nat) (value : Value) (env : Environment) : Environment :=
  let (value, shelf) := (Shelf.keep value).run env.shelf
  { env with shelf := shelf.append place value }

/-- A new environment of a kind, with attributes of its own. -/
def fresh (kind : EnvironmentKind) (start : String) : Except Fault Environment :=
  kind.attributes.foldlM (fun env (name, value) => env.put name value) (bare kind.name start)

/-- A value as it is now. -/
def read (env : Environment) (v : Value) : Value := env.shelf.read v

/-- A fault that tells of values as they are now. -/
def readFault (env : Environment) (fault : Fault) : Fault := (fault.mapValues env.read).told

/-- The attributes as they are now. -/
def readAttributes (env : Environment) : List (String × Value) :=
  env.attributes.map fun (name, v) => (name, env.read v)

def render (env : Environment) : String :=
  env.kind ++ "(states=" ++ (Value.list (env.states.map .str)).render ++ ", flags=\x7b" ++
    ", ".intercalate env.flags.names ++ "\x7d)"

end Environment

/-- A kind of environment, or a value that stands in its place. -/
inductive EnvironmentChoice where
  | kind (k : EnvironmentKind)
  | value (v : Value)

def EnvironmentChoice.make (start : String) : EnvironmentChoice → Except Fault Environment
  | .kind k => Environment.fresh k start
  | .value v => .error (.notCallable v.kind)

/-- Work on an environment. What was done before a fault stays done. -/
abbrev Act := ExceptT Fault (StateM Environment)

/-- What runs when a rule fires, on the text it matched. -/
inductive Action where
  /-- Asks for no token. -/
  | discard
  | perform (name : String) (body : String → Act Value)

namespace Action

def name : Action → String
  | discard => "discard"
  | perform name _ => name

def isDiscard : Action → Bool
  | discard => true
  | perform .. => false

def body : Action → String → Act Value
  | discard, _ => pure .null
  | perform _ body, text => body text

/-- Runs on a text, with the match at hand recorded first. -/
def onMatch (action : Action) (found : Match) (text : String) : Act Value := do
  modify fun env => { env with lastMatch := some found }
  action.body text

end Action

end Lexing
