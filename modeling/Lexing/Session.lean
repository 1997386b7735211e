import Lexing.Calculator
import Lexing.Session.Step

/-! Sessions: named objects, environments that several of them may share, settings, files and a log. -/
namespace Lexing

namespace Session

inductive Object where
  | builder (d : Definition)
  | definition (d : Definition)
  | type (t : LexerType)
  | declaration (d : Declared)
  /-- An environment, by its number. -/
  | environment (key : Nat)
  | lexer (t : LexerType) (key : Nat)
  | scanner (s : Scanner) (key : Nat)

end Session

structure Session where
  objects : List (String × Session.Object)
  environments : Array Environment
  config : Config
  files : Files
  log : List Record
  nextDeclared : Nat

namespace Session

def initial : Session where
  objects := [("Lexer", .type .base), ("Calculator", .type Calculator.lexer)]
  environments := #[]
  config := .initial
  files := .empty
  log := []
  nextDeclared := 0

/-- Work in a session. What was done before a fault stays done. -/
abbrev Work := ExceptT Fault (StateM Session)

def put (name : String) (object : Object) : Work Unit :=
  modify fun s => { s with objects := (name, object) :: s.objects.filter (·.1 != name) }

def find (name : String) : Work Object := do
  match (← get).objects.lookup name with
  | some object => return object
  | none => throw (.unknownName name)

def findBuilder (name : String) : Work Definition := do
  match ← find name with
  | .builder d => return d
  | _ => throw (.unknownName name)

def findType (name : String) : Work LexerType := do
  match ← find name with
  | .type t => return t
  | _ => throw (.unknownName name)

/-- The definition of that name, or of the lexer kind of that name. -/
def findDefinition (name : String) : Work Definition := do
  match ← find name with
  | .definition d => return d
  | .type t => return t.definition
  | _ => throw (.unknownName name)

def declaredIn (s : Session) (name : String) : Except Fault Declared :=
  match s.objects.lookup name with
  | some (.declaration d) => .ok d
  | _ => .error (.unknownName name)

/-- The number of the environment of that name, or of the lexer's. -/
def keyIn (s : Session) (name : String) : Option Nat :=
  match s.objects.lookup name with
  | some (.environment key) | some (.lexer _ key) => some key
  | _ => none

def environmentIn (s : Session) (name : String) : Option Environment :=
  (s.keyIn name).bind (s.environments[·]?)

def findKey (name : String) : Work Nat := do
  match (← get).keyIn name with
  | some key => return key
  | none => throw (.unknownName name)

def addEnvironment (env : Environment) : Work Nat := do
  let key := (← get).environments.size
  modify fun s => { s with environments := s.environments.push env }
  return key

def environmentAt (key : Nat) : Work Environment := do
  match (← get).environments[key]? with
  | some env => return env
  | none => throw (.unknownName "")

def setEnvironment (key : Nat) (env : Environment) : Work Unit :=
  modify fun s => { s with environments := s.environments.set! key env }

/-- Works in an environment and keeps what it leaves. What a fault tells is told as it is then. -/
def inEnvironment (name : String) (work : Act α) : Work α := do
  let key ← findKey name
  let (result, env) := work.run (← environmentAt key)
  setEnvironment key env
  liftExcept (result.mapError env.readFault)

def change (name : String) (f : Environment → Environment) : Work Answer := do
  inEnvironment name (modify f)
  return .nothing

def write (records : List Record) : Work Unit :=
  modify fun s => { s with log := s.log ++ records }

/-- Lexes in an environment, which keeps what the run left, also after a fault. -/
def lexAt (key : Nat) (d : Definition) (source : String) (label : Option String) : Work (List Token) := do
  let lexed := d.lex source (← environmentAt key) label (← get).config.traces
  setEnvironment key lexed.environment
  write lexed.log
  liftExcept lexed.answer

/-- Lexes in an environment made for it alone. -/
def lexFresh (env : Environment) (d : Definition) (source : String) (label : Option String) :
    Work (List Token) := do
  let lexed := d.lex source env label (← get).config.traces
  write lexed.log
  liftExcept lexed.answer

/-- Lexes in the environment of that name, or in one that is made. -/
def lexIn (environment : Option String) (make : Except Fault Environment) (d : Definition) (source : String)
    (label : Option String) : Work (List Token) := do
  match environment with
  | some name => lexAt (← findKey name) d source label
  | none => lexFresh (← liftExcept make) d source label

def writeFile (path : String) (bytes : List UInt8) : Work Unit := do
  match (← get).files.write path bytes with
  | .ok files => modify ({ · with files })
  | .error cause => throw (.file cause)

def readFile (path : PathName) : Work String := do
  let s ← get
  match s.files.readText path.path s.config.encoding with
  | .ok text => return text
  | .error cause => throw (.file cause)

/-- A session knows a lexer by its kind and its environment. -/
def findLexer (name : String) : Work (LexerType × Nat) := do
  match ← find name with
  | .lexer t key => return (t, key)
  | _ => throw (.unknownName name)

def makeType (spec : TypeSpec) : Work LexerType := do
  let s ← get
  let body ← liftExcept (Body.ofItems s.declaredIn s.nextDeclared spec.body)
  modify ({ · with nextDeclared := body.next })
  let definition ← match spec.definition with
    | some name => some <$> findDefinition name
    | none => pure none
  let parent ← findType spec.parent
  let settings : TypeSettings :=
    { policy := spec.policy, start := spec.start, environment := spec.environmentKind.map .kind, definition }
  let type ← liftExcept <|
    parent.extend spec.name body.declarations (settings.orElse (← liftExcept body.settings))
  write [type.record]
  put spec.name (.type type)
  return type

/-- Changes a builder; a change that fails leaves it as it was. -/
def build (name : String) (f : Definition → Except Fault Definition) : Work Definition := do
  let d ← liftExcept (f (← findBuilder name))
  put name (.builder d)
  return d

def addDeclaration (name : String) (d : Declaration) : Work Answer := do
  let id := (← get).nextDeclared
  modify ({ · with nextDeclared := id + 1 })
  put name (.declaration ⟨id, d⟩)
  return .declaration d

/-- Matches at the start of the text; there is nothing to run an action on without a match. -/
def performIn (name : String) (pattern : PatternSource) (text : String) (action : ActionSource) :
    Work Answer := do
  let matcher ← liftExcept pattern.matcher
  let some found ← liftExcept (matcher.tryAt text.toList.toArray 0)
    | throw (.noAttribute Value.null.kind "group")
  match action with
  | .action a => return .value (← inEnvironment name do
      let v ← a.onMatch found found.found
      return (← get).read v)
  | .absent =>
    inEnvironment name (modify ({ · with lastMatch := some found }))
    throw (.notCallable Value.null.kind)
  | .other v =>
    inEnvironment name (modify ({ · with lastMatch := some found }))
    throw (.notCallable v.kind)

def resume (name : String) : Work Answer := do
  match ← find name with
  | .scanner scanner key =>
    let run := scanner.run (← environmentAt key)
    setEnvironment key run.environment
    write (scanner.log run)
    put name (.scanner (scanner.after run) key)
    return .tokens (← liftExcept (run.environment.readTokens (scanner.tokens run)))
  | _ => throw (.unknownName name)

def setConfig (config : Config) : Work Unit := modify ({ · with config })

/-- Works under other settings. Those before hold again in the end, also after a fault. -/
def withConfig (config : Config) (work : Work α) : Work α := do
  let former := (← get).config
  setConfig config
  try work finally setConfig former

mutual

def answer : Step → Work Answer
  | .builder name => do
    put name (.builder .empty)
    return .size 0
  | .rule on spec => do return .chained (← build on (·.rule spec)).table.size
  | .policy on choice => do return .chained (← build on (·.withPolicy choice)).table.size
  | .start on state => do return .chained (← build on fun d => .ok (d.withStart state)).table.size
  | .build on name => do
    let d ← findBuilder on
    put name (.definition d)
    return .definition d
  | .definition on => do return .definition (← findDefinition on)
  | .rulesOf on state => do
    let table := (← findDefinition on).table
    return .rules (table.contains state) (table.get state)
  | .enabled on state flags => do
    return .enabled (((← findDefinition on).table.get state).map (·.enabled (.ofList flags)))
  | .declare name spec => do addDeclaration name (← liftExcept (Declaration.declare spec))
  | .decorate on name action => do
    let d ← liftExcept ((← get).declaredIn on)
    addDeclaration name (d.declaration.withAction action)
  | .declareInto declaration on => do
    let d ← liftExcept ((← get).declaredIn declaration)
    return .size (← build on (·.rule d.declaration.spec)).table.size
  | .type spec => do return .definition (← makeType spec).definition
  | .environment name start => do
    put name (.environment (← addEnvironment (.plain start)))
    return .nothing
  | .newEnvironment type name => do
    let env ← liftExcept (← findType type).newEnvironment
    put name (.environment (← addEnvironment env))
    return .kind env.kind
  | .environmentOf on name => do
    put name (.environment (← findLexer on).2)
    return .nothing
  | .showEnvironment on => do return .text (← environmentAt (← findKey on)).render
  | .push on state => change on (·.push state)
  | .pop on => do
    inEnvironment on do set (← liftExcept (← get).pop)
    return .nothing
  | .setState on state => change on (·.setState state)
  | .setFlag on flag => change on (·.setFlag flag)
  | .unsetFlag on flag => change on (·.unsetFlag flag)
  | .clearFlags on => change on (·.clearFlags)
  | .perform on pattern text action => performIn on pattern text action
  | .lexer type name => do
    let t ← findType type
    put name (.lexer t (← addEnvironment (← liftExcept t.newEnvironment)))
    return .nothing
  | .lex on text label => do
    let (t, key) ← findLexer on
    return .tokens (← lexAt key t.definition text label)
  | .tryLex on text label => do
    let (t, key) ← findLexer on
    let tokens ← liftM (lexAt key t.definition text label).run
    return .result (← liftExcept (LexResult.ofTokens tokens))
  | .tokenize type text label environment => do
    let t ← findType type
    return .tokens (← lexIn environment t.newEnvironment t.definition text label)
  | .scan on text label environment => do
    let d ← findDefinition on
    return .tokens (← lexIn environment (.ok (.plain d.start)) d text label)
  | .scanner name on text environment label => do
    let d ← findDefinition on
    let key ← findKey environment
    put name (.scanner (.ofSource d text label (← get).config.traces) key)
    return .nothing
  | .resume on => resume on
  | .writeFile path bytes => do
    writeFile path bytes
    return .nothing
  | .tokenizeFile type path environment => do
    let t ← findType type
    let text ← readFile path
    return .tokens (← lexIn environment t.newEnvironment t.definition text (some path.label))
  | .lexFile on path => do
    let (t, key) ← findLexer on
    let text ← readFile path
    return .tokens (← lexAt key t.definition text (some path.label))
  | .showConfig => do return .config (← get).config
  | .setConfig settings => do
    setConfig (← liftExcept (Config.ofSettings settings))
    return .config (← get).config
  | .resetConfig => do
    setConfig .initial
    return .config (← get).config
  | .makeConfig entries use => do
    let made := Config.ofEntries entries
    if use then setConfig made
    return .madeConfig made (← get).config
  | .within settings steps raising => do
    let config ← liftExcept (Config.ofSettings settings)
    let replies ← withConfig config (liftM (replyAll steps))
    return .within config replies raising (← get).config
  | .takeLog => do
    let records := (← get).log
    modify ({ · with log := [] })
    return .log records
  | .refused fault => throw fault

/-- Takes a step and shows the environment it names, also after a fault. -/
def reply (step : Step) : StateM Session Reply := do
  let answer ← (answer step).run
  return .ofAnswer answer ((step.shown answer.isOk).bind (← get).environmentIn)

def replyAll : List Step → StateM Session (List Reply)
  | [] => return []
  | step :: rest => do
    let first ← reply step
    return first :: (← replyAll rest)

end

/-- The replies to all steps, from a new session on. None is told if a fault or an environment among them
has too long a number. -/
def replies (steps : List Step) : Except Fault (List Reply) :=
  let replies := ((replyAll steps).run initial).1
  if areWritable replies then .ok replies else .error (.numeral .unwritable)

end Session

end Lexing
