import Lexing.Cursor
import Lexing.Emit
import Lexing.Log
import Lexing.Selection
import Lexing.Token

/-! Runs over a source: rules fire one after the other until the source is consumed or something
fails. Tokens, log and final environment are read off the run. -/
namespace Lexing

/-- A rule that fires: where, in which state, and on what. -/
structure Firing where
  cursor : Cursor
  state : String
  rule : Rule
  found : Match

namespace Firing

def chunk (f : Firing) : String := f.found.found

def position (f : Firing) (label : Option String) : Position :=
  ⟨f.cursor.offset, f.cursor.line, f.cursor.column, f.found.length, label⟩

def token (f : Firing) (label : Option String) (emit : Emit) : Token :=
  ⟨emit.type, emit.value, some (f.position label)⟩

/-- What the action makes of the match, and the environment it leaves. -/
def result (f : Firing) (env : Environment) : Except Fault Value × Environment :=
  (f.rule.action.onMatch f.found f.chunk).run env

def traceText (f : Firing) (label : Option String) : String :=
  let source := match label with
    | some name => if name.isEmpty then "<string>" else name
    | none => "<string>"
  s!"{source} {f.cursor.line}:{f.cursor.column} state={f.state} " ++
    f.rule.matcher.render ++ " matched " ++ Text.quote f.chunk

end Firing

inductive Run where
  /-- The source is consumed. -/
  | done (cursor : Cursor) (env : Environment)
  /-- No rule matches what is left. -/
  | stuck (cursor : Cursor) (env : Environment)
  /-- A rule cannot be tried. -/
  | refused (fault : Fault) (cursor : Cursor) (env : Environment)
  /-- The action raised a fault, or its result is none that is understood. -/
  | failed (firing : Firing) (fault : Fault) (env : Environment)
  | fired (firing : Firing) (emit : Option Emit) (rest : Run)

/-- Every firing moves the cursor on, so a run ends. -/
def Definition.run (d : Definition) (text : Array Char) (cursor : Cursor) (env : Environment) : Run :=
  if cursor.offset < text.size then
    match d.select env text cursor.offset with
    | .error fault => .refused fault cursor env
    | .ok none => .stuck cursor env
    | .ok (some c) =>
      let firing : Firing := ⟨cursor, env.state, c.rule, c.found⟩
      match firing.result env with
      | (.error fault, env) => .failed firing fault env
      | (.ok value, env) =>
        match Emit.ofResult value with
        | .error fault => .failed firing fault env
        | .ok emit => .fired firing emit (d.run text (cursor.advance text c.found.stop) env)
  else .done cursor env
termination_by text.size - cursor.offset
decreasing_by have := c.advances; simp; omega

namespace Run

/-- The environment as the last action left it. -/
def environment : Run → Environment
  | done _ env | stuck _ env | refused _ _ env | failed _ _ env => env
  | fired _ _ rest => rest.environment

/-- How far the source is consumed. A step that fails consumes nothing. -/
def cursor : Run → Cursor
  | done cursor _ | stuck cursor _ | refused _ cursor _ => cursor
  | failed firing _ _ => firing.cursor
  | fired _ _ rest => rest.cursor

/-- The firings whose action was called, in order. -/
def firings : Run → List Firing
  | done .. | stuck .. | refused .. => []
  | failed firing _ _ => [firing]
  | fired firing _ rest => firing :: rest.firings

def unmatched (text : Array Char) (label : Option String) (cursor : Cursor) : Unmatched :=
  ⟨cursor.offset, cursor.line, cursor.column, slice text cursor.offset text.size, label⟩

/-- The tokens asked for, and one for the end of the source. -/
def tokens (text : Array Char) (label : Option String) : Run → Except Fault (List Token)
  | done .. => .ok [.endOfStream]
  | stuck cursor _ => .error (.unmatched (unmatched text label cursor))
  | refused fault _ _ => .error fault
  | failed _ fault _ => .error fault
  | fired firing emit rest => do
    let after ← rest.tokens text label
    return (emit.map (firing.token label)).toList ++ after

def stuckText (state : String) (cursor : Cursor) : String :=
  "No rule in state " ++ Text.quote state ++ s!" matched at {cursor.line}:{cursor.column}"

/-- Each firing is told before its action is called, if matches are traced; being stuck always is. -/
def log (label : Option String) (trace : Bool) : Run → List Record
  | done .. | refused .. => []
  | stuck cursor env => [⟨.scanner, stuckText env.state cursor⟩]
  | failed firing _ _ => told firing
  | fired firing _ rest => told firing ++ rest.log label trace
where
  told (firing : Firing) : List Record := if trace then [⟨.scanner, firing.traceText label⟩] else []

end Run

end Lexing
