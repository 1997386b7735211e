import Lexing.Fault
import Lexing.Value.Equality

/-! Settings that hold around a lexing call. Values are taken as they come. -/
namespace Lexing

structure Config where
  encoding : Value
  trace : Value
deriving DecidableEq, Repr

namespace Config

def initial : Config := ⟨.str "utf-8", .bool false⟩

/-- Sets the named setting, if there is one of that name. -/
def set? (config : Config) (name : String) (v : Value) : Option Config :=
  if name = "encoding" then some { config with encoding := v }
  else if name = "trace_matches" then some { config with trace := v }
  else none

/-- Names that are no setting are refused. -/
def ofSettings (settings : List (String × Value)) : Except Fault Config :=
  settings.foldlM (fun config (name, v) =>
    match config.set? name v with
    | some config => .ok config
    | none => .error (.unexpectedArgument "LexConfig" name)) initial

/-- Keys that are no setting are passed over. -/
def ofEntries (entries : List (Value × Value)) : Config :=
  entries.foldl (fun config (key, v) =>
    match key with
    | .str name => (config.set? name v).getD config
    | _ => config) initial

/-- Matches are traced whenever the setting counts as true. -/
def traces (config : Config) : Bool := config.trace.isTrue

def isInitial (config : Config) : Bool :=
  config.encoding.same initial.encoding && config.trace.same initial.trace

end Config

end Lexing
