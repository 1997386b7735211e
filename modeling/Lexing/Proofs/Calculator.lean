import Lexing.Calculator
import Lexing.Proofs.Selection

/-! The calculator with its patterns read: the trees of its rules, in the order of declaration. -/
namespace Lexing.Calculator

def compiled (source : String) (tree : Pattern.Node) (action : Action) : Rule :=
  ⟨.text ⟨source, tree, 0, []⟩, action, defaultState, .empty⟩

def signRule (source : String) (c : Char) (type : String) : Rule :=
  compiled source (.char (.single .exact c.toNat)) (.perform "<lambda>" fun _ => pure (.str type))

def digits : Pattern.Node :=
  .repetition 1 none .greedy (.char ⟨[.range '0'.toNat '9'.toNat], false, .exact⟩)

def blankChar : Pattern.Node := .char ⟨[.named .space false false], false, .exact⟩

def rules : List Rule := [
  signRule "\\+" '+' "PLS", signRule "-" '-' "SUB", signRule "\\*" '*' "MUL", signRule "/" '/' "DIV",
  signRule "\\(" '(' "LPAREN", signRule "\\)" ')' "RPAREN",
  compiled "[0-9]+" digits (.perform "number" readNumber), compiled "\\s" blankChar .discard]

theorem lexer_definition : lexer.definition = ⟨⟨[(defaultState, rules)]⟩, .longest, defaultState⟩ := by
  rfl

theorem newEnvironment_eq : lexer.newEnvironment = .ok (.plain defaultState) := by
  rfl

theorem textual : lexer.definition.Textual := by
  rw [lexer_definition]
  exact Definition.textual_of_all rfl

theorem get_default : lexer.definition.table.get defaultState = rules := by
  rw [lexer_definition]
  rfl

theorem mem_rules {state : String} {rule : Rule} (h : rule ∈ lexer.definition.table.get state) :
    rule ∈ rules := by
  rw [lexer_definition, RuleTable.get, List.lookup_cons] at h
  split at h
  · exact h
  · cases h

/-- The type of the tokens that a sign makes. -/
def signType : Char → Option String
  | '+' => some "PLS"
  | '-' => some "SUB"
  | '*' => some "MUL"
  | '/' => some "DIV"
  | '(' => some "LPAREN"
  | ')' => some "RPAREN"
  | _ => none

def numberRule : Rule := compiled "[0-9]+" digits (.perform "number" readNumber)

def blankRule : Rule := compiled "\\s" blankChar .discard

/-- A rule of the calculator is for a sign, for numbers or for blanks. -/
inductive Kind : Rule → Prop
  | sign {source : String} {c : Char} {type : String} (sign : signType c = some type) :
      Kind (signRule source c type)
  | number : Kind numberRule
  | blank : Kind blankRule

theorem kind_of_mem {rule : Rule} (h : rule ∈ rules) : Kind rule := by
  simp only [rules, List.mem_cons, List.not_mem_nil, or_false] at h
  rcases h with rfl | rfl | rfl | rfl | rfl | rfl | rfl | rfl
  · exact .sign rfl
  · exact .sign rfl
  · exact .sign rfl
  · exact .sign rfl
  · exact .sign rfl
  · exact .sign rfl
  · exact .number
  · exact .blank

/-- What comes of a number's text. -/
def numberValue (text : String) : Except Fault Value :=
  match Text.readInt text with
  | .ok n => .ok (.tuple [.str "NUM", .int n])
  | .error cause => .error (.numeral cause)

theorem run_readNumber (text : String) (env : Environment) :
    (readNumber text).run env = (numberValue text, env) := by
  unfold readNumber numberValue
  cases Text.readInt text <;> rfl

end Lexing.Calculator
