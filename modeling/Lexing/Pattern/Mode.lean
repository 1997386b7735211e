/-! Settings that a stretch of a pattern is read under. -/
namespace Lexing.Pattern

structure Mode where
  ignoreCase : Bool := false
  multiline : Bool := false
  dotAll : Bool := false
  verbose : Bool := false
  ascii : Bool := false
deriving DecidableEq, Repr

/-- Settings are named by one letter each. -/
def Mode.set (mode : Mode) (value : Bool) : Char → Mode
  | 'i' => { mode with ignoreCase := value }
  | 'm' => { mode with multiline := value }
  | 's' => { mode with dotAll := value }
  | 'x' => { mode with verbose := value }
  | 'a' => { mode with ascii := value }
  | 'u' => { mode with ascii := !value }
  | _ => mode

def Mode.adjust (mode : Mode) (on off : List Char) : Mode :=
  off.foldl (·.set false ·) (on.foldl (·.set true ·) mode)

def Mode.ofLetters (letters : List Char) : Mode := ({} : Mode).adjust letters []

/-- The letters that choose between ASCII and all scripts. -/
def isScriptSetting (c : Char) : Bool := c == 'a' || c == 'L' || c == 'u'

def isSetting (c : Char) : Bool := "aiLmstux".toList.contains c

end Lexing.Pattern
