import Lexing.Text.Quoted

/-! What can be wrong with the text of a pattern, and how it is told. -/
namespace Lexing.Pattern

inductive Defect where
  | trailingEscape
  | badEscape (escape : String)
  | incompleteEscape (escape : String)
  | octalRange (escape : String)
  | missingBrace
  | unknownCharacter (name : String)
  | openReference
  | referenceWithin
  | unknownReference (group : Nat)
  | unterminatedSet
  | badRange (first last : String)
  | emptyBounds
  | nothingToRepeat
  | multipleRepeat
  | missing (what : String)
  | unterminatedName (close : Char)
  | badGroupName (name : String)
  | unknownGroupName (name : String)
  | groupRedefined (name : String) (group former : Nat)
  | groupZero
  | unknownExtension (opening : String)
  | unexpectedEnd
  | unterminatedComment
  | unterminatedGroup
  | unbalanced
  | tooManyBranches
  | lateSettings
  | localeSetting
  | incompatibleSettings
  | unknownSetting
  | settingsUnclosed
  | noSetting
  | noColon
  | scriptSettingOff
  | templateScoped
  | templateOff
  | settingOnAndOff
  | templateRepeat (operator : String)
  | behindNotFixed
deriving DecidableEq

def Defect.message : Defect → String
  | trailingEscape => "bad escape (end of pattern)"
  | badEscape escape => "bad escape " ++ escape
  | incompleteEscape escape => "incomplete escape " ++ escape
  | octalRange escape => "octal escape value " ++ escape ++ " outside of range 0-0o377"
  | missingBrace => "missing \x7b"
  | unknownCharacter name => "undefined character name " ++ Text.quote name
  | openReference => "cannot refer to an open group"
  | referenceWithin => "cannot refer to group defined in the same lookbehind subpattern"
  | unknownReference group => s!"invalid group reference {group}"
  | unterminatedSet => "unterminated character set"
  | badRange first last => "bad character range " ++ first ++ "-" ++ last
  | emptyBounds => "min repeat greater than max repeat"
  | nothingToRepeat => "nothing to repeat"
  | multipleRepeat => "multiple repeat"
  | missing what => "missing " ++ what
  | unterminatedName close => s!"missing {close}, unterminated name"
  | badGroupName name => "bad character in group name " ++ Text.quote name
  | unknownGroupName name => "unknown group name " ++ Text.quote name
  | groupRedefined name group former =>
    "redefinition of group name " ++ Text.quote name ++ s!" as group {group}; was group {former}"
  | groupZero => "bad group number"
  | unknownExtension opening => "unknown extension ?" ++ opening
  | unexpectedEnd => "unexpected end of pattern"
  | unterminatedComment => "missing ), unterminated comment"
  | unterminatedGroup => "missing ), unterminated subpattern"
  | unbalanced => "unbalanced parenthesis"
  | tooManyBranches => "conditional backref with more than two branches"
  | lateSettings => "global flags not at the start of the expression"
  | localeSetting => "bad inline flags: cannot use 'L' flag with a str pattern"
  | incompatibleSettings => "bad inline flags: flags 'a', 'u' and 'L' are incompatible"
  | unknownSetting => "unknown flag"
  | settingsUnclosed => "missing -, : or )"
  | noSetting => "missing flag"
  | noColon => "missing :"
  | scriptSettingOff => "bad inline flags: cannot turn off flags 'a', 'u' and 'L'"
  | templateScoped => "bad inline flags: cannot turn on global flag"
  | templateOff => "bad inline flags: cannot turn off global flag"
  | settingOnAndOff => "bad inline flags: flag turned on and off"
  | templateRepeat operator => "internal: unsupported template operator " ++ operator
  | behindNotFixed => "look-behind requires fixed-width pattern"

/-- A defect, and the offset it is told at if it has one place. -/
structure Malformed where
  defect : Defect
  place : Option Nat
deriving DecidableEq

/-- A pattern of several lines gets the line and column of the place as well. -/
def Malformed.message (m : Malformed) (pattern : String) : String :=
  match m.place with
  | none => m.defect.message
  | some place =>
    let before := pattern.toList.take place
    let line := before.count '\n' + 1
    let column := (before.reverse.takeWhile (· != '\n')).length + 1
    let located := s!"{m.defect.message} at position {place}"
    if pattern.toList.contains '\n' then located ++ s!" (line {line}, column {column})" else located

/-- Why a pattern cannot be read. Only a malformed one is a fault of its form; the other causes are
numbers and lengths beyond what is handled, and settings at odds with those given beforehand. -/
inductive ReadFault where
  | malformed (cause : Malformed)
  | repetitionTooLarge
  | numberTooLong (digits : Nat)
  | codeTooLarge
  | scriptClash
  | lookbehindTooLong
deriving DecidableEq

end Lexing.Pattern
