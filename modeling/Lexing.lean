import Lexing.Proofs.Builder
import Lexing.Proofs.LineTracking
import Lexing.Proofs.RuleChoice
import Lexing.Proofs.Tiling
import Lexing.Script
import Lexing.Session
import Lexing.Proofs.Unmatched
import Lexing.Proofs.Resuming
import Lexing.Proofs.SuffixLocality
import Lexing.Proofs.Remainder
import Lexing.Proofs.Retelling
import Lexing.Proofs.CharRuns
import Lexing.Proofs.Numerals
import Lexing.Proofs.CalculatorRules
import Lexing.Proofs.CalculatorLanguage
import Lexing.Proofs.SessionLexing
import Lexing.Proofs.Tracing
import Lexing.Proofs.StackDiscipline
import Lexing.Proofs.Bodies
import Lexing.Proofs.Isolation
import Lexing.Proofs.TypeBodies
import Lexing.Proofs.CapturedFaults
import Lexing.Proofs.Failures
import Lexing.Proofs.Declaring
import Lexing.Proofs.EndOfStream
import Lexing.Proofs.CalculatorSpelling
import Lexing.Proofs.CalculatorRoundTrip
import Lexing.Proofs.Lockstep
import Lexing.Proofs.Shadowing
import Lexing.Proofs.DeclarationOrder
import Lexing.Proofs.PolicyAgreement
import Lexing.Proofs.Consultation
import Lexing.Proofs.Segmentation
import Lexing.Proofs.FileLexing
import Lexing.Proofs.KeptResults
import Lexing.Proofs.Inheritance
import Lexing.Proofs.Expansion
import Lexing.Proofs.MatchAtHand
import Lexing.Proofs.Requests
import Lexing.Proofs.Anchors
import Lexing.Proofs.SettingsScope
import Lexing.Proofs.FlagSequences
import Lexing.Proofs.FlagCalls
import Lexing.Proofs.FlagSets
