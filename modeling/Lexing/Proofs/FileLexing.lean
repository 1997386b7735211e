import Lexing.Proofs.Calculator
import Lexing.Proofs.Decoding
import Lexing.Proofs.SessionLexing

/-! Lexing what files hold. A file is read whole before a kind of lexer or a lexer is given its text, so the
call is one on that text; and where it cannot be read there is no such call. -/
namespace Lexing

open Text

namespace Files

/-- There is a file at the path, and its bytes are those of the text in the encoding that the setting names. -/
structure Holds (files : Files) (path : String) (setting : Value) (text : String) : Prop where
  encoded : ∃ encoding bytes, encodingOf setting = .ok encoding ∧ files.fetch path = .ok bytes ∧
    encoding.Encodes text bytes

/-- What stands in the way of reading a file: the setting names no encoding, there is no file at the path, or
its bytes are those of no text. -/
inductive Unreadable (files : Files) (path : String) (setting : Value) : Prop
  | setting (unknown : ∀ encoding, encodingOf setting ≠ .ok encoding)
  | absent (missing : ∀ bytes, files.fetch path ≠ .ok bytes)
  | bytes {encoding : Encoding} {bytes : List UInt8} (known : encodingOf setting = .ok encoding)
      (common : encoding.isCommon) (fetched : files.fetch path = .ok bytes)
      (undecodable : ∀ text, ¬ encoding.Encodes text bytes)

variable {files : Files} {path text unified : String} {setting : Value}

theorem readText_of_fetch {encoding : Encoding} {bytes : List UInt8} (known : encodingOf setting = .ok encoding)
    (fetched : files.fetch path = .ok bytes) :
    files.readText path setting =
      match encoding.decodeChars bytes with
      | .ok chars => .ok (String.ofList (unifyNewlines chars))
      | .error cause => .error (.undecodable cause) := by
  unfold readText
  rw [known, fetched]
  simp only [bind, Except.bind]
  cases encoding.decodeChars bytes <;> rfl

theorem Holds.readText_eq (h : files.Holds path setting text)
    (hunified : LineEndsUnified text.toList unified.toList) : files.readText path setting = .ok unified := by
  obtain ⟨encoding, bytes, known, fetched, hencodes⟩ := h.encoded
  rw [readText_of_fetch known fetched, hencodes.decodeChars_eq]
  dsimp only
  rw [lineEndsUnified_iff.mp hunified, String.ofList_toList]

/-- Whatever the path leads to, a setting that names no encoding is enough to fail. -/
theorem exists_fault_of_unknown (unknown : ∀ encoding, encodingOf setting ≠ .ok encoding) :
    ∃ cause, files.readText path setting = .error cause := by
  unfold readText
  cases hknown : encodingOf setting with
  | ok encoding => exact absurd hknown (unknown encoding)
  | error cause =>
    cases cause with
    | encodingKind kind => exact ⟨_, rfl⟩
    | _ => cases files.fetch path <;> exact ⟨_, rfl⟩

theorem Unreadable.exists_fault (h : files.Unreadable path setting) :
    ∃ cause, files.readText path setting = .error cause := by
  cases h with
  | setting unknown => exact exists_fault_of_unknown unknown
  | absent missing =>
    cases hknown : encodingOf setting with
    | error fault =>
      refine exists_fault_of_unknown fun encoding h => ?_
      cases hknown.symm.trans h
    | ok encoding =>
      unfold readText
      rw [hknown]
      cases hfetched : files.fetch path with
      | ok bytes => exact absurd hfetched (missing bytes)
      | error cause => exact ⟨cause, rfl⟩
  | @bytes encoding bytes known common fetched undecodable =>
    rw [readText_of_fetch known fetched]
    cases hchars : encoding.decodeChars bytes with
    | error cause => exact ⟨_, rfl⟩
    | ok chars =>
      refine absurd (Encoding.encodes_of_decodeChars common ?_) (undecodable (String.ofList chars))
      rw [hchars, String.toList_ofList]

/-- In the encodings told here every file is read or cannot be. -/
theorem exists_holds_or_unreadable (hcommon : ∀ encoding, encodingOf setting = .ok encoding → encoding.isCommon) :
    (∃ text, files.Holds path setting text) ∨ files.Unreadable path setting := by
  cases hknown : encodingOf setting with
  | error fault => exact .inr (.setting fun encoding h => by cases hknown.symm.trans h)
  | ok encoding =>
    cases hfetched : files.fetch path with
    | error cause => exact .inr (.absent fun bytes h => by cases hfetched.symm.trans h)
    | ok bytes =>
      by_cases hencodes : ∃ text, encoding.Encodes text bytes
      · obtain ⟨text, hencodes⟩ := hencodes
        exact .inl ⟨text, encoding, bytes, hknown, hfetched, hencodes⟩
      · exact .inr (.bytes hknown (hcommon encoding hknown) hfetched (not_exists.mp hencodes))

end Files

namespace Session

variable {s : Session} {path : PathName} {text : String} {cause : FileFault}

theorem run_readFile (s : Session) (path : PathName) :
    (readFile path).run s = ((s.files.readText path.path s.config.encoding).mapError .file, s) := by
  unfold readFile
  rw [run_bind, run_get]
  dsimp only
  cases s.files.readText path.path s.config.encoding <;> rfl

/-- Lexing the file is lexing the text under the path as a label: the same reply, and the same session after. -/
structure LexesFileAs (s : Session) (path : PathName) (text : String) : Prop where
  tokenize : ∀ type environment,
    (reply (.tokenizeFile type path environment)).run s =
      (reply (.tokenize type text (some path.label) environment)).run s
  lex : ∀ on, (reply (.lexFile on path)).run s = (reply (.lex on text (some path.label))).run s

theorem lexesFileAs (h : s.files.readText path.path s.config.encoding = .ok text) : s.LexesFileAs path text where
  tokenize type environment := by
    have hanswer : (answer (.tokenizeFile type path environment)).run s =
        (answer (.tokenize type text (some path.label) environment)).run s := by
      rw [answer, answer, run_bind, run_bind]
      rcases run_findType_cases s type with ⟨t, ht⟩ | ⟨fault, hfault⟩
      · rw [run_findType ht]
        dsimp only
        rw [run_bind, run_readFile, h]
        rfl
      · rw [hfault]
    rw [run_reply, run_reply, hanswer]
    rfl
  lex on := by
    have hanswer : (answer (.lexFile on path)).run s = (answer (.lex on text (some path.label))).run s := by
      rw [answer, answer, run_bind, run_bind]
      rcases run_findLexer_cases s on with ⟨t, key, ht⟩ | hfault
      · rw [run_findLexer ht]
        dsimp only
        rw [run_bind, run_readFile, h]
        rfl
      · rw [hfault]
    rw [run_reply, run_reply, hanswer]
    rfl

/-- The fault is all that comes of lexing the file, whatever the rules: the session is left as it was, with the
environments in it. -/
structure RefusesFile (s : Session) (path : PathName) (cause : FileFault) : Prop where
  tokenize : ∀ type t environment, s.objects.lookup type = some (.type t) →
    (reply (.tokenizeFile type path environment)).run s =
      (.mk (.error (.file cause)) (environment.bind s.environmentIn), s)
  lex : ∀ on t key, s.objects.lookup on = some (.lexer t key) →
    (reply (.lexFile on path)).run s = (.mk (.error (.file cause)) (s.environmentIn on), s)

theorem refusesFile (h : s.files.readText path.path s.config.encoding = .error cause) :
    s.RefusesFile path cause where
  tokenize type t environment hobject := by
    have hanswer : (answer (.tokenizeFile type path environment)).run s = (.error (.file cause), s) := by
      rw [answer, run_bind, run_findType hobject]
      dsimp only
      rw [run_bind, run_readFile, h]
      rfl
    rw [run_reply, hanswer]
    rfl
  lex on t key hobject := by
    have hanswer : (answer (.lexFile on path)).run s = (.error (.file cause), s) := by
      rw [answer, run_bind, run_findLexer hobject]
      dsimp only
      rw [run_bind, run_readFile, h]
      rfl
    rw [run_reply, hanswer]
    rfl

/-- A file that holds a text is lexed as that text with its line ends unified, which is the text itself if it
has no carriage returns. A file that cannot be read is told of, and nothing else happens. In the common
encodings each file does the one or the other. -/
theorem files_lex_as_texts (s : Session) (path : PathName) :
    (∀ text, s.files.Holds path.path s.config.encoding text →
      (∃ unified : String, LineEndsUnified text.toList unified.toList) ∧
      (∀ unified : String, LineEndsUnified text.toList unified.toList → s.LexesFileAs path unified) ∧
      ('\r' ∉ text.toList → s.LexesFileAs path text)) ∧
    (∀ cause, s.files.readText path.path s.config.encoding = .error cause → s.RefusesFile path cause) ∧
    (s.files.Unreadable path.path s.config.encoding → ∃ cause, s.RefusesFile path cause) ∧
    ((∀ encoding, Files.encodingOf s.config.encoding = .ok encoding → encoding.isCommon) →
      (∃ text, s.files.Holds path.path s.config.encoding text) ∨
        s.files.Unreadable path.path s.config.encoding) := by
  refine ⟨fun text hholds => ⟨?_, ?_, ?_⟩, fun cause => refusesFile, ?_, Files.exists_holds_or_unreadable⟩
  · refine ⟨String.ofList (unifyNewlines text.toList), ?_⟩
    rw [lineEndsUnified_iff, String.toList_ofList]
  · exact fun unified hunified => lexesFileAs (hholds.readText_eq hunified)
  · exact fun hplain => lexesFileAs (hholds.readText_eq (.of_notMem hplain))
  · intro hunreadable
    obtain ⟨cause, hcause⟩ := hunreadable.exists_fault
    exact ⟨cause, refusesFile hcause⟩

/-- A new session but for one file. -/
def withFile (bytes : List UInt8) : Session := { initial with files := ⟨[("a", bytes)]⟩ }

theorem fetch_withFile (bytes : List UInt8) : (withFile bytes).files.fetch "a" = .ok bytes := by
  have hsplit : "a".splitOn "/" = ["a"] := by
    rw [String.splitOn, if_neg (by decide), String.splitOnAux, if_neg (by decide), if_neg (by decide),
      String.splitOnAux, if_pos (by decide)]
    rfl
  have hparts : Path.parts "a" = ["a"] := by
    rw [Path.parts, hsplit]
    rfl
  have hroot : Path.root "a" = "" := rfl
  have hnormal : Path.normal "a" = "a" := by
    rw [Path.normal, hroot, hparts]
    rfl
  have hlocate : (withFile bytes).files.locate "a" = .ok "a" := by
    simp only [Files.locate, hnormal, hparts, hroot]
    rfl
  rw [Files.fetch, hlocate]
  rfl

/-- A number, a carriage return, a line end of two characters, and what is no rule's. -/
def returnsText : String := "7\r\r\né"

def returnsBytes : List UInt8 := [0x37, 0x0d, 0x0d, 0x0a, 0xc3, 0xa9]

theorem returnsText_holds : (withFile returnsBytes).files.Holds "a" (.str "utf-8") returnsText := by
  have hbytes : returnsText.toUTF8.data.toList = returnsBytes := by decide +kernel
  exact ⟨.utf8, _, rfl, fetch_withFile _, hbytes ▸ .utf8 _⟩

theorem returnsText_unified : LineEndsUnified returnsText.toList "7\n\né".toList :=
  .other (by decide) (.lone (by decide) (.pair (.other (by decide) .nil)))

/-- The first character is no rule's, and the last byte is part of no character. -/
theorem withFile_unreadable : (withFile [0x3f, 0x37, 0xff]).files.Unreadable "a" (.str "utf-8") := by
  refine .bytes rfl rfl (fetch_withFile _) fun text hencodes => ?_
  cases hencodes.decodeChars_eq

theorem files_lex_as_texts_returns :
    ((withFile returnsBytes).files.Holds "a" (.str "utf-8") returnsText ∧
      LineEndsUnified returnsText.toList "7\n\né".toList ∧
      (withFile returnsBytes).LexesFileAs ⟨"a", false⟩ "7\n\né") ∧
    (withFile [0x3f, 0x37, 0xff]).files.Unreadable "a" (.str "utf-8") ∧
      ∃ cause, (withFile [0x3f, 0x37, 0xff]).RefusesFile ⟨"a", false⟩ cause := by
  have hread := (files_lex_as_texts (withFile returnsBytes) ⟨"a", false⟩).1 returnsText returnsText_holds
  have hrefused := (files_lex_as_texts (withFile [0x3f, 0x37, 0xff]) ⟨"a", false⟩).2.2.1 withFile_unreadable
  exact ⟨⟨returnsText_holds, returnsText_unified, hread.2.1 _ returnsText_unified⟩, withFile_unreadable, hrefused⟩

end Session

end Lexing
