import Lexing.Proofs.Calculator
import Lexing.Proofs.Steps

/-! The end of a stream of tokens, as its reader sees it. The last token is told by its type, and that is a
type that actions may ask for too. -/
namespace Lexing

/-- What is read of the tokens by who stops at the first that is told to be the last. -/
def readToEnd : List Token → List Token
  | [] => []
  | token :: rest => if token.isEnd then [token] else token :: readToEnd rest

/-- The token that is asked for will be told to be the last. -/
def Emit.makesEnd (e : Emit) : Bool := (Token.mk e.type e.value none).isEnd

theorem Token.isEnd_iff {t : Token} : t.isEnd ↔ t.type = .str "EOS" := by
  unfold isEnd
  split
  · next name h => simp [h, endName]
  · next h => simpa using h "EOS"

theorem Emit.makesEnd_iff {e : Emit} : e.makesEnd ↔ e.type = .str "EOS" := Token.isEnd_iff

theorem Token.isEnd_read (env : Environment) (t : Token) : (t.mapValues env.read).isEnd = t.isEnd := by
  obtain ⟨type, value, position⟩ := t
  cases type with
  | kept place =>
    -- A list that is kept is put in, or left as it is where there is none.
    simp only [mapValues, Environment.read, Shelf.read, Value.fill]
    cases env.shelf.lists.size <;> rfl
  | null | bool | int | real | str | list | tuple | dict | emit =>
    simp only [mapValues, Environment.read, Shelf.read, Value.fill, isEnd]

/-- A reader that stops early misses something exactly if an earlier token is taken for the last. -/
theorem readToEnd_concat {before : List Token} {last : Token} (hlast : last.isEnd) :
    readToEnd (before ++ [last]) = before ++ [last] ↔ ∀ t ∈ before, t.isEnd = false := by
  induction before with
  | nil => simp [readToEnd, hlast]
  | cons t before ih =>
    rw [List.cons_append, readToEnd]
    cases ht : t.isEnd with
    | true => simp [ht]
    | false => simp [ht, ih]

/-- How tokens tell of their end, given what the actions asked for. -/
structure EndsTold (asked : List Emit) (tokens : List Token) : Prop where
  length : tokens.length = asked.length + 1
  last : tokens.getLast? = some .endOfStream
  told : ∀ i token, tokens[i]? = some token →
    (token.isEnd ↔ i = asked.length ∨ ∃ e, asked[i]? = some e ∧ e.type = .str "EOS")
  single : (∀ i token, tokens[i]? = some token → (token.isEnd ↔ i + 1 = tokens.length)) ↔
    ∀ e ∈ asked, e.type ≠ .str "EOS"
  read : readToEnd tokens = tokens ↔ ∀ e ∈ asked, e.type ≠ .str "EOS"

namespace EndsTold

variable {asked : List Emit} {before : List Token}

theorem none_ends_iff (h : before.map (·.isEnd) = asked.map (·.makesEnd)) :
    (∀ t ∈ before, t.isEnd = false) ↔ ∀ e ∈ asked, e.type ≠ .str "EOS" := by
  have hmap : (∀ b ∈ before.map (·.isEnd), b = false) ↔ ∀ b ∈ asked.map (·.makesEnd), b = false := by rw [h]
  simpa [← Emit.makesEnd_iff] using hmap

theorem told_of_map (h : before.map (·.isEnd) = asked.map (·.makesEnd)) {i : Nat} {token : Token}
    (htoken : (before ++ [.endOfStream])[i]? = some token) :
    token.isEnd ↔ i = asked.length ∨ ∃ e, asked[i]? = some e ∧ e.type = .str "EOS" := by
  have hlength : before.length = asked.length := by simpa using congrArg List.length h
  rcases Nat.lt_or_ge i before.length with hi | hi
  · rw [List.getElem?_append_left hi] at htoken
    have hsame : (before.map (·.isEnd))[i]? = (asked.map (·.makesEnd))[i]? := by rw [h]
    rw [List.getElem?_map, List.getElem?_map, htoken] at hsame
    obtain ⟨e, he, hends⟩ := Option.map_eq_some_iff.mp hsame.symm
    have hne : i ≠ asked.length := by omega
    simp [he, hne, ← Emit.makesEnd_iff, hends]
  · rw [List.getElem?_append_right hi] at htoken
    rw [List.getElem?_singleton] at htoken
    split at htoken
    · cases htoken
      exact ⟨fun _ => .inl (by omega), fun _ => rfl⟩
    · cases htoken

/-- It is enough to know which of the tokens that were asked for are told to be the last. -/
theorem of_map (h : before.map (·.isEnd) = asked.map (·.makesEnd)) :
    EndsTold asked (before ++ [.endOfStream]) where
  length := by simpa using congrArg List.length h
  last := List.getLast?_concat
  told _ _ := told_of_map h
  single := by
    have hlength : before.length = asked.length := by simpa using congrArg List.length h
    rw [← none_ends_iff h]
    constructor
    · intro hlast t ht
      obtain ⟨i, hi, hget⟩ := List.mem_iff_getElem.mp ht
      have htoken : (before ++ [.endOfStream])[i]? = some t := by
        rw [List.getElem?_append_left hi, List.getElem?_eq_getElem hi, hget]
      have hnot : ¬ t.isEnd := by
        rw [hlast i t htoken]
        simp only [List.length_append, List.length_singleton]
        omega
      simpa using hnot
    · intro hnone i token htoken
      rw [told_of_map h htoken]
      have hother : ¬ ∃ e, asked[i]? = some e ∧ e.type = .str "EOS" := by
        rintro ⟨e, he, htype⟩
        exact (none_ends_iff h).mp hnone e (List.mem_of_getElem? he) htype
      simp only [hother, or_false, List.length_append, List.length_singleton]
      omega
  read := (readToEnd_concat rfl).trans (none_ends_iff h)

end EndsTold

theorem Call.map_isEnd (calls : List Call) (label : Option String) (env : Environment) :
    ((calls.filterMap (·.token? label)).map (·.mapValues env.read)).map (·.isEnd) =
      (calls.filterMap (·.emit)).map (·.makesEnd) := by
  rw [List.map_map, List.map_filterMap, List.map_filterMap]
  congr 1
  funext call
  rw [token?, Option.map_map]
  cases call.emit with
  | none => rfl
  | some e => exact congrArg some (Token.isEnd_read env _)

namespace Definition

/-- A pass that returns tokens returns those its actions asked for, as they are in the end, and a last one. -/
theorem exists_steps_of_answer {d : Definition} {source : String} {env : Environment} {label : Option String}
    {trace : Bool} {tokens : List Token} (returned : (d.lex source env label trace).answer = .ok tokens) :
    ∃ calls s, d.Steps source.toList.toArray (.start env) calls s ∧
      source.toList.toArray.size ≤ s.cursor.offset ∧
      tokens = (calls.filterMap (·.token? label)).map
        (·.mapValues (d.lex source env label trace).environment.read) ++ [.endOfStream] := by
  cases hlexed : (d.lex source env label trace).tokens with
  | error fault =>
    rw [Lexed.answer, hlexed] at returned
    cases returned
  | ok made =>
    obtain ⟨calls, s, steps, consumed, _, rfl⟩ := exists_steps_of_tokens hlexed
    refine ⟨calls, s, steps, consumed, ?_⟩
    rw [Lexed.answer, hlexed] at returned
    have htokens := Except.ok.inj returned
    rw [List.map_append] at htokens
    exact htokens.symm

/-- Tokens that a pass returns are those its actions asked for, and a last one. A token before it is told
to be the last exactly if an action asked for that type; only if none did does reading up to the end read
all of them. -/
theorem end_told_by_type (d : Definition) (source : String) (env : Environment) (label : Option String)
    (trace : Bool) (tokens : List Token) (returned : (d.lex source env label trace).answer = .ok tokens) :
    ∃ calls s, d.Steps source.toList.toArray (.start env) calls s ∧
      source.toList.toArray.size ≤ s.cursor.offset ∧ EndsTold (calls.filterMap (·.emit)) tokens := by
  obtain ⟨calls, s, steps, consumed, rfl⟩ := exists_steps_of_answer returned
  exact ⟨calls, s, steps, consumed, .of_map (Call.map_isEnd calls label _)⟩

/-- A lexer whose one rule asks for the type of the last token. -/
def earlyEnd : Definition :=
  ⟨⟨[(defaultState, [Calculator.signRule "a" 'a' "EOS"])]⟩, .longest, defaultState⟩

/-- What it makes of two letters. -/
def earlyTokens : List Token :=
  [⟨.str "EOS", .null, some ⟨0, 1, 0, 1, none⟩⟩, ⟨.str "EOS", .null, some ⟨1, 1, 1, 1, none⟩⟩, .endOfStream]

theorem earlyEnd_answer : (earlyEnd.lex "aa" (.plain defaultState) none false).answer = .ok earlyTokens := by
  decide +kernel

theorem end_told_by_type_early :
    (earlyEnd.lex "aa" (.plain defaultState) none false).answer = .ok earlyTokens ∧
      ∃ calls s, earlyEnd.Steps "aa".toList.toArray (.start (.plain defaultState)) calls s ∧
        "aa".toList.toArray.size ≤ s.cursor.offset ∧ EndsTold (calls.filterMap (·.emit)) earlyTokens :=
  ⟨earlyEnd_answer,
    end_told_by_type earlyEnd "aa" (.plain defaultState) none false earlyTokens earlyEnd_answer⟩

/-- All three tokens are told to be the last, and only the first of them is read. -/
theorem several_told_last :
    Definition.empty.declareAll [Calculator.sign "a" "EOS"] = .ok earlyEnd ∧
      (earlyEnd.lex "aa" (.plain defaultState) none false).answer = .ok earlyTokens ∧
      earlyTokens.map (·.isEnd) = [true, true, true] ∧ (readToEnd earlyTokens).length = 1 :=
  ⟨rfl, earlyEnd_answer, rfl, rfl⟩

end Definition

end Lexing
