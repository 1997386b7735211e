import Lexing.Proofs.Calculator
import Lexing.Proofs.Steps

/-! A source that is lexed to its end is cut into the chunks of the calls, without a gap or an overlap, and
every token stands for the chunk of the call that asked for it. -/
namespace Lexing

/-- The source, cut into chunks that all have text. -/
structure Tiles (source : String) (calls : List Call) : Prop where
  joined : String.join (calls.map (·.chunk)) = source
  nonempty : ∀ call ∈ calls, call.chunk ≠ ""
  few : calls.length ≤ source.length

/-- How much text the calls before the one at `i` received. -/
def offsetBefore (calls : List Call) (i : Nat) : Nat := ((calls.take i).map (·.chunk.length)).foldl (· + ·) 0

/-- What a call asks for, as a token on the chunk of the call. -/
structure Token.Records (source : String) (label : Option String) (call : Call) (offset : Nat) (token : Token) :
    Prop where
  emitted : call.emit = some ⟨token.type, token.value⟩
  placed : ∃ p, token.position = some p ∧ p.offset = offset ∧ p.length = call.chunk.length ∧
    p.source = label ∧ slice source.toList.toArray p.offset.toNat p.stop.toNat = call.chunk

/-- The first of two tokens begins and ends before the second begins. -/
def Token.Precedes (a b : Token) : Prop :=
  ∃ p q, a.position = some p ∧ b.position = some q ∧ p.offset < q.offset ∧ p.stop ≤ q.offset

private theorem forall₂_filterMap {R : α → β → Prop} {f : α → Option β} {xs : List α}
    (h : ∀ x ∈ xs, ∀ y, f x = some y → R x y) :
    List.Forall₂ R (xs.filter fun x => (f x).isSome) (xs.filterMap f) := by
  induction xs with
  | nil => exact .nil
  | cons x xs ih =>
    have htail := ih fun z hz => h z (List.mem_cons_of_mem _ hz)
    cases hx : f x with
    | none => simpa [hx] using htail
    | some y => simpa [hx] using And.intro (h x List.mem_cons_self y hx) htail

namespace Definition

variable {d : Definition} {text : Array Char} {s t : Boundary} {calls : List Call}

namespace Steps

theorem length_le (h : d.Steps text s calls t) : s.cursor.offset + calls.length ≤ t.cursor.offset := by
  induction h with
  | nil => exact Nat.le_refl _
  | snoc before step ih =>
    have hlt := step.offset_lt
    rw [List.length_append, List.length_singleton]
    omega

theorem chunk_ne_empty (h : d.Steps text s calls t) : ∀ call ∈ calls, call.chunk ≠ "" := by
  intro call hcall hempty
  obtain ⟨_, u, v, _, step⟩ := h.step_of_mem hcall
  have hlt := step.offset_lt
  rw [step.offset_eq_add, hempty] at hlt
  exact Nat.lt_irrefl _ hlt

theorem tiles {source : String} {env : Environment}
    (h : d.Steps source.toList.toArray (.start env) calls t)
    (consumed : source.toList.toArray.size ≤ t.cursor.offset) : Tiles source calls where
  joined := by
    have htext := h.take_append
    rw [List.take_of_length_le (i := t.cursor.offset) (by simpa using consumed)] at htext
    rw [← String.toList_inj, String.toList_join, List.flatMap_map]
    simpa [Boundary.start, Cursor.start] using htext
  nonempty := h.chunk_ne_empty
  few := by
    have hlength := h.length_le
    have hoffset := h.offset_le (Nat.zero_le _)
    simp only [Boundary.start, Cursor.start, List.size_toArray, String.length_toList] at hlength hoffset
    omega

theorem records {source : String} {env : Environment} {label : Option String} {i : Nat} {call : Call}
    {token : Token} (h : d.Steps source.toList.toArray (.start env) calls t) (hi : calls[i]? = some call)
    (htoken : call.token? label = some token) : token.Records source label call (offsetBefore calls i) := by
  obtain ⟨u, v, before, step⟩ := h.step_at hi
  have hposition := step.position_eq htoken
  obtain ⟨emit, hemit, rfl⟩ := Option.map_eq_some_iff.mp htoken
  have hoffset : u.cursor.offset = offsetBefore calls i := by
    rw [before.offset_eq]
    exact Nat.zero_add _
  have hslice : slice source.toList.toArray u.cursor.offset (u.cursor.offset + call.chunk.length) =
      call.chunk := by
    rw [Call.chunk, ← step.fires.stop_eq]
    exact step.fires.slice_eq
  exact ⟨hemit, _, hposition, congrArg Int.ofNat hoffset, rfl, rfl, hslice⟩

theorem forall₂_records {source : String} {env : Environment} {label : Option String}
    (h : d.Steps source.toList.toArray (.start env) calls t) :
    List.Forall₂ (fun (call, i) token => token.Records source label call (offsetBefore calls i))
      (calls.zipIdx.filter (·.1.emit.isSome)) (calls.filterMap (·.token? label)) := by
  have hindexed : calls.filterMap (·.token? label) =
      calls.zipIdx.filterMap fun indexed => indexed.1.token? label := by
    conv_lhs => rw [← List.zipIdx_map_fst 0 calls, List.filterMap_map]
    rfl
  have hfilter : (calls.zipIdx.filter fun indexed => indexed.1.emit.isSome) =
      calls.zipIdx.filter fun indexed => (indexed.1.token? label).isSome := by
    simp [Call.token?]
  rw [hindexed, hfilter]
  apply forall₂_filterMap
  intro indexed hmem token htoken
  exact h.records (List.mem_zipIdx_iff_getElem?.mp hmem) htoken

/-- Calls follow one another in the source as they do in time. -/
theorem stop_le (h : d.Steps text s calls t) : ∀ call ∈ calls, call.firing.found.stop ≤ t.cursor.offset := by
  induction h with
  | nil =>
    intro call hcall
    cases hcall
  | snoc before step ih =>
    intro call hcall
    rcases List.mem_append.mp hcall with hcall | hcall
    · exact Nat.le_trans (ih call hcall) (Nat.le_of_lt step.offset_lt)
    · rw [List.mem_singleton.mp hcall]
      exact Nat.le_of_eq step.offset_eq.symm

theorem pairwise_stop_le (h : d.Steps text s calls t) :
    calls.Pairwise fun a b => a.firing.found.stop ≤ b.firing.cursor.offset := by
  induction h with
  | nil => exact .nil
  | snoc before step ih =>
    refine List.pairwise_append.mpr ⟨ih, List.pairwise_singleton _ _, fun a ha b hb => ?_⟩
    rw [List.mem_singleton.mp hb, step.fires.cursor_eq]
    exact before.stop_le a ha

theorem pairwise_precedes {label : Option String} (h : d.Steps text s calls t) :
    (calls.filterMap (·.token? label)).Pairwise Token.Precedes := by
  rw [List.pairwise_filterMap]
  refine h.pairwise_stop_le.imp_of_mem fun {a b} ha hb hab x hx y hy => ?_
  obtain ⟨_, u, _, _, stepA⟩ := h.step_of_mem ha
  obtain ⟨_, v, _, _, stepB⟩ := h.step_of_mem hb
  have hstop : u.cursor.offset + a.chunk.length ≤ v.cursor.offset := by
    rw [← stepB.fires.cursor_eq, Call.chunk, ← stepA.fires.stop_eq]
    exact hab
  have hlt : u.cursor.offset < u.cursor.offset + a.chunk.length := by
    rw [Call.chunk, ← stepA.fires.stop_eq]
    exact stepA.fires.eligible.advances
  refine ⟨_, _, stepA.position_eq hx, stepB.position_eq hy, ?_, ?_⟩
  · change (u.cursor.offset : Int) < v.cursor.offset
    omega
  · change (u.cursor.offset : Int) + a.chunk.length ≤ v.cursor.offset
    omega

end Steps

/-- The calls behind a list of tokens: what they received is the source, and what they asked for the
tokens. The last token alone stands for no text. -/
structure Transcript (d : Definition) (source : String) (env : Environment) (label : Option String)
    (tokens : List Token) (calls : List Call) (last : Environment) : Prop where
  steps : ∃ cursor, d.Steps source.toList.toArray (.start env) calls ⟨cursor, last⟩
  tiles : Tiles source calls
  tokens : ∃ emitted, tokens = emitted ++ [⟨.str "EOS", .null, none⟩] ∧
    List.Forall₂ (fun (call, i) token => token.Records source label call (offsetBefore calls i))
      (calls.zipIdx.filter (·.1.emit.isSome)) emitted ∧
    emitted.Pairwise Token.Precedes ∧ ∀ token ∈ emitted, token.position.isSome

/-- Tokens are returned for a source that is cut up whole, each chunk by one call. What is answered are
these tokens, with the lists in them as the last action left them. -/
theorem exists_transcript (d : Definition) (source : String) (env : Environment) (label : Option String)
    (trace : Bool) (tokens : List Token) (returned : (d.lex source env label trace).tokens = .ok tokens) :
    let last := (d.lex source env label trace).environment
    (∃ calls, d.Transcript source env label tokens calls last) ∧
      (d.lex source env label trace).answer = .ok (tokens.map (·.mapValues last.read)) := by
  obtain ⟨calls, t, steps, consumed, henv, htokens⟩ := exists_steps_of_tokens returned
  refine ⟨⟨calls, ⟨t.cursor, henv ▸ steps⟩, steps.tiles consumed, calls.filterMap (·.token? label),
    htokens, steps.forall₂_records, steps.pairwise_precedes, ?_⟩, ?_⟩
  · intro token htoken
    obtain ⟨call, _, hcall⟩ := List.mem_filterMap.mp htoken
    obtain ⟨_, _, rfl⟩ := Option.map_eq_some_iff.mp hcall
    rfl
  · rw [Lexed.answer, returned]
    rfl

/-- Numbers and a sign, with blanks that are consumed without a token. -/
theorem exists_transcript_sum :
    let lexed := Calculator.lexer.definition.lex "1 +\n23" (.plain "default") none false
    let tokens : List Token := [⟨.str "NUM", .int 1, some ⟨0, 1, 0, 1, none⟩⟩,
      ⟨.str "PLS", .null, some ⟨2, 1, 2, 1, none⟩⟩, ⟨.str "NUM", .int 23, some ⟨4, 2, 0, 2, none⟩⟩,
      ⟨.str "EOS", .null, none⟩]
    lexed.tokens = .ok tokens ∧
      (∃ calls, Calculator.lexer.definition.Transcript "1 +\n23" (.plain "default") none tokens calls
        lexed.environment) ∧
      lexed.answer = .ok (tokens.map (·.mapValues lexed.environment.read)) := by
  have returned : (Calculator.lexer.definition.lex "1 +\n23" (.plain "default") none false).tokens =
      .ok [⟨.str "NUM", .int 1, some ⟨0, 1, 0, 1, none⟩⟩, ⟨.str "PLS", .null, some ⟨2, 1, 2, 1, none⟩⟩,
        ⟨.str "NUM", .int 23, some ⟨4, 2, 0, 2, none⟩⟩, ⟨.str "EOS", .null, none⟩] := by
    rw [Calculator.lexer_definition]
    decide +kernel
  exact ⟨returned, exists_transcript _ _ _ _ _ _ returned⟩

end Definition

end Lexing
