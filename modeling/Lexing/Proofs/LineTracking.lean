import Lexing.Proofs.Steps
import Mathlib.Data.List.DropRight

/-! The line and column told at each boundary of a run. Lines count every newline that is consumed; the
column starts anew where a chunk with a newline ends, so it falls short of the true one by what stands
after the last newline in that chunk. -/
namespace Lexing

/-- Where the line that a text leaves off in begins: after its last newline, if it has one. -/
def lineStart (before : List Char) : Nat := (before.rdropWhile (· != '\n')).length

theorem lineStart_le (before : List Char) : lineStart before ≤ before.length :=
  (List.rdropWhile_prefix _ _).length_le

theorem lineStart_append_of_notMem (before : List Char) {chunk : List Char} (h : '\n' ∉ chunk) :
    lineStart (before ++ chunk) = lineStart before := by
  induction chunk using List.reverseRecOn with
  | nil => rw [List.append_nil]
  | append_singleton chunk c ih =>
    have hc : (c != '\n') = true := by
      simp only [List.mem_append, List.mem_singleton, not_or] at h
      exact bne_iff_ne.mpr fun hc => h.2 hc.symm
    rw [← ih fun hmem => h (List.mem_append_left _ hmem), lineStart, lineStart, ← List.append_assoc,
      List.rdropWhile_concat, if_pos hc]

theorem lineStart_append_of_mem (before : List Char) {chunk : List Char} (h : '\n' ∈ chunk) :
    lineStart (before ++ chunk) = before.length + lineStart chunk := by
  induction chunk using List.reverseRecOn with
  | nil => cases h
  | append_singleton chunk c ih =>
    rw [lineStart, lineStart, ← List.append_assoc, List.rdropWhile_concat, List.rdropWhile_concat]
    split
    · next hc =>
      refine ih ?_
      rcases List.mem_append.mp h with hmem | hmem
      · exact hmem
      · exact absurd (List.mem_singleton.mp hmem).symm (bne_iff_ne.mp hc)
    · rw [List.append_assoc, List.length_append]

example : lineStart "a\nbc".toList = 2 := by decide

/-- A text leaves off at the start of a line exactly if a newline is the last of it. -/
theorem lineStart_eq_length_iff {chunk : List Char} (h : chunk ≠ []) :
    lineStart chunk = chunk.length ↔ chunk.getLast? = some '\n' := by
  have hself : lineStart chunk = chunk.length ↔ chunk.rdropWhile (· != '\n') = chunk :=
    ⟨(List.rdropWhile_prefix _ _).eq_of_length, congrArg List.length⟩
  rw [hself, List.rdropWhile_eq_self_iff, List.getLast?_eq_some_getLast h]
  simp [h]

namespace Call

def hasNewline (call : Call) : Bool := call.chunk.toList.contains '\n'

theorem hasNewline_iff {call : Call} : call.hasNewline ↔ '\n' ∈ call.chunk.toList := List.contains_iff_mem

/-- The last call on a chunk with a newline. -/
def lastWithNewline (calls : List Call) : Option Call := (calls.filter (·.hasNewline)).getLast?

/-- Where the last chunk with a newline ends, or the start of the source if there is none. -/
def newlineEnd (calls : List Call) : Nat :=
  match lastWithNewline calls with
  | some call => call.firing.found.stop
  | none => 0

theorem lastWithNewline_concat (calls : List Call) (call : Call) :
    lastWithNewline (calls ++ [call]) = if call.hasNewline then some call else lastWithNewline calls := by
  unfold lastWithNewline
  by_cases h : call.hasNewline <;> simp [h]

theorem newlineEnd_concat (calls : List Call) (call : Call) :
    newlineEnd (calls ++ [call]) = if call.hasNewline then call.firing.found.stop else newlineEnd calls := by
  unfold newlineEnd
  rw [lastWithNewline_concat]
  by_cases h : call.hasNewline <;> simp [h]

theorem lastWithNewline_eq_none {calls : List Call} :
    lastWithNewline calls = none ↔ ∀ call ∈ calls, '\n' ∉ call.chunk.toList := by
  simp only [lastWithNewline, List.getLast?_eq_none_iff, List.filter_eq_nil_iff, hasNewline_iff]

/-- The calls after the last one with a newline have none. -/
theorem lastWithNewline_eq_some {calls : List Call} {call : Call} (h : lastWithNewline calls = some call) :
    ∃ before after, calls = before ++ call :: after ∧ '\n' ∈ call.chunk.toList ∧
      ∀ later ∈ after, '\n' ∉ later.chunk.toList := by
  induction calls using List.reverseRecOn with
  | nil => cases h
  | append_singleton calls last ih =>
    rw [lastWithNewline_concat] at h
    by_cases hlast : last.hasNewline
    · rw [if_pos hlast] at h
      cases h
      exact ⟨calls, [], rfl, hasNewline_iff.mp hlast, by simp⟩
    · rw [if_neg hlast] at h
      obtain ⟨before, after, rfl, hmem, hafter⟩ := ih h
      refine ⟨before, after ++ [last], by simp, hmem, ?_⟩
      simp only [List.mem_append, List.mem_singleton]
      rintro later (hlater | rfl)
      · exact hafter later hlater
      · exact fun hnewline => hlast (hasNewline_iff.mpr hnewline)

end Call

namespace Cursor

theorem line_advance (c : Cursor) (text : Array Char) (stop : Nat) :
    (c.advance text stop).line = c.line + (slice text c.offset stop).toList.count '\n' := by
  unfold advance slice
  rw [String.toList_ofList, Array.count_toList]
  dsimp only
  split
  · next hzero => rw [hzero]; rfl
  · rfl

theorem column_advance (c : Cursor) (text : Array Char) (stop : Nat) :
    (c.advance text stop).column =
      if '\n' ∈ (slice text c.offset stop).toList then 0 else c.column + (stop - c.offset) := by
  have hzero : (text.extract c.offset stop).count '\n' = 0 ↔ '\n' ∉ (slice text c.offset stop).toList := by
    rw [slice, String.toList_ofList, ← List.count_eq_zero, Array.count_toList]
  unfold advance
  simp only [hzero]
  by_cases hmem : '\n' ∈ (slice text c.offset stop).toList <;> simp [hmem]

end Cursor

namespace Definition

variable {d : Definition} {text : Array Char} {s t : Boundary} {calls : List Call} {call : Call}

namespace Step

theorem line_eq (h : d.Step text s call t) :
    t.cursor.line = s.cursor.line + call.chunk.toList.count '\n' := by
  rw [h.moves, Cursor.line_advance, h.fires.slice_eq]
  rfl

theorem column_eq (h : d.Step text s call t) :
    t.cursor.column = if call.hasNewline then 0 else s.cursor.column + call.chunk.length := by
  have hstop := h.fires.stop_eq
  rw [h.moves, Cursor.column_advance, h.fires.slice_eq]
  simp only [Call.hasNewline_iff, Call.chunk]
  rw [hstop, Nat.add_sub_cancel_left]

end Step

namespace Steps

theorem line_eq (h : d.Steps text s calls t) :
    t.cursor.line = s.cursor.line + (calls.flatMap (·.chunk.toList)).count '\n' := by
  induction h with
  | nil => rfl
  | snoc before step ih =>
    rw [step.line_eq, ih, List.flatMap_append, List.count_append, List.flatMap_singleton]
    omega

/-- A column counts from where the last chunk with a newline ends. -/
theorem newlineEnd_add_column {env : Environment} (h : d.Steps text (.start env) calls t) :
    Call.newlineEnd calls + t.cursor.column = t.cursor.offset := by
  induction h with
  | nil => rfl
  | snoc before step ih =>
    rw [step.column_eq, Call.newlineEnd_concat]
    split
    · rw [step.offset_eq, Nat.add_zero]
    · rw [step.offset_eq_add]
      omega

/-- The line starts within the last chunk with a newline, and where it ends only if that newline is the
last of it. -/
theorem lineStart_take {env : Environment} {before after : List Call}
    (h : d.Steps text (.start env) (before ++ call :: after) t)
    (hmem : '\n' ∈ call.chunk.toList) (hafter : ∀ later ∈ after, '\n' ∉ later.chunk.toList) :
    lineStart (text.toList.take t.cursor.offset) + call.chunk.length =
      call.firing.found.stop + lineStart call.chunk.toList := by
  rw [← List.singleton_append, ← List.append_assoc] at h
  obtain ⟨u, hcall, hrest⟩ := h.split
  obtain ⟨v, hbefore, step⟩ := hcall.of_concat
  have hnone : '\n' ∉ after.flatMap (·.chunk.toList) := by
    simpa using hafter
  have hchunk : text.toList.take v.cursor.offset ++ call.chunk.toList = text.toList.take u.cursor.offset := by
    rw [step.offset_eq]
    exact step.fires.take_append_chunk
  have hoffset : v.cursor.offset ≤ text.toList.length := hbefore.offset_le (Nat.zero_le _)
  rw [← hrest.take_append, lineStart_append_of_notMem _ hnone, ← hchunk, lineStart_append_of_mem _ hmem,
    List.length_take_of_le hoffset, ← step.offset_eq, step.offset_eq_add]
  exact Nat.add_right_comm _ _ _

theorem lineStart_take_of_none {env : Environment} (h : d.Steps text (.start env) calls t)
    (hnone : ∀ call ∈ calls, '\n' ∉ call.chunk.toList) : lineStart (text.toList.take t.cursor.offset) = 0 := by
  have hchunks : '\n' ∉ calls.flatMap (·.chunk.toList) := by
    simpa using hnone
  rw [← h.take_append, lineStart_append_of_notMem _ hchunks]
  rfl

end Steps

end Definition

/-- The label a record shows. -/
def shownLabel : Option String → String
  | some name => if name.isEmpty then "<string>" else name
  | none => "<string>"

theorem Firing.traceText_eq (f : Firing) (label : Option String) :
    f.traceText label = s!"{shownLabel label} {f.cursor.line}:{f.cursor.column} state={f.state} " ++
      f.rule.matcher.render ++ " matched " ++ Text.quote f.chunk := by
  cases label <;> rfl

/-- A firing that is traced has its own record. -/
theorem Run.getElem?_log {r : Run} {i : Nat} {f : Firing} (label : Option String)
    (h : r.firings[i]? = some f) : (r.log label true)[i]? = some ⟨.scanner, f.traceText label⟩ := by
  induction r generalizing i with
  | done | stuck | refused => cases h
  | failed firing fault env =>
    cases i with
    | zero =>
      cases h
      rfl
    | succ i => cases h
  | fired firing emit rest ih =>
    cases i with
    | zero =>
      cases h
      rfl
    | succ i => exact ih h

/-- The line and column that are told once the calls have consumed the text up to the cursor. -/
structure LineLaw (text : Array Char) (calls : List Call) (c : Cursor) : Prop where
  line : c.line = 1 + (text.toList.take c.offset).count '\n'
  newlineEnd_le : Call.newlineEnd calls ≤ c.offset
  column : c.column = c.offset - Call.newlineEnd calls
  column_le : c.column ≤ c.offset - lineStart (text.toList.take c.offset)
  column_eq_iff : c.column = c.offset - lineStart (text.toList.take c.offset) ↔
    (∀ call ∈ calls, '\n' ∉ call.chunk.toList) ∨
      ∃ call, Call.lastWithNewline calls = some call ∧ call.chunk.toList.getLast? = some '\n'

namespace Definition

variable {d : Definition} {text : Array Char} {s t : Boundary} {calls : List Call}

/-- The line starts where the last chunk with a newline ends, or within it if it has text after its last
newline. -/
theorem Steps.lineStart_newlineEnd {env : Environment} (h : d.Steps text (.start env) calls t) :
    lineStart (text.toList.take t.cursor.offset) ≤ Call.newlineEnd calls ∧
      (lineStart (text.toList.take t.cursor.offset) = Call.newlineEnd calls ↔
        (∀ call ∈ calls, '\n' ∉ call.chunk.toList) ∨
          ∃ call, Call.lastWithNewline calls = some call ∧ call.chunk.toList.getLast? = some '\n') := by
  cases hlast : Call.lastWithNewline calls with
  | none =>
    have hnone := Call.lastWithNewline_eq_none.mp hlast
    rw [h.lineStart_take_of_none hnone, Call.newlineEnd, hlast]
    exact ⟨Nat.le_refl _, fun _ => .inl hnone, fun _ => rfl⟩
  | some call =>
    obtain ⟨before, after, rfl, hmem, hafter⟩ := Call.lastWithNewline_eq_some hlast
    have hstart := h.lineStart_take hmem hafter
    have hle := lineStart_le call.chunk.toList
    have hlength := call.chunk.length_toList
    have hwhole := lineStart_eq_length_iff (List.ne_nil_of_mem hmem)
    rw [Call.newlineEnd, hlast]
    dsimp only
    refine ⟨by omega, fun heq => .inr ⟨call, rfl, hwhole.mp (by omega)⟩, ?_⟩
    rintro (hnone | ⟨call', hcall', hnewline⟩)
    · exact absurd hmem (hnone call (by simp))
    · cases hcall'
      have hends := hwhole.mpr hnewline
      omega

/-- Every step of a run keeps the law. -/
theorem Steps.lineLaw {env : Environment} (h : d.Steps text (.start env) calls t) :
    LineLaw text calls t.cursor := by
  have hline : t.cursor.line = 1 + (text.toList.take t.cursor.offset).count '\n' := by
    rw [h.line_eq, ← h.take_append]
    rfl
  have hcolumn := h.newlineEnd_add_column
  obtain ⟨hle, heq⟩ := h.lineStart_newlineEnd
  refine ⟨hline, by omega, by omega, by omega, ?_⟩
  rw [← heq]
  omega

/-- Where a token, a fault or a record says that it stands. -/
structure Tells (d : Definition) (text : Array Char) (label : Option String) (trace : Bool) (lexed : Lexed)
    (calls : List Call) (s : Boundary) : Prop where
  token : ∀ call t token, d.Step text s call t → call.token? label = some token →
    token.position = some ⟨s.cursor.offset, s.cursor.line, s.cursor.column, call.chunk.length, label⟩
  unmatched : s.cursor.offset < text.size → d.select s.env text s.cursor.offset = .ok none →
    lexed.answer = .error (.unmatched ⟨s.cursor.offset, s.cursor.line, s.cursor.column,
      slice text s.cursor.offset text.size, label⟩)
  traced : trace = true → ∀ f, d.Fires text s f → lexed.log[calls.length]? = some ⟨.scanner,
    s!"{shownLabel label} {s.cursor.line}:{s.cursor.column} state={s.env.state} " ++
      f.rule.matcher.render ++ " matched " ++ Text.quote f.chunk⟩

theorem runFrom_stuck (inside : s.cursor.offset < text.size)
    (hnone : d.select s.env text s.cursor.offset = .ok none) :
    d.runFrom text s = .stuck s.cursor s.env := by
  rw [runFrom, run, if_pos inside, hnone]

theorem Steps.tells {source : String} {env : Environment} (label : Option String) (trace : Bool)
    (h : d.Steps source.toList.toArray (.start env) calls s) :
    d.Tells source.toList.toArray label trace (d.lex source env label trace) calls s where
  token _ _ _ step htoken := step.position_eq htoken
  unmatched inside hnone := by
    rw [h.lex_eq, runFrom_stuck inside hnone]
    rfl
  traced htrace f fires := by
    subst htrace
    rw [← fires.state_eq, ← fires.cursor_eq, ← Firing.traceText_eq]
    exact Run.getElem?_log label (h.firings_length.mpr fires)

/-- A token that is returned with a position was asked for by a call. -/
theorem exists_step_of_answer {source : String} {env : Environment} {label : Option String} {trace : Bool}
    {tokens : List Token} {token : Token} {p : Position}
    (hanswer : (d.lex source env label trace).answer = .ok tokens) (htoken : token ∈ tokens)
    (hp : token.position = some p) :
    ∃ calls s call t asked, d.Steps source.toList.toArray (.start env) calls s ∧
      d.Step source.toList.toArray s call t ∧ call.token? label = some asked ∧ asked.position = some p := by
  cases hreturned : (d.lex source env label trace).tokens with
  | error fault =>
    rw [Lexed.answer, hreturned] at hanswer
    cases hanswer
  | ok returned =>
    rw [Lexed.answer, hreturned] at hanswer
    cases hanswer
    obtain ⟨calls, t, steps, _, _, rfl⟩ := exists_steps_of_tokens hreturned
    obtain ⟨asked, hasked, rfl⟩ := List.mem_map.mp htoken
    rcases List.mem_append.mp hasked with hemitted | hlast
    · obtain ⟨call, hcall, hemit⟩ := List.mem_filterMap.mp hemitted
      obtain ⟨earlier, u, v, before, step⟩ := steps.step_of_mem hcall
      exact ⟨earlier, u, call, v, asked, before, step, hemit, hp⟩
    · rw [List.mem_singleton.mp hlast] at hp
      cases hp

/-- Wherever a run stands between two steps, the line and column are lawful and are what is told of the
place; every token that is returned tells of such a place. -/
theorem places_told_lawfully (d : Definition) (source : String) (env : Environment) (label : Option String)
    (trace : Bool) :
    let text := source.toList.toArray
    let lexed := d.lex source env label trace
    (∀ calls s, d.Steps text (.start env) calls s →
      LineLaw text calls s.cursor ∧ d.Tells text label trace lexed calls s) ∧
    ∀ tokens, lexed.answer = .ok tokens → ∀ token ∈ tokens, ∀ p, token.position = some p →
      ∃ calls s, d.Steps text (.start env) calls s ∧ LineLaw text calls s.cursor ∧
        p = ⟨s.cursor.offset, s.cursor.line, s.cursor.column, p.length, label⟩ := by
  intro text lexed
  refine ⟨fun calls s steps => ⟨steps.lineLaw, steps.tells label trace⟩, ?_⟩
  intro tokens hanswer token htoken p hp
  obtain ⟨calls, s, call, t, asked, steps, step, hasked, hposition⟩ := exists_step_of_answer hanswer htoken hp
  rw [step.position_eq hasked] at hposition
  cases hposition
  exact ⟨calls, s, steps, steps.lineLaw, rfl⟩

end Definition

end Lexing
