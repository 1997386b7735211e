import Lexing.Proofs.AnchoredPatterns
import Lexing.Proofs.Lockstep
import Lexing.Proofs.Tiling

/-! Anchors refer to the whole source. Wherever a run has come to, a pattern is tried on the source as it is and
not on what is left of it. -/
namespace Lexing

/-- The rule has the pattern in parentheses, with an anchor before it. -/
structure Rule.Anchored (front : Pattern.Front) (source : PatternText) (settings : List Char) (inner : Pattern)
    (rule : Rule) : Prop where
  reads : Pattern.compile source (front.within settings) = .ok inner
  tries : ∃ outer, Pattern.compile (front.enclose source) settings = .ok outer ∧ rule.matcher = .text outer

namespace Rule.Anchored

variable {front : Pattern.Front} {source : PatternText} {settings : List Char} {inner : Pattern} {rule : Rule}

theorem tryAt_eq (h : rule.Anchored front source settings inner) (text : Array Char) (place : Nat) :
    rule.matcher.tryAt text place =
      .ok (if (front.anchor settings).holds text place then inner.matchAt text place else none) := by
  obtain ⟨outer, houter, hmatcher⟩ := h.tries
  rw [hmatcher, ← Pattern.Front.matchAt_enclose h.reads houter]
  rfl

theorem tryAt_of_admits (h : rule.Anchored front source settings inner) {text : Array Char} {place : Nat}
    (hplace : front.Admits settings text place) :
    rule.matcher.tryAt text place = .ok (inner.matchAt text place) := by
  rw [h.tryAt_eq, if_pos ((front.holds_anchor settings text place).mpr hplace)]

/-- A match is one of the pattern, at a place where the anchor lets it be. -/
theorem admits_of_tryAt (h : rule.Anchored front source settings inner) {text : Array Char} {place : Nat}
    {found : Match} (hfound : rule.matcher.tryAt text place = .ok (some found)) :
    front.Admits settings text place ∧ inner.matchAt text place = some found := by
  rw [h.tryAt_eq] at hfound
  split at hfound
  · next hholds => exact ⟨(front.holds_anchor settings text place).mp hholds, Except.ok.inj hfound⟩
  · cases hfound

end Rule.Anchored

namespace Definition

variable {d : Definition} {source : String} {env : Environment} {text : Array Char} {s t : Boundary}
  {calls : List Call}

/-- Every rule is anchored at the start of the text. -/
def AnchoredAtStart (d : Definition) : Prop :=
  ∀ state, ∀ rule ∈ d.table.get state, ∃ source settings inner, rule.Anchored .start source settings inner

theorem AnchoredAtStart.offset_eq_zero (h : d.AnchoredAtStart) {f : Firing} (fires : d.Fires text s f) :
    s.cursor.offset = 0 := by
  obtain ⟨source, settings, inner, hanchored⟩ := h _ _ fires.rule_mem
  rcases (hanchored.admits_of_tryAt fires.eligible.matched).1 with hzero | ⟨hstart, _⟩
  · exact hzero
  · exact absurd rfl hstart

/-- A run that has come anywhere took one step. -/
theorem AnchoredAtStart.exists_single (h : d.AnchoredAtStart) (steps : d.Steps text (.start env) calls t)
    (hmoved : 0 < t.cursor.offset) : ∃ call, calls = [call] := by
  cases steps with
  | nil => exact absurd hmoved (Nat.lt_irrefl 0)
  | snoc before step =>
    have hlength := before.length_le
    rw [h.offset_eq_zero step.fires] at hlength
    have hnil := List.eq_nil_of_length_eq_zero (Nat.le_zero.mp (Nat.le_of_add_left_le hlength))
    exact ⟨_, by rw [hnil]; rfl⟩

/-- Anchors refer to the whole source. In every run, a rule whose pattern stands in parentheses behind an anchor
fires only where the source itself has what the anchor asks for: at its start, or, if `^` is for lines, also
after a newline, whichever firing took the newline and whatever else it took. At these places the rule has the
match that the pattern has there without the anchor, and none if that has none. So if all rules are anchored at
the start of the text, a source that is not empty is lexed only by a single firing on all of it. -/
theorem anchors_refer_to_source (d : Definition) (source : String) (env : Environment) :
    let text := source.toList.toArray
    let firings := (d.run text .start env).firings
    (∀ front pattern settings inner rule, rule.Anchored front pattern settings inner →
      (∀ f ∈ firings, f.rule = rule → front.Admits settings text f.cursor.offset) ∧
      ∀ place, front.Admits settings text place → rule.matcher.tryAt text place = .ok (inner.matchAt text place)) ∧
    (d.AnchoredAtStart → source ≠ "" → ∀ label trace tokens,
      (d.lex source env label trace).tokens = .ok tokens → ∃ f, firings = [f] ∧ f.chunk = source) := by
  intro text firings
  refine ⟨fun front pattern settings inner rule hanchored => ⟨fun f hf hrule => ?_, fun place => ?_⟩, ?_⟩
  · obtain ⟨i, hi⟩ := List.mem_iff_getElem?.mp hf
    obtain ⟨_, s, _, _, fires⟩ := exists_steps_of_firing (s := .start env) hi
    rw [fires.cursor_eq]
    exact (hanchored.admits_of_tryAt (hrule ▸ fires.eligible.matched)).1
  · exact hanchored.tryAt_of_admits
  · intro hanchored hsource label trace tokens returned
    obtain ⟨calls, t, steps, consumed, _⟩ := exists_steps_of_tokens returned
    have hmoved : 0 < t.cursor.offset := by
      refine Nat.lt_of_lt_of_le (Nat.pos_of_ne_zero fun hsize => hsource ?_) consumed
      simpa using hsize
    obtain ⟨call, rfl⟩ := hanchored.exists_single steps hmoved
    have hjoined := (steps.tiles consumed).joined
    refine ⟨call.firing, ?_, by simpa [String.join, Call.chunk] using hjoined⟩
    have hrun : d.run text .start env = Run.prepend [call] (.done t.cursor t.env) :=
      (Ends.done consumed).runFrom_eq ▸ steps.runFrom_eq
    change (d.run text .start env).firings = _
    rw [hrun]
    rfl

/-- A number sign at the start of a line is a heading. -/
def headingRule : Rule :=
  Calculator.compiled "(?m)^(?:#)" (.seq (.anchor .lineStart) (.char (.single .exact '#'.toNat)))
    (.perform "heading" fun _ => pure (.str "HEAD"))

/-- Headings, and other text that may go on over several lines. -/
def headings : Definition :=
  .ofRules .longest [headingRule,
    Calculator.compiled "[^#]+" (.repetition 1 none .greedy (.char ⟨[.letter '#'.toNat], true, .exact⟩)) .discard]

def wordRule : Rule :=
  Calculator.compiled "\\A(?:a|bc)"
    (.seq (.anchor .textStart) (.alt (.char (.single .exact 'a'.toNat))
      (.seq (.char (.single .exact 'b'.toNat)) (.char (.single .exact 'c'.toNat)))))
    (.perform "word" fun _ => pure (.str "WORD"))

/-- All of the source is one of two words. -/
def wholeWords : Definition := .ofRules .first [wordRule]

theorem anchored_headingRule :
    headingRule.Anchored .lines "#" [] ⟨"#", .char (.single .exact '#'.toNat), 0, []⟩ :=
  ⟨by decide +kernel, _, by decide +kernel, rfl⟩

theorem anchoredAtStart_wholeWords : wholeWords.AnchoredAtStart := by
  intro state rule hrule
  rw [wholeWords, get_ofRules] at hrule
  split at hrule
  · obtain rfl := List.mem_singleton.mp hrule
    let words : Pattern.Node := .alt (.char (.single .exact 'a'.toNat))
      (.seq (.char (.single .exact 'b'.toNat)) (.char (.single .exact 'c'.toNat)))
    exact ⟨"a|bc", [], ⟨"a|bc", words, 0, []⟩, by decide +kernel, _, by decide +kernel, rfl⟩
  · cases hrule

/-- The second heading comes after a newline that a longer chunk ends with. -/
theorem anchors_refer_to_source_headings :
    let text := "#x\n#".toList.toArray
    let env := Environment.plain "default"
    (headings.lex "#x\n#" env none false).tokens =
        .ok [⟨.str "HEAD", .null, some ⟨0, 1, 0, 1, none⟩⟩, ⟨.str "HEAD", .null, some ⟨3, 2, 0, 1, none⟩⟩,
          ⟨.str "EOS", .null, none⟩] ∧
      (∀ f ∈ (headings.run text .start env).firings, f.rule = headingRule →
        Pattern.Front.lines.Admits [] text f.cursor.offset) ∧
      headingRule.matcher.tryAt text 3 =
        .ok (Pattern.matchAt ⟨"#", .char (.single .exact '#'.toNat), 0, []⟩ text 3) ∧
      ∃ f, (wholeWords.run "bc".toList.toArray .start env).firings = [f] ∧ f.chunk = "bc" := by
  intro text env
  obtain ⟨hfired, hmatched⟩ := (anchors_refer_to_source headings "#x\n#" env).1 _ _ _ _ _ anchored_headingRule
  refine ⟨by decide +kernel, hfired, hmatched 3 (.inr ⟨by decide, by decide, by decide⟩), ?_⟩
  refine (anchors_refer_to_source wholeWords "bc" env).2 anchoredAtStart_wholeWords (by decide) none false
    [⟨.str "WORD", .null, some ⟨0, 1, 0, 2, none⟩⟩, ⟨.str "EOS", .null, none⟩] ?_
  decide +kernel

end Definition

end Lexing
