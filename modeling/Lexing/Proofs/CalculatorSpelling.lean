import Lexing.Proofs.CalculatorLanguage

/-! How calculations are spelled: signs and numbers one after the other, numbers with zeros in front as one
likes, and blanks around all of them. Only between two numbers there must be a blank. -/
namespace Lexing.Calculator

inductive Item where
  | sign (c : Char) (type : String) (known : signType c = some type)
  | number (n : Nat)

namespace Item

/-- The type and value of its token. -/
def emit : Item → Emit
  | sign _ type _ => ⟨.str type, .null⟩
  | number n => ⟨.str "NUM", .int n⟩

def ofEmit? : Emit → Option Item
  | ⟨.str "PLS", _⟩ => some (.sign '+' "PLS" rfl)
  | ⟨.str "SUB", _⟩ => some (.sign '-' "SUB" rfl)
  | ⟨.str "MUL", _⟩ => some (.sign '*' "MUL" rfl)
  | ⟨.str "DIV", _⟩ => some (.sign '/' "DIV" rfl)
  | ⟨.str "LPAREN", _⟩ => some (.sign '(' "LPAREN" rfl)
  | ⟨.str "RPAREN", _⟩ => some (.sign ')' "RPAREN" rfl)
  | ⟨.str "NUM", .int (.ofNat n)⟩ => some (.number n)
  | _ => none

theorem ofEmit?_emit (item : Item) : ofEmit? item.emit = some item := by
  cases item with
  | number n => rfl
  | sign c type known =>
    have hsign := known
    unfold signType at hsign
    split at hsign <;> cases hsign <;> rfl

def isNumber : Item → Bool
  | sign .. => false
  | number _ => true

def spelled (zeros : Nat) : Item → List Char
  | sign c _ _ => [c]
  | number n => List.replicate zeros '0' ++ Nat.toDigits 10 n

theorem isDigit_of_mem_spelled {item : Item} {zeros : Nat} {c : Char} (hnumber : item.isNumber)
    (h : c ∈ item.spelled zeros) : c.isDigit := by
  cases item with
  | sign => cases hnumber
  | number n =>
    rcases List.mem_append.mp h with hzero | hdigit
    · rw [List.eq_of_mem_replicate hzero]
      rfl
    · exact Nat.isDigit_of_mem_toDigits (by decide) (by decide) hdigit

theorem spelled_ne_nil (item : Item) (zeros : Nat) : item.spelled zeros ≠ [] := by
  cases item with
  | sign => exact List.cons_ne_nil _ _
  | number n => exact List.append_ne_nil_of_right_ne_nil _ Nat.toDigits_ne_nil

end Item

/-- Items with what is behind each of them. -/
inductive Spaced : List Item → List Char → Prop
  | nil : Spaced [] []
  | cons {item : Item} {zeros : Nat} {gap rest : List Char} {items : List Item}
      (short : (item.spelled zeros).length ≤ Text.digitLimit) (blank : ∀ c ∈ gap, Text.isBlank c)
      (apart : item.isNumber → items.head?.any Item.isNumber → gap ≠ []) (next : Spaced items rest) :
      Spaced (item :: items) (item.spelled zeros ++ (gap ++ rest))

/-- The characters are a spelling of the items. -/
inductive Renders (items : List Item) : List Char → Prop
  | mk {lead body : List Char} (blank : ∀ c ∈ lead, Text.isBlank c) (spaced : Spaced items body) :
      Renders items (lead ++ body)

theorem Spaced.isDigit_head {items : List Item} {cs : List Char} (h : Spaced items cs)
    (hfirst : ¬ items.head?.any Item.isNumber) : ∀ c ∈ cs.head?, c.isDigit = false := by
  intro c hc
  cases h with
  | nil => cases hc
  | @cons item =>
    cases item with
    | number n => exact absurd rfl hfirst
    | sign d type known =>
      cases hc
      exact isDigit_of_signType known

/-- Without zeros in front, and with one space between any two. -/
def canonical (items : List Item) : List Char := [' '].intercalate (items.map (·.spelled 0))

theorem canonical_cons (item next : Item) (items : List Item) :
    canonical (item :: next :: items) = item.spelled 0 ++ ([' '] ++ canonical (next :: items)) := by
  rw [canonical, List.map_cons, List.map_cons, List.intercalate_cons_cons, List.append_assoc]
  rfl

theorem isBlank_space : Text.isBlank ' ' := by
  decide +kernel

theorem spaced_canonical {items : List Item} (h : ∀ item ∈ items, (item.spelled 0).length ≤ Text.digitLimit) :
    Spaced items (canonical items) := by
  induction items with
  | nil => exact .nil
  | cons item items ih =>
    have hshort := h item List.mem_cons_self
    have hrest := ih fun other hother => h other (List.mem_cons_of_mem _ hother)
    cases items with
    | nil =>
      have hone : Spaced [item] (item.spelled 0 ++ ([] ++ [])) := .cons hshort (by simp) (by simp) .nil
      simpa [canonical] using hone
    | cons next items =>
      rw [canonical_cons]
      exact .cons hshort (by simp [isBlank_space]) (by simp) hrest

end Lexing.Calculator
