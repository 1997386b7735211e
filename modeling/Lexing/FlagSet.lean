/-! Finite sets of flag names. The sorted list of its names is the set, so equal sets are equal. -/
namespace Lexing

structure FlagSet where
  names : List String
  sorted : names.Pairwise (· < ·)
deriving DecidableEq

namespace FlagSet

def insertName (name : String) : List String → List String
  | [] => [name]
  | other :: rest =>
    if name < other then name :: other :: rest
    else if name = other then other :: rest
    else other :: insertName name rest

theorem mem_insertName {x name : String} {names : List String} :
    x ∈ insertName name names ↔ x = name ∨ x ∈ names := by
  induction names with
  | nil => simp [insertName]
  | cons other rest ih =>
    simp only [insertName]
    split
    · simp
    · split
      · simp_all
      · simp only [List.mem_cons, ih]
        exact or_left_comm

theorem sorted_insertName {name : String} {names : List String} (h : names.Pairwise (· < ·)) :
    (insertName name names).Pairwise (· < ·) := by
  induction names with
  | nil => simp [insertName]
  | cons other rest ih =>
    obtain ⟨before, tail⟩ := List.pairwise_cons.mp h
    simp only [insertName]
    split
    · next lt =>
      refine List.pairwise_cons.mpr ⟨fun x hx => ?_, h⟩
      rcases List.mem_cons.mp hx with rfl | hx
      · exact lt
      · exact String.lt_trans lt (before x hx)
    · split
      · exact h
      · next nlt ne =>
        refine List.pairwise_cons.mpr ⟨fun x hx => ?_, ih tail⟩
        rcases mem_insertName.mp hx with rfl | hx
        · rcases Decidable.em (other < x) with lt | nlt'
          · exact lt
          · exact absurd (String.le_antisymm nlt' nlt) ne
        · exact before x hx

def empty : FlagSet := ⟨[], List.Pairwise.nil⟩

def insert (flags : FlagSet) (name : String) : FlagSet :=
  ⟨insertName name flags.names, sorted_insertName flags.sorted⟩

def erase (flags : FlagSet) (name : String) : FlagSet :=
  ⟨flags.names.filter (· != name), flags.sorted.filter _⟩

def contains (flags : FlagSet) (name : String) : Bool := flags.names.contains name

def isSubset (a b : FlagSet) : Bool := a.names.all b.contains

def ofList (names : List String) : FlagSet := names.foldl insert empty

@[simp] theorem contains_empty (x : String) : empty.contains x = false := rfl

@[simp] theorem contains_insert (flags : FlagSet) (name x : String) :
    (flags.insert name).contains x = (x == name || flags.contains x) := by
  rw [Bool.eq_iff_iff]
  simp [contains, insert, mem_insertName]

@[simp] theorem contains_erase (flags : FlagSet) (name x : String) :
    (flags.erase name).contains x = (x != name && flags.contains x) := by
  rw [Bool.eq_iff_iff]
  simp [contains, erase, and_comm]

theorem isSubset_iff {a b : FlagSet} : a.isSubset b ↔ ∀ x, a.contains x → b.contains x := by
  simp [isSubset, contains]

/-- Sets with the same members are the same. -/
@[ext] theorem ext {a b : FlagSet} (h : ∀ x, a.contains x = b.contains x) : a = b := by
  obtain ⟨as, sa⟩ := a
  obtain ⟨bs, sb⟩ := b
  have members : ∀ x, x ∈ as ↔ x ∈ bs := fun x => by simpa [contains] using congrArg (· = true) (h x)
  have na : as.Nodup := sa.imp fun lt => by rintro rfl; exact String.lt_irrefl _ lt
  have nb : bs.Nodup := sb.imp fun lt => by rintro rfl; exact String.lt_irrefl _ lt
  have perm : as.Perm bs := (List.perm_ext_iff_of_nodup na nb).mpr members
  have same : as = bs := perm.eq_of_pairwise (fun x y _ _ lt gt => absurd gt (String.lt_asymm lt)) sa sb
  subst same
  rfl

end FlagSet

end Lexing
