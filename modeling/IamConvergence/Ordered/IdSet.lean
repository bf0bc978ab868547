/-
Finite sets of identifiers: the strictly increasing list of the members, so that two sets with the
same members are equal and every listing comes out sorted.
-/
import IamConvergence.Ordered.Table

namespace IamConvergence

/-! ## Sorted lists of identifiers -/

namespace Ids

/-- Adds a member to an increasing list. -/
def insert (x : String) : List String → List String
  | [] => [x]
  | y :: ys => if x < y then x :: y :: ys else if x = y then y :: ys else y :: insert x ys

theorem mem_insert {x y : String} {xs : List String} : y ∈ insert x xs ↔ y = x ∨ y ∈ xs := by
  induction xs with
  | nil => simp [insert]
  | cons z zs ih => grind [insert]

theorem pairwise_insert (x : String) {xs : List String} (h : xs.Pairwise (· < ·)) :
    (insert x xs).Pairwise (· < ·) := by
  induction xs with
  | nil => simp [insert]
  | cons y ys ih =>
    obtain ⟨hy, hys⟩ := List.pairwise_cons.mp h
    unfold insert
    split
    · rename_i hlt
      exact List.pairwise_cons.mpr ⟨fun z hz => (List.mem_cons.mp hz).elim
        (fun heq => heq ▸ hlt) (fun hmem => String.lt_trans hlt (hy z hmem)), h⟩
    · split
      · exact h
      · rename_i hlt hne
        exact List.pairwise_cons.mpr ⟨fun z hz => (mem_insert.mp hz).elim
          (fun heq => heq ▸ Entries.lt_of_not_lt_of_ne hlt hne) (hy z), ih hys⟩

end Ids

/-! ## Sets -/

/-- A finite set of identifiers, listed in increasing order. -/
structure IdSet where
  toList : List String
  ordered : toList.Pairwise (· < ·) := by simp
  deriving DecidableEq

namespace IdSet

/-- The set without members. -/
def empty : IdSet := ⟨[], List.Pairwise.nil⟩

instance : Membership String IdSet := ⟨fun s x => x ∈ s.toList⟩

instance (x : String) (s : IdSet) : Decidable (x ∈ s) := inferInstanceAs (Decidable (x ∈ s.toList))

/-- Adds a member. -/
def insert (s : IdSet) (x : String) : IdSet :=
  ⟨Ids.insert x s.toList, Ids.pairwise_insert x s.ordered⟩

/-- Takes a member away. -/
def erase (s : IdSet) (x : String) : IdSet :=
  ⟨s.toList.filter (· != x), s.ordered.sublist List.filter_sublist⟩

/-- The set of the identifiers of a list. -/
def ofList (xs : List String) : IdSet := xs.foldl insert empty

/-- The members of `s` that are not in `t`. -/
def diff (s t : IdSet) : IdSet :=
  ⟨s.toList.filter (fun x => !t.toList.contains x), s.ordered.sublist List.filter_sublist⟩

/-- The number of members. -/
def size (s : IdSet) : Nat := s.toList.length

/-- Whether there is no member. -/
def isEmpty (s : IdSet) : Bool := s.toList.isEmpty

@[simp] theorem mem_toList {x : String} {s : IdSet} : x ∈ s.toList ↔ x ∈ s := Iff.rfl

@[simp] theorem not_mem_empty (x : String) : x ∉ empty := List.not_mem_nil

@[simp] theorem mem_insert {x y : String} {s : IdSet} : y ∈ s.insert x ↔ y = x ∨ y ∈ s :=
  Ids.mem_insert

@[simp] theorem mem_erase {x y : String} {s : IdSet} : y ∈ s.erase x ↔ y ∈ s ∧ y ≠ x := by
  simp only [← mem_toList, erase, List.mem_filter, bne_iff_ne]

@[simp] theorem mem_diff {x : String} {s t : IdSet} : x ∈ s.diff t ↔ x ∈ s ∧ x ∉ t := by
  simp only [← mem_toList, diff, List.mem_filter, Bool.not_eq_true', List.contains_eq_mem,
    decide_eq_false_iff_not]

theorem mem_foldl_insert {x : String} (xs : List String) (s : IdSet) :
    x ∈ xs.foldl insert s ↔ x ∈ xs ∨ x ∈ s := by
  induction xs generalizing s with
  | nil => simp
  | cons y ys ih => rw [List.foldl_cons, ih, mem_insert, List.mem_cons, or_assoc, or_left_comm]

@[simp] theorem mem_ofList {x : String} {xs : List String} : x ∈ ofList xs ↔ x ∈ xs := by
  simp [ofList, mem_foldl_insert]

theorem nodup (s : IdSet) : s.toList.Nodup :=
  s.ordered.imp fun {a b} (h : a < b) (heq : a = b) => String.lt_irrefl b (heq ▸ h)

end IdSet

end IamConvergence
