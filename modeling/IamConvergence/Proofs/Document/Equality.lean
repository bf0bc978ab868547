/-
Every document that can be read equals itself: the members of an object stand in key order, so each
is found under its own key.
-/
import IamConvergence.Proofs.Document.WellFormed
import IamConvergence.Version.Reconcile

namespace IamConvergence

theorem Number.equal_self (n : Number) : n.equal n = true := by
  rw [Number.equal, beq_self_eq_true, Bool.true_or]

namespace Value

mutual

theorem equal_self : ∀ {v : Value}, v.WellFormed → v.equal v = true
  | .null, _ => rfl
  | .bool b, _ => beq_self_eq_true b
  | .number n, _ => n.equal_self
  | .text s, _ => beq_self_eq_true s
  | .array items, h => by
    rw [WellFormed] at h
    rw [equal]
    exact equalItems_self h
  | .object members, h => by
    rw [WellFormed] at h
    rw [equal, beq_self_eq_true, Bool.true_and]
    exact equalMembers_self h.1 h.2 fun m hm => hm

theorem equalItems_self : ∀ {items : List Value}, WellFormedItems items →
    equalItems items items = true
  | [], _ => rfl
  | v :: vs, h => by
    rw [equalItems, equal_self h.1, equalItems_self h.2]
    rfl

/-- Some of the members of an object, each found among all of them. -/
theorem equalMembers_self : ∀ {some all : List (String × Value)}, Entries.Ordered all →
    WellFormedMembers some → (∀ m ∈ some, m ∈ all) → equalMembers some all = true
  | [], _, _, _, _ => rfl
  | (k, v) :: ms, all, hall, h, hsub => by
    have hlookup := Entries.Ordered.lookup_eq hall (hsub (k, v) List.mem_cons_self)
    have hrest : equalMembers ms all = true :=
      equalMembers_self hall h.2 fun m hm => hsub m (List.mem_cons_of_mem _ hm)
    rw [equalMembers, hlookup, hrest, Bool.and_true]
    exact equal_self h.1

end

end Value

theorem documentsEqual_self {doc : String} (h : (Document.parse? doc).isSome = true) :
    documentsEqual doc doc = true := by
  obtain ⟨v, hv⟩ := Option.isSome_iff_exists.mp h
  have hself := Value.equal_self (Document.wellFormed_of_parse? hv)
  rw [documentsEqual, hv]
  exact hself

end IamConvergence
