/-
Equality of values against the exact values of their numbers. Values with the same numbers are
always equal. The converse needs integers that are floating-point numbers too: two others may be
rounded to one number, and are then equal.
-/
import IamConvergence.Proofs.Document.Alike
import IamConvergence.Proofs.Document.Equality
import IamConvergence.Proofs.Number.Value

namespace IamConvergence

namespace Number

/-- The rational that a number of a document stands for. -/
def value : Number → ℚ
  | .integer i => i
  | .float x => x.value

/-- Whether a number is rounded without loss. -/
def Exact (n : Number) : Prop := ∃ x : Binary64, x.value = n.value

theorem exact_of_natAbs {i : Int} {m t : Nat} (hi : i.natAbs = m * 2 ^ t) (hm : m < 2 ^ 53)
    (ht : t ≤ 971) : (integer i).Exact :=
  Binary64.exists_value_eq hi hm ht

theorem exact_float (x : Binary64) : (float x).Exact := ⟨x, rfl⟩

theorem toBinary64?_of_exact {n : Number} (h : n.Exact) :
    ∃ y, n.toBinary64? = some y ∧ y.value = n.value := by
  obtain ⟨x, hx⟩ := h
  cases n with
  | integer i => exact Binary64.ofInt?_exact hx
  | float y => exact ⟨y, rfl, rfl⟩

theorem equal_iff_value_eq_of_exact {m n : Number} (hm : m.Exact) (hn : n.Exact) :
    m.equal n = true ↔ m.value = n.value := by
  obtain ⟨x, hx, hxm⟩ := toBinary64?_of_exact hm
  obtain ⟨y, hy, hyn⟩ := toBinary64?_of_exact hn
  have hequal : m.equal n = true ↔ m = n ∨ x.same y = true := by
    rw [equal, hx, hy, Bool.or_eq_true, beq_iff_eq]
  rw [hequal, Binary64.same_iff, hxm, hyn]
  exact or_iff_right_of_imp fun heq => heq ▸ rfl

/-- Numbers of one value are equal: two integers are the same one, and an integer of the value of a
floating-point number is rounded to it. -/
theorem equal_of_value_eq {m n : Number} (h : m.value = n.value) : m.equal n = true := by
  have hround : m.Exact → n.Exact → m.equal n = true := fun hm hn =>
    (equal_iff_value_eq_of_exact hm hn).mpr h
  cases m with
  | integer i =>
    cases n with
    | integer j =>
      obtain rfl : i = j := Int.cast_injective h
      exact equal_self _
    | float y => exact hround ⟨y, h.symm⟩ (exact_float y)
  | float x =>
    cases n with
    | integer j => exact hround (exact_float x) ⟨x, h⟩
    | float y => exact hround (exact_float x) (exact_float y)

end Number

namespace Value

/-- One shape, and numbers that stand for the same rationals. -/
abbrev SameNumerically : Value → Value → Prop := Alike fun m n => m.value = n.value

/-- Values that are numerically the same are equal. Equal values are numerically the same where
every number in them is rounded without loss. -/
theorem equal_and_sameNumerically {a b : Value} (ha : a.WellFormed) (hb : b.WellFormed) :
    (SameNumerically a b → a.equal b = true) ∧
      ((∀ n, a.HasNumber n ∨ b.HasNumber n → n.Exact) → a.equal b = true → SameNumerically a b) := by
  constructor
  · intro h
    refine (equal_iff_alike ha hb).mpr (h.mono fun m n _ _ hmn => ?_)
    exact Number.equal_of_value_eq hmn
  · intro hexact h
    refine ((equal_iff_alike ha hb).mp h).mono fun m n hm hn hmn => ?_
    exact (Number.equal_iff_value_eq_of_exact (hexact m (.inl hm)) (hexact n (.inr hn))).mp hmn

/-- The integer `2 ^ 53` and the floating-point number of this value, in a list beside another
integer. -/
theorem equal_and_sameNumerically_mixed :
    let a := Value.array [.int 9007199254740992, .int (-3)]
    let b := Value.array [.number (.float ⟨false, 1076 * Binary64.binade, by decide⟩), .int (-3)]
    a.WellFormed ∧ b.WellFormed ∧ (∀ n, a.HasNumber n ∨ b.HasNumber n → n.Exact) ∧
      a.equal b = true ∧ SameNumerically a b := by
  intro a b
  have ha : a.WellFormed := ⟨⟨by decide, by decide⟩, ⟨by decide, by decide⟩, trivial⟩
  have hb : b.WellFormed := ⟨trivial, ⟨by decide, by decide⟩, trivial⟩
  have hlarge : (Number.integer 9007199254740992).Exact :=
    Number.exact_of_natAbs (m := 1) (t := 53) (by decide) (by decide) (by decide)
  have hsmall : (Number.integer (-3)).Exact :=
    Number.exact_of_natAbs (m := 3) (t := 0) (by decide) (by decide) (by decide)
  have hexact : ∀ n, a.HasNumber n ∨ b.HasNumber n → n.Exact := by
    rintro n (h | h)
    · obtain ⟨v, hv, h⟩ := h.of_array
      simp only [List.mem_cons, List.not_mem_nil, or_false] at hv
      rcases hv with rfl | rfl <;> cases h
      · exact hlarge
      · exact hsmall
    · obtain ⟨v, hv, h⟩ := h.of_array
      simp only [List.mem_cons, List.not_mem_nil, or_false] at hv
      rcases hv with rfl | rfl <;> cases h
      · exact Number.exact_float _
      · exact hsmall
  have hequal : a.equal b = true := by decide +kernel
  exact ⟨ha, hb, hexact, hequal, (equal_and_sameNumerically ha hb).2 hexact hequal⟩

/-- The integers `2 ^ 53` and `2 ^ 53 + 1` are rounded to one number, and are equal although they
differ. -/
theorem equal_of_adjacent :
    (Value.int 9007199254740992).equal (.int 9007199254740993) = true ∧
      ¬ SameNumerically (.int 9007199254740992) (.int 9007199254740993) := by
  refine ⟨by decide +kernel, fun h => ?_⟩
  cases h with
  | number h =>
    have hint : (9007199254740992 : Int) = 9007199254740993 := Int.cast_injective h
    exact absurd hint (by decide)

end Value

end IamConvergence
