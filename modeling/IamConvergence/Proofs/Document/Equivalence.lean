/-
Equality as an equivalence. Two numbers are equal when they are the same one or are rounded to the
same value. This is an equivalence because a number is rounded to one value only, and so equality of
values is one, although of two objects only the members of the first are looked up in the other. Of
documents it is an equivalence of those that can be read; one that cannot be read equals none.
-/
import IamConvergence.Proofs.Document.Alike
import IamConvergence.Proofs.Document.Equality
import IamConvergence.Proofs.Number.Value

namespace IamConvergence

/-! ## Numbers -/

namespace Number

/-- The value of the floating-point number to which a number is rounded. -/
def rounded? (n : Number) : Option ℚ := n.toBinary64?.map Binary64.value

variable {l m n : Number}

theorem equal_iff : m.equal n = true ↔
    m = n ∨ ∃ q, m.rounded? = some q ∧ n.rounded? = some q := by
  rw [equal, Bool.or_eq_true, beq_iff_eq, rounded?, rounded?]
  refine or_congr_right ?_
  cases m.toBinary64? with
  | none => simp
  | some x =>
    cases n.toBinary64? with
    | none => simp
    | some y =>
      dsimp only [Option.map_some]
      rw [Binary64.same_iff]
      refine ⟨fun h => ⟨_, congrArg some h, rfl⟩, ?_⟩
      rintro ⟨q, hx, hy⟩
      exact Option.some.inj (hx.trans hy.symm)

theorem equal_symm (h : m.equal n = true) : n.equal m = true := by
  rw [equal_iff] at *
  rcases h with rfl | ⟨q, hm, hn⟩
  · exact .inl rfl
  · exact .inr ⟨q, hn, hm⟩

theorem equal_trans (h : l.equal m = true) (h' : m.equal n = true) : l.equal n = true := by
  rw [equal_iff] at *
  rcases h with rfl | ⟨q, hl, hm⟩
  · exact h'
  · rcases h' with rfl | ⟨q', hm', hn⟩
    · exact .inr ⟨q, hl, hm⟩
    · obtain rfl : q = q' := Option.some.inj (hm.symm.trans hm')
      exact .inr ⟨q, hl, hn⟩

end Number

/-! ## Values -/

namespace Value

variable {a b c : Value}

theorem equal_symm (ha : a.WellFormed) (hb : b.WellFormed) (h : a.equal b = true) :
    b.equal a = true :=
  (equal_iff_alike hb ha).mpr
    (((equal_iff_alike ha hb).mp h).symm fun _ _ hmn => Number.equal_symm hmn)

theorem equal_trans (ha : a.WellFormed) (hb : b.WellFormed) (hc : c.WellFormed)
    (h : a.equal b = true) (h' : b.equal c = true) : a.equal c = true := by
  have hab := (equal_iff_alike ha hb).mp h
  have hbc := (equal_iff_alike hb hc).mp h'
  exact (equal_iff_alike ha hc).mpr (hab.trans hbc fun _ _ _ hlm hmn => Number.equal_trans hlm hmn)

end Value

/-! ## Documents -/

/-- A relation that is an equivalence of the things of one kind, and relates no others. -/
structure EquivalenceOf {α : Type} (kind : α → Prop) (r : α → α → Bool) : Prop where
  refl_iff : ∀ a, r a a = true ↔ kind a
  symm : ∀ a b, r a b = true → r b a = true
  trans : ∀ a b c, r a b = true → r b c = true → r a c = true

namespace EquivalenceOf

variable {α : Type} {kind : α → Prop} {r : α → α → Bool} {a a' b b' : α}

theorem kind_left (h : EquivalenceOf kind r) (hab : r a b = true) : kind a :=
  (h.refl_iff a).mp (h.trans a b a hab (h.symm a b hab))

theorem kind_right (h : EquivalenceOf kind r) (hab : r a b = true) : kind b :=
  h.kind_left (h.symm a b hab)

/-- What is related may stand for one another. -/
theorem congr (h : EquivalenceOf kind r) (ha : r a a' = true) (hb : r b b' = true) :
    r a b = r a' b' := by
  refine Bool.eq_iff_iff.mpr ⟨fun hab => ?_, fun hab => ?_⟩
  · exact h.trans a' b b' (h.trans a' a b (h.symm a a' ha) hab) hb
  · exact h.trans a b' b (h.trans a a' b' ha hab) (h.symm b b' hb)

end EquivalenceOf

theorem documentsEqual_iff {d e : String} : documentsEqual d e = true ↔
    ∃ x y, Document.parse? d = some x ∧ Document.parse? e = some y ∧ x.equal y = true := by
  rw [documentsEqual]
  cases Document.parse? d with
  | none => simp
  | some x =>
    cases Document.parse? e with
    | none => simp
    | some y => simp

theorem equivalenceOf_documentsEqual :
    EquivalenceOf (fun d => (Document.parse? d).isSome = true) documentsEqual where
  refl_iff d := by
    constructor
    · intro h
      obtain ⟨x, -, hx, -, -⟩ := documentsEqual_iff.mp h
      rw [hx]
      rfl
    · exact documentsEqual_self
  symm d e h := by
    obtain ⟨x, y, hx, hy, hxy⟩ := documentsEqual_iff.mp h
    have hyx := Value.equal_symm (Document.wellFormed_of_parse? hx)
      (Document.wellFormed_of_parse? hy) hxy
    exact documentsEqual_iff.mpr ⟨y, x, hy, hx, hyx⟩
  trans d e f h h' := by
    obtain ⟨x, y, hx, hy, hxy⟩ := documentsEqual_iff.mp h
    obtain ⟨y', z, hy', hz, hyz⟩ := documentsEqual_iff.mp h'
    obtain rfl : y = y' := Option.some.inj (hy.symm.trans hy')
    have hxz := Value.equal_trans (Document.wellFormed_of_parse? hx)
      (Document.wellFormed_of_parse? hy) (Document.wellFormed_of_parse? hz) hxy hyz
    exact documentsEqual_iff.mpr ⟨x, z, hx, hz, hxz⟩

/-- Equality is an equivalence of all well-formed values, and of the documents that can be read. So
equal documents can be read, and whether two documents are equal does not change when equal ones are
put in their places. -/
theorem equality_equivalence :
    Equivalence (fun a b : { v : Value // v.WellFormed } => a.1.equal b.1 = true) ∧
    EquivalenceOf (fun d => (Document.parse? d).isSome = true) documentsEqual ∧
    (∀ d e, documentsEqual d e = true →
      (Document.parse? d).isSome = true ∧ (Document.parse? e).isSome = true) ∧
    ∀ d d' e e', documentsEqual d d' = true → documentsEqual e e' = true →
      documentsEqual d e = documentsEqual d' e' := by
  have hdocuments := equivalenceOf_documentsEqual
  refine ⟨?_, hdocuments, ?_, ?_⟩
  · constructor
    · intro a
      exact Value.equal_self a.2
    · intro a b h
      exact Value.equal_symm a.2 b.2 h
    · intro a b c h h'
      exact Value.equal_trans a.2 b.2 c.2 h h'
  · intro d e h
    exact ⟨hdocuments.kind_left h, hdocuments.kind_right h⟩
  · intro d d' e e' hd he
    exact hdocuments.congr hd he

/-- Three forms of one document, and a document with another number. -/
theorem equality_equivalence_mixed :
    let d := "\x7b\"n\":[1,-2,150],\"m\":null\x7d"
    let d' := "\x7b\"m\": null, \"n\": [1.0, -2, 1.5e2]\x7d"
    let d'' := "\x7b\"n\": [10e-1, -20.0e-1, 150], \"m\": null\x7d"
    let e := "\x7b\"n\":[1,-2,151],\"m\":null\x7d"
    documentsEqual d d' = true ∧ documentsEqual d' d'' = true ∧ documentsEqual d d'' = true ∧
      documentsEqual e e = true ∧ documentsEqual d e = false ∧ documentsEqual d'' e = false ∧
      (Document.parse? d).isSome = true := by
  intro d d' d'' e
  obtain ⟨-, hdocuments, hread, hcongr⟩ := equality_equivalence
  have hd : documentsEqual d d' = true := by decide +kernel
  have hd' : documentsEqual d' d'' = true := by decide +kernel
  have hd'' : documentsEqual d d'' = true := hdocuments.trans d d' d'' hd hd'
  have he : documentsEqual e e = true := (hdocuments.refl_iff e).mpr (by decide +kernel)
  have hdiffer : documentsEqual d e = false := by decide +kernel
  have hdiffer' : documentsEqual d'' e = false := (hcongr d d'' e e hd'' he).symm.trans hdiffer
  exact ⟨hd, hd', hd'', he, hdiffer, hdiffer', (hread d d' hd).1⟩

end IamConvergence
