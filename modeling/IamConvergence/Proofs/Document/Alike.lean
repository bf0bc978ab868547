/-
Values of one shape: the same constructors, texts and truth values, arrays compared item by item,
objects key by key, and numbers by a relation. Equality of values is this relation over equality of
numbers, although the members of objects are walked in one direction only: of two objects with as
many members each, one that finds all its keys in the other has the same keys.
-/
import Mathlib.Data.List.Perm.Subperm
import IamConvergence.Document.Equality
import IamConvergence.Proofs.Document.WellFormed

namespace IamConvergence

namespace Value

/-! ## Shapes -/

/-- Values of one shape whose numbers are related. -/
inductive Alike (R : Number → Number → Prop) : Value → Value → Prop where
  | null : Alike R .null .null
  | bool (b : Bool) : Alike R (.bool b) (.bool b)
  | number {m n : Number} (h : R m n) : Alike R (.number m) (.number n)
  | text (s : String) : Alike R (.text s) (.text s)
  | array {as bs : List Value} (length : as.length = bs.length)
    (items : ∀ (i : Nat) (a b : Value), as[i]? = some a → bs[i]? = some b → Alike R a b) :
    Alike R (.array as) (.array bs)
  | object {as bs : List (String × Value)}
    (keys : ∀ k, (as.lookup k).isSome = (bs.lookup k).isSome)
    (members : ∀ k a b, as.lookup k = some a → bs.lookup k = some b → Alike R a b) :
    Alike R (.object as) (.object bs)

/-- A number stands in a value, at any depth. -/
inductive HasNumber (n : Number) : Value → Prop where
  | here : HasNumber n (.number n)
  | item {items : List Value} {v : Value} (mem : v ∈ items) (h : HasNumber n v) :
    HasNumber n (.array items)
  | member {members : List (String × Value)} {k : String} {v : Value} (mem : (k, v) ∈ members)
    (h : HasNumber n v) : HasNumber n (.object members)

variable {R S : Number → Number → Prop} {a b : Value} {as bs : List Value}
  {ms ns : List (String × Value)}

theorem HasNumber.of_array {n : Number} (h : (Value.array as).HasNumber n) :
    ∃ v ∈ as, v.HasNumber n := by
  cases h with
  | item mem h => exact ⟨_, mem, h⟩

/-- Only the numbers that stand in the values count. -/
theorem Alike.mono (h : Alike R a b)
    (himp : ∀ m n, a.HasNumber m → b.HasNumber n → R m n → S m n) : Alike S a b := by
  induction h with
  | null => exact .null
  | bool x => exact .bool x
  | number h => exact .number (himp _ _ .here .here h)
  | text s => exact .text s
  | array length items ih =>
    refine .array length fun i a b ha hb => ih i a b ha hb fun m n hm hn => himp m n ?_ ?_
    · exact .item (List.mem_of_getElem? ha) hm
    · exact .item (List.mem_of_getElem? hb) hn
  | object keys members ih =>
    refine .object keys fun k a b ha hb => ih k a b ha hb fun m n hm hn => himp m n ?_ ?_
    · exact .member (Entries.mem_of_lookup ha) hm
    · exact .member (Entries.mem_of_lookup hb) hn

theorem Alike.symm (h : Alike R a b) (hR : ∀ m n, R m n → S n m) : Alike S b a := by
  induction h with
  | null => exact .null
  | bool x => exact .bool x
  | number h => exact .number (hR _ _ h)
  | text s => exact .text s
  | array length items ih => exact .array length.symm fun i b a hb ha => ih i a b ha hb
  | object keys members ih =>
    exact .object (fun k => (keys k).symm) fun k b a hb ha => ih k a b ha hb

theorem Alike.trans {T : Number → Number → Prop} {c : Value} (h : Alike R a b) (h' : Alike S b c)
    (hT : ∀ l m n, R l m → S m n → T l n) : Alike T a c := by
  induction h generalizing c with
  | null => cases h'; exact .null
  | bool x => cases h'; exact .bool x
  | number h =>
    cases h' with
    | number h' => exact .number (hT _ _ _ h h')
  | text s => cases h'; exact .text s
  | @array as bs length items ih =>
    cases h' with
    | @array _ cs length' items' =>
      refine .array (length.trans length') fun i a c ha hc => ?_
      -- the item between them
      have hi : i < bs.length := length ▸ (List.getElem?_eq_some_iff.mp ha).1
      have hb : bs[i]? = some bs[i] := List.getElem?_eq_getElem hi
      exact ih i a bs[i] ha hb (items' i bs[i] c hb hc)
  | @object ms ns keys members ih =>
    cases h' with
    | object keys' members' =>
      refine .object (fun k => (keys k).trans (keys' k)) fun k a c ha hc => ?_
      have hsome : (ns.lookup k).isSome = true := by rw [← keys k, ha]; rfl
      obtain ⟨b, hb⟩ := Option.isSome_iff_exists.mp hsome
      exact ih k a b ha hb (members' k b c hb hc)

/-! ## Equality -/

theorem equalItems_iff : equalItems as bs = true ↔
    as.length = bs.length ∧
      ∀ (i : Nat) (a b : Value), as[i]? = some a → bs[i]? = some b → a.equal b = true := by
  induction as generalizing bs with
  | nil => cases bs <;> simp [equalItems]
  | cons a as ih =>
    cases bs with
    | nil => simp [equalItems]
    | cons b bs =>
      rw [equalItems, Bool.and_eq_true, ih, List.length_cons, List.length_cons,
        Nat.add_right_cancel_iff]
      constructor
      · rintro ⟨hfirst, hlength, hrest⟩
        refine ⟨hlength, fun i x y hx hy => ?_⟩
        cases i with
        | zero => cases hx; cases hy; exact hfirst
        | succ i => exact hrest i x y hx hy
      · rintro ⟨hlength, hall⟩
        exact ⟨hall 0 a b rfl rfl, hlength, fun i x y hx hy => hall (i + 1) x y hx hy⟩

theorem equalMembers_iff : equalMembers ms ns = true ↔
    ∀ k a, (k, a) ∈ ms → ∃ b, ns.lookup k = some b ∧ a.equal b = true := by
  induction ms with
  | nil => simp [equalMembers]
  | cons m ms ih =>
    obtain ⟨k, a⟩ := m
    rw [equalMembers, Bool.and_eq_true, ih]
    constructor
    · rintro ⟨hfirst, hrest⟩ k' a' hmem
      rcases List.mem_cons.mp hmem with heq | hmem
      · cases heq
        cases hlookup : ns.lookup k with
        | none => rw [hlookup] at hfirst; cases hfirst
        | some b => rw [hlookup] at hfirst; exact ⟨b, rfl, hfirst⟩
      · exact hrest k' a' hmem
    · intro hall
      obtain ⟨b, hlookup, hequal⟩ := hall k a List.mem_cons_self
      refine ⟨by rw [hlookup]; exact hequal, fun k' a' hmem => ?_⟩
      exact hall k' a' (List.mem_cons_of_mem _ hmem)

/-- Of two objects with as many members each, one that finds its keys in the other has the same
keys. -/
theorem keys_eq_of_subset (hms : Entries.Ordered ms) (hlength : ms.length = ns.length)
    (hsub : ∀ k a, (k, a) ∈ ms → ∃ b, ns.lookup k = some b) (k : String) :
    (ms.lookup k).isSome = (ns.lookup k).isSome := by
  have hsubset : ms.map (·.1) ⊆ ns.map (·.1) := by
    intro k' hk'
    obtain ⟨⟨_, a⟩, hmem, rfl⟩ := List.mem_map.mp hk'
    obtain ⟨b, hb⟩ := hsub _ a hmem
    exact List.mem_map.mpr ⟨_, Entries.mem_of_lookup hb, rfl⟩
  have hperm : (ms.map (·.1)).Perm (ns.map (·.1)) := by
    refine (List.subperm_of_subset hms.nodup_keys hsubset).perm_of_length_le ?_
    rw [List.length_map, List.length_map]
    exact Nat.le_of_eq hlength.symm
  exact Bool.eq_iff_iff.mpr
    (Entries.lookup_isSome_iff.trans (hperm.mem_iff.trans Entries.lookup_isSome_iff.symm))

theorem length_eq_of_keys (hms : Entries.Ordered ms) (hns : Entries.Ordered ns)
    (h : ∀ k, (ms.lookup k).isSome = (ns.lookup k).isSome) : ms.length = ns.length := by
  have hperm : (ms.map (·.1)).Perm (ns.map (·.1)) := by
    refine (List.perm_ext_iff_of_nodup hms.nodup_keys hns.nodup_keys).mpr fun k => ?_
    rw [← Entries.lookup_isSome_iff, ← Entries.lookup_isSome_iff, h k]
  have hlength := hperm.length_eq
  rwa [List.length_map, List.length_map] at hlength

theorem alike_of_equal : ∀ {a b : Value}, a.WellFormed → b.WellFormed → a.equal b = true →
    Alike (fun m n => m.equal n = true) a b
  | .null, b, _, _, h => by
    cases b with
    | null => exact .null
    | _ => simp [equal] at h
  | .bool x, b, _, _, h => by
    cases b with
    | bool y =>
      obtain rfl : x = y := by simpa [equal] using h
      exact .bool x
    | _ => simp [equal] at h
  | .number m, b, _, _, h => by
    cases b with
    | number n => exact .number (by simpa [equal] using h)
    | _ => simp [equal] at h
  | .text s, b, _, _, h => by
    cases b with
    | text t =>
      obtain rfl : s = t := by simpa [equal] using h
      exact .text s
    | _ => simp [equal] at h
  | .array as, b, ha, hb, h => by
    cases b with
    | array bs =>
      rw [WellFormed, wellFormedItems_iff] at ha hb
      rw [equal] at h
      obtain ⟨hlength, hitems⟩ := equalItems_iff.mp h
      refine .array hlength fun i x y hx hy => ?_
      have hx' : x ∈ as := List.mem_of_getElem? hx
      have hsize : sizeOf x < sizeOf as := List.sizeOf_lt_of_mem hx'
      exact alike_of_equal (ha x hx') (hb y (List.mem_of_getElem? hy)) (hitems i x y hx hy)
    | _ => simp [equal] at h
  | .object ms, b, ha, hb, h => by
    cases b with
    | object ns =>
      rw [WellFormed, wellFormedMembers_iff] at ha hb
      rw [equal, Bool.and_eq_true, beq_iff_eq] at h
      obtain ⟨hlength, hmembers⟩ := h
      have hfound := equalMembers_iff.mp hmembers
      refine .object (keys_eq_of_subset ha.1 hlength ?_) fun k x y hx hy => ?_
      · intro k x hmem
        obtain ⟨y, hy, -⟩ := hfound k x hmem
        exact ⟨y, hy⟩
      · have hx' := Entries.mem_of_lookup hx
        have hsize : sizeOf x < sizeOf ms := by
          have hpair := List.sizeOf_lt_of_mem hx'
          rw [Prod.mk.sizeOf_spec] at hpair
          omega
        obtain ⟨y', hy', hequal⟩ := hfound k x hx'
        obtain rfl : y' = y := Option.some.inj (hy'.symm.trans hy)
        exact alike_of_equal (ha.2 _ hx') (hb.2 _ (Entries.mem_of_lookup hy)) hequal
    | _ => simp [equal] at h
termination_by a => sizeOf a

theorem equal_of_alike (h : Alike (fun m n => m.equal n = true) a b) (ha : a.WellFormed)
    (hb : b.WellFormed) : a.equal b = true := by
  induction h with
  | null => rfl
  | bool x => simp [equal]
  | number h => rw [equal]; exact h
  | text s => simp [equal]
  | array length items ih =>
    rw [WellFormed, wellFormedItems_iff] at ha hb
    rw [equal]
    refine equalItems_iff.mpr ⟨length, fun i x y hx hy => ih i x y hx hy ?_ ?_⟩
    · exact ha x (List.mem_of_getElem? hx)
    · exact hb y (List.mem_of_getElem? hy)
  | @object ms ns keys members ih =>
    rw [WellFormed, wellFormedMembers_iff] at ha hb
    rw [equal, Bool.and_eq_true, beq_iff_eq]
    refine ⟨length_eq_of_keys ha.1 hb.1 keys, equalMembers_iff.mpr fun k x hmem => ?_⟩
    have hx : ms.lookup k = some x := Entries.Ordered.lookup_eq ha.1 hmem
    have hsome : (ns.lookup k).isSome = true := by rw [← keys k, hx]; rfl
    obtain ⟨y, hy⟩ := Option.isSome_iff_exists.mp hsome
    exact ⟨y, hy, ih k x y hx hy (ha.2 _ hmem) (hb.2 _ (Entries.mem_of_lookup hy))⟩

/-- Values are equal if they have one shape and equal numbers. -/
theorem equal_iff_alike (ha : a.WellFormed) (hb : b.WellFormed) :
    a.equal b = true ↔ Alike (fun m n => m.equal n = true) a b :=
  ⟨alike_of_equal ha hb, fun h => equal_of_alike h ha hb⟩

end Value

end IamConvergence
