/-
Entry lists: what is put into one was given, and of entries in key order each is found under its
key, which no other entry has. Tables by what is found in them.
-/
import Mathlib.Data.List.Nodup
import IamConvergence.Ordered.Table

namespace IamConvergence

variable {β : Type u}

namespace Entries

theorem mem_foldl_insert {e : String × β} : ∀ {es acc : List (String × β)},
    e ∈ es.foldl (fun acc e => insert e.1 e.2 acc) acc → e ∈ es ∨ e ∈ acc
  | [], _, h => .inr h
  | d :: es, acc, h => by
    rw [List.foldl_cons] at h
    rcases mem_foldl_insert h with h | h
    · exact .inl (List.mem_cons_of_mem _ h)
    · rcases mem_insert h with rfl | h
      · exact .inl List.mem_cons_self
      · exact .inr h

theorem mem_ofList {e : String × β} {es : List (String × β)} (h : e ∈ ofList es) : e ∈ es :=
  (mem_foldl_insert h).resolve_right List.not_mem_nil

theorem mem_of_lookup {k : String} {v : β} {es : List (String × β)} (h : es.lookup k = some v) :
    (k, v) ∈ es := by
  obtain ⟨l₁, l₂, rfl, -⟩ := List.lookup_eq_some_iff.mp h
  exact List.mem_append_right _ List.mem_cons_self

theorem lookup_isSome_iff {k : String} {es : List (String × β)} :
    (es.lookup k).isSome = true ↔ k ∈ es.map (·.1) := by
  induction es with
  | nil => simp
  | cons e es ih => grind

theorem Ordered.nodup_keys {es : List (String × β)} (h : Ordered es) : (es.map (·.1)).Nodup :=
  List.pairwise_map.mpr (h.imp fun {a b} (hlt : a.1 < b.1) (heq : a.1 = b.1) =>
    String.lt_irrefl b.1 (heq ▸ hlt))

/-- Entries in key order are found under their keys. -/
theorem Ordered.lookup_eq {k : String} {v : β} : ∀ {es : List (String × β)}, Ordered es →
    (k, v) ∈ es → es.lookup k = some v
  | (k', v') :: es, h, hmem => by
    obtain ⟨hfirst, hrest⟩ := List.pairwise_cons.mp h
    rw [List.lookup_cons]
    rcases List.mem_cons.mp hmem with heq | hmem
    · cases heq
      rw [beq_self_eq_true]
    · have hlt : k' < k := hfirst _ hmem
      have hne : (k == k') = false := by
        refine beq_eq_false_iff_ne.mpr fun heq => ?_
        exact String.lt_irrefl k' (heq ▸ hlt)
      rw [hne]
      exact Ordered.lookup_eq hrest hmem

/-- To put under a key what stands there changes nothing. -/
theorem Ordered.insert_of_mem {k : String} {v : β} : ∀ {es : List (String × β)}, Ordered es →
    (k, v) ∈ es → Entries.insert k v es = es
  | (k', v') :: es, h, hmem => by
    obtain ⟨hfirst, hrest⟩ := List.pairwise_cons.mp h
    rw [Entries.insert]
    rcases List.mem_cons.mp hmem with heq | hmem
    · cases heq
      rw [if_neg (String.lt_irrefl k), if_pos rfl]
    · have hlt : k' < k := hfirst _ hmem
      have hne : k ≠ k' := fun heq => String.lt_irrefl k' (heq ▸ hlt)
      rw [if_neg (String.lt_asymm hlt), if_neg hne, Ordered.insert_of_mem hrest hmem]

theorem insert_perm {k : String} {v : β} {es : List (String × β)} (hnew : k ∉ es.map (·.1)) :
    (insert k v es).Perm ((k, v) :: es) := by
  induction es with
  | nil => exact .refl _
  | cons e es ih =>
    rw [List.map_cons, List.mem_cons, not_or] at hnew
    rw [insert]
    split
    · exact .refl _
    · rw [if_neg hnew.1]
      exact ((ih hnew.2).cons e).trans (.swap _ _ _)

theorem foldl_insert_perm : ∀ {es acc : List (String × β)}, ((acc ++ es).map (·.1)).Nodup →
    (es.foldl (fun acc e => insert e.1 e.2 acc) acc).Perm (acc ++ es)
  | [], acc, _ => by rw [List.append_nil]; exact .refl _
  | e :: es, acc, h => by
    have hnew : e.1 ∉ acc.map (·.1) := by
      rw [List.map_append, List.map_cons] at h
      exact fun hmem => (List.nodup_append.mp h).2.2 _ hmem _ List.mem_cons_self rfl
    have hmoved : (insert e.1 e.2 acc ++ es).Perm (acc ++ e :: es) :=
      ((insert_perm hnew).append_right es).trans List.perm_middle.symm
    have hkeys : ((insert e.1 e.2 acc ++ es).map (·.1)).Nodup :=
      (hmoved.map (·.1)).nodup_iff.mpr h
    rw [List.foldl_cons]
    exact (foldl_insert_perm hkeys).trans hmoved

/-- Entries in any order are put back into key order. -/
theorem Ordered.ofList_of_perm {es ds : List (String × β)} (h : Ordered es) (hperm : ds.Perm es) :
    ofList ds = es := by
  have hkeys : (ds.map (·.1)).Nodup := (hperm.map (·.1)).nodup_iff.mpr h.nodup_keys
  have hds : (ofList ds).Perm ds := foldl_insert_perm hkeys
  refine List.Perm.eq_of_pairwise (fun d e _ _ hde hed => ?_) (ordered_ofList ds) h
    (hds.trans hperm)
  exact absurd hed (String.lt_asymm hde)

/-- Of two values put under a key the last one counts. -/
theorem insert_insert (k : String) (v w : β) (es : List (String × β)) :
    insert k v (insert k w es) = insert k v es := by
  induction es with
  | nil => simp [insert]
  | cons e es ih => grind [insert, String.lt_irrefl]

end Entries

namespace Table

variable {t : Table β} {k k' : String} {v w : β}

theorem not_contains_iff : ¬t.contains k = true ↔ t.find? k = none := by
  unfold contains
  cases t.find? k <;> simp

theorem mem_values_iff : v ∈ t.values ↔ ∃ k, t.find? k = some v := by
  unfold values find?
  constructor
  · intro h
    obtain ⟨⟨k, v⟩, hmem, rfl⟩ := List.mem_map.mp h
    exact ⟨k, t.ordered.lookup_eq hmem⟩
  · rintro ⟨k, h⟩
    exact List.mem_map.mpr ⟨(k, v), Entries.mem_of_lookup h, rfl⟩

/-- What is found after something was put under a key. -/
theorem find?_insert_eq_some_iff :
    (t.insert k v).find? k' = some w ↔ (k' = k ∧ v = w) ∨ (k' ≠ k ∧ t.find? k' = some w) := by
  by_cases hk : k' = k
  · rw [hk, find?_insert_self]
    simp
  · rw [find?_insert_of_ne t v hk]
    simp [hk]

/-- What is found is still found, if not as it was, after something was put under a key. -/
theorem exists_find?_insert (h : t.find? k' = some w) :
    ∃ w', (t.insert k v).find? k' = some w' := by
  by_cases hk : k' = k
  · exact ⟨v, by rw [hk, find?_insert_self]⟩
  · exact ⟨w, by rw [find?_insert_of_ne t v hk, h]⟩

theorem insert_of_find? (h : t.find? k = some v) : t.insert k v = t := by
  have hentries : Entries.insert k v t.entries = t.entries :=
    t.ordered.insert_of_mem (Entries.mem_of_lookup h)
  unfold insert
  congr

theorem insert_insert (t : Table β) (k : String) (v w : β) :
    (t.insert k w).insert k v = t.insert k v := by
  unfold insert
  simp only [Entries.insert_insert]

theorem find?_of_find?_erase (h : (t.erase k).find? k' = some v) : t.find? k' = some v := by
  by_cases hk : k' = k
  · rw [hk, find?_erase_self] at h
    cases h
  · rwa [find?_erase_of_ne t hk] at h

end Table

end IamConvergence
