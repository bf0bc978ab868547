/-
Tables keyed by text: the list of entries in strictly increasing key order, so that two tables with
the same entries are equal and every listing comes out in key order. The order of keys is the order
of their code points.
-/
namespace IamConvergence

/-! ## Entry lists -/

/-- A list of entries whose keys strictly increase. -/
abbrev Entries.Ordered {β : Type u} (es : List (String × β)) : Prop :=
  es.Pairwise (fun a b => a.1 < b.1)

namespace Entries

variable {β : Type u}

/-- Puts `v` under `k`, in place of an entry that is already there. -/
def insert (k : String) (v : β) : List (String × β) → List (String × β)
  | [] => [(k, v)]
  | (k', v') :: es =>
    if k < k' then (k, v) :: (k', v') :: es
    else if k = k' then (k, v) :: es
    else (k', v') :: insert k v es

/-- Drops the entry under `k`. -/
def erase (k : String) (es : List (String × β)) : List (String × β) :=
  es.filter (fun e => e.1 != k)

/-- The entries of a list in key order; of several under one key the last counts. -/
def ofList (es : List (String × β)) : List (String × β) :=
  es.foldl (fun acc e => insert e.1 e.2 acc) []

theorem lt_of_not_lt_of_ne {a b : String} (h : ¬ a < b) (hne : a ≠ b) : b < a := by
  rcases String.le_total a b with hab | hba
  · exact absurd (String.le_antisymm hab (String.not_lt.mp h)) hne
  · exact String.not_le.mp fun hab => hne (String.le_antisymm hab hba)

theorem mem_insert {k : String} {v : β} {e : String × β} {es : List (String × β)}
    (h : e ∈ insert k v es) : e = (k, v) ∨ e ∈ es := by
  induction es with
  | nil => simpa [insert] using h
  | cons hd tl ih => grind [insert]

theorem Ordered.insert (k : String) (v : β) {es : List (String × β)} (h : Ordered es) :
    Ordered (Entries.insert k v es) := by
  induction es with
  | nil => simp [Entries.insert]
  | cons hd tl ih =>
    obtain ⟨k', v'⟩ := hd
    obtain ⟨hhd, htl⟩ := List.pairwise_cons.mp h
    unfold Entries.insert
    split
    · rename_i hlt
      exact List.pairwise_cons.mpr ⟨fun e he => (List.mem_cons.mp he).elim
        (fun heq => heq ▸ hlt) (fun hmem => String.lt_trans hlt (hhd e hmem)), h⟩
    · split
      · rename_i heq
        exact List.pairwise_cons.mpr ⟨fun e he => heq ▸ hhd e he, htl⟩
      · rename_i hlt hne
        exact List.pairwise_cons.mpr ⟨fun e he => (mem_insert he).elim
          (fun heq => heq ▸ lt_of_not_lt_of_ne hlt hne) (hhd e), ih htl⟩

theorem Ordered.erase (k : String) {es : List (String × β)} (h : Ordered es) :
    Ordered (Entries.erase k es) :=
  h.sublist List.filter_sublist

theorem Ordered.foldl_insert (es : List (String × β)) {acc : List (String × β)}
    (h : Ordered acc) :
    Ordered (es.foldl (fun acc e => Entries.insert e.1 e.2 acc) acc) := by
  induction es generalizing acc with
  | nil => exact h
  | cons e es ih => exact ih (h.insert e.1 e.2)

theorem ordered_ofList (es : List (String × β)) : Ordered (ofList es) :=
  Ordered.foldl_insert es List.Pairwise.nil

theorem lookup_insert_self (k : String) (v : β) (es : List (String × β)) :
    (insert k v es).lookup k = some v := by
  induction es with
  | nil => simp [insert]
  | cons hd tl ih => grind [insert]

theorem lookup_insert_of_ne {k k' : String} (v : β) (es : List (String × β)) (h : k' ≠ k) :
    (insert k v es).lookup k' = es.lookup k' := by
  induction es with
  | nil => simp [insert, List.lookup_cons, beq_eq_false_iff_ne.mpr h]
  | cons hd tl ih => grind [insert]

end Entries

/-! ## Tables -/

/-- A finite map from keys to values, listed in key order. -/
structure Table (β : Type u) where
  entries : List (String × β)
  ordered : Entries.Ordered entries := by simp
  deriving DecidableEq

namespace Table

variable {β : Type u}

/-- The table without entries. -/
def empty : Table β := ⟨[], List.Pairwise.nil⟩

/-- The table of a list of entries; of several under one key the last counts. -/
def ofList (es : List (String × β)) : Table β := ⟨Entries.ofList es, Entries.ordered_ofList es⟩

/-- The value under a key. -/
def find? (t : Table β) (k : String) : Option β := t.entries.lookup k

/-- Whether a key has an entry. -/
def contains (t : Table β) (k : String) : Bool := (t.find? k).isSome

/-- Puts a value under a key. -/
def insert (t : Table β) (k : String) (v : β) : Table β :=
  ⟨Entries.insert k v t.entries, t.ordered.insert k v⟩

/-- Drops the entry under a key. -/
def erase (t : Table β) (k : String) : Table β :=
  ⟨Entries.erase k t.entries, t.ordered.erase k⟩

/-- The values in key order. -/
def values (t : Table β) : List β := t.entries.map (·.2)

/-- Whether there is no entry. -/
def isEmpty (t : Table β) : Bool := t.entries.isEmpty

@[simp] theorem find?_empty (k : String) : (empty : Table β).find? k = none := rfl

@[simp] theorem find?_insert_self (t : Table β) (k : String) (v : β) :
    (t.insert k v).find? k = some v :=
  Entries.lookup_insert_self k v t.entries

theorem find?_insert_of_ne (t : Table β) {k k' : String} (v : β) (h : k' ≠ k) :
    (t.insert k v).find? k' = t.find? k' :=
  Entries.lookup_insert_of_ne v t.entries h

theorem find?_erase_self (t : Table β) (k : String) : (t.erase k).find? k = none := by
  simp only [find?, erase, Entries.erase]
  induction t.entries with
  | nil => rfl
  | cons e es ih => grind

theorem find?_erase_of_ne (t : Table β) {k k' : String} (h : k' ≠ k) :
    (t.erase k).find? k' = t.find? k' := by
  simp only [find?, erase, Entries.erase]
  induction t.entries with
  | nil => rfl
  | cons e es ih => grind

end Table

end IamConvergence
