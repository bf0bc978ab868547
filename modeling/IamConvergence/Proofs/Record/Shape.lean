/-
What makes a record. A field takes a value, or the lack of one; a shape takes one of these for each
of its fields, and the record that is made of them is read from the object of the values that are
there. Fields and records are put together by the rules of the shapes, so that a record is read back
when each of its fields is.
-/
import Mathlib.Data.List.Nodup
import IamConvergence.Proofs.Account.Operations
import IamConvergence.Iam.Config
import IamConvergence.Proofs.Instant.Rfc3339
import IamConvergence.Record.Shape

namespace IamConvergence

variable {α β ε : Type}

/-! ## Members under different names -/

namespace Entries

/-- Of members under different names each is found under its own. -/
theorem lookup_ofList {es : List (String × β)} (h : (es.map (·.1)).Nodup) {k : String} {v : β}
    (hmem : (k, v) ∈ es) : (ofList es).lookup k = some v := by
  have hperm : (ofList es).Perm es := foldl_insert_perm h
  exact (ordered_ofList es).lookup_eq (hperm.mem_iff.mpr hmem)

theorem lookup_ofList_eq_none {es : List (String × β)} {k : String} (h : k ∉ es.map (·.1)) :
    (ofList es).lookup k = none := by
  cases hfind : (ofList es).lookup k with
  | none => rfl
  | some v => exact absurd (List.mem_map_of_mem (mem_ofList (mem_of_lookup hfind))) h

/-- The members that are present. -/
def present (ms : List (String × Option β)) : List (String × β) :=
  ms.filterMap fun (k, v) => v.map (k, ·)

variable {ms : List (String × Option β)} {k : String}

theorem mem_present {v : β} : (k, v) ∈ present ms ↔ (k, some v) ∈ ms := by
  unfold present
  rw [List.mem_filterMap]
  constructor
  · rintro ⟨⟨k', v'⟩, hmem, heq⟩
    cases v' with
    | none => cases heq
    | some v' =>
      cases heq
      exact hmem
  · intro h
    exact ⟨(k, some v), h, rfl⟩

theorem nodup_present (h : (ms.map (·.1)).Nodup) : ((present ms).map (·.1)).Nodup := by
  refine List.pairwise_map.mpr ((List.pairwise_map.mp h).filterMap _ ?_)
  intro m m' hne e he e' he'
  obtain ⟨v, -, rfl⟩ := Option.map_eq_some_iff.mp he
  obtain ⟨v', -, rfl⟩ := Option.map_eq_some_iff.mp he'
  exact hne

theorem value_eq (h : (ms.map (·.1)).Nodup) {v w : Option β} (hv : (k, v) ∈ ms)
    (hw : (k, w) ∈ ms) : v = w :=
  congrArg Prod.snd (List.inj_on_of_nodup_map h hv hw rfl)

/-- Members are found among those that are present as they were given. -/
theorem lookup_present (h : (ms.map (·.1)).Nodup) {v : Option β} (hmem : (k, v) ∈ ms) :
    (ofList (present ms)).lookup k = v := by
  cases v with
  | some v => exact lookup_ofList (nodup_present h) (mem_present.mpr hmem)
  | none =>
    refine lookup_ofList_eq_none fun hk => ?_
    obtain ⟨⟨k', v⟩, hv, rfl⟩ := List.mem_map.mp hk
    cases value_eq h hmem (mem_present.mp hv)

end Entries

/-! ## Fields -/

/-- The value of a field, by what is given for it. -/
def Field.Takes (f : Field α) : Option Value → α → Prop
  | some v, x => f.decode v = .ok x
  | none, x => f.absent = some x

theorem Source.read_eq_ok_iff {src : Source} {place : Nat} {f : Field α} {x : α} :
    src.read place f = .ok x ↔ f.Takes (src.value? f.name place) x := by
  unfold Source.read Field.Takes
  cases src.value? f.name place with
  | some v => rfl
  | none => cases f.absent <;> simp

/-! ## Values of fields -/

/-- An integer of 32 bits. -/
def IsInt32 (i : Int) : Prop := -twoPow 31 ≤ i ∧ i < twoPow 31

namespace Decode

theorem mapM_map {f : α → β} {g : β → Except ε α} (hg : ∀ a, g (f a) = .ok a) (as : List α) :
    (as.map f).mapM g = .ok as := by
  induction as with
  | nil => rfl
  | cons a as ih =>
    rw [List.map_cons, List.mapM_cons, hg, ok_bind, ih, ok_bind]
    rfl

theorem texts_texts (xs : List String) : texts (.texts xs) = .ok xs := by
  refine mapM_map ?_ xs
  exact fun _ => rfl

theorem textTable_textTable (t : Table String) : textTable (.textTable t) = .ok t := by
  have hentries := t.ordered.ofList_of_perm (.refl t.entries)
  unfold textTable Value.textTable
  dsimp only
  rw [mapM_map, ok_bind, Table.ofList]
  · congr
  · exact fun _ => rfl

theorem int32_int {i : Int} (h : IsInt32 i) : int32 (.int i) = .ok i := if_pos h

theorem isInt32_of_int32 {v : Value} {i : Int} (h : int32 v = .ok i) : IsInt32 i := by
  cases v with
  | number n =>
    cases n with
    | integer j =>
      unfold int32 integer at h
      dsimp only at h
      split at h
      · rename_i hrange
        cases h
        exact hrange
      · cases h
    | float x => cases h
  | null | bool _ | text _ | array _ | object _ => cases h

theorem instant_render {t : Instant} (h : t.Valid) :
    instant (.text (Rfc3339.render t)) = .ok t := by
  rw [instant, Rfc3339.parse_render h]
  rfl

theorem valid_of_instant {v : Value} {t : Instant} (h : instant v = .ok t) : t.Valid := by
  cases v with
  | text s =>
    rw [instant] at h
    cases hparse : Rfc3339.parse s with
    | error fault =>
      rw [hparse] at h
      cases h
    | ok t' =>
      rw [hparse] at h
      cases h
      exact Rfc3339.valid_of_parse hparse
  | null | bool _ | number _ | array _ | object _ => cases h

end Decode

namespace Field

variable (name : String)

theorem takes_text (absent : Option String) (s : String) :
    (⟨name, Decode.text, absent⟩ : Field String).Takes (some (.text s)) s := rfl

theorem takes_bool (absent : Option Bool) (b : Bool) :
    (⟨name, Decode.bool, absent⟩ : Field Bool).Takes (some (.bool b)) b := rfl

theorem takes_anything (absent : Option Value) (v : Value) :
    (⟨name, Decode.anything, absent⟩ : Field Value).Takes (some v) v := rfl

theorem takes_int32 (absent : Option Int) {i : Int} (h : IsInt32 i) :
    (⟨name, Decode.int32, absent⟩ : Field Int).Takes (some (.int i)) i := by
  dsimp only [Takes]
  exact Decode.int32_int h

theorem isInt32_of_takes {name : String} {absent : Option Int} {v : Option Value} {i : Int}
    (habsent : ∀ i ∈ absent, IsInt32 i)
    (h : (⟨name, Decode.int32, absent⟩ : Field Int).Takes v i) : IsInt32 i := by
  cases v with
  | some v => exact Decode.isInt32_of_int32 h
  | none => exact habsent i h

theorem takes_texts (absent : Option (List String)) (xs : List String) :
    (⟨name, Decode.texts, absent⟩ : Field (List String)).Takes (some (.texts xs)) xs := by
  dsimp only [Takes]
  exact Decode.texts_texts xs

theorem takes_textTable (absent : Option (Table String)) (t : Table String) :
    (⟨name, Decode.textTable, absent⟩ : Field (Table String)).Takes (some (.textTable t)) t := by
  dsimp only [Takes]
  exact Decode.textTable_textTable t

theorem takes_instant (absent : Option Instant) {t : Instant} (h : t.Valid) :
    (⟨name, Decode.instant, absent⟩ : Field Instant).Takes
      (some (.text (Rfc3339.render t))) t := by
  dsimp only [Takes]
  exact Decode.instant_render h

theorem valid_of_takes {name : String} {v : Option Value} {t : Instant}
    (h : (⟨name, Decode.instant, none⟩ : Field Instant).Takes v t) : t.Valid := by
  cases v with
  | some v => exact Decode.valid_of_instant h
  | none => cases h

theorem takes_presentText (s : String) :
    (⟨name, Decode.text, some ""⟩ : Field String).Takes (presentText s) s := by
  unfold presentText
  split
  · rename_i hempty
    rw [String.isEmpty_iff.mp hempty]
    rfl
  · rfl

theorem takes_presentTable (t : Table String) :
    (⟨name, Decode.textTable, some .empty⟩ : Field (Table String)).Takes (presentTable t) t := by
  unfold presentTable
  split
  · rename_i hempty
    obtain ⟨es, h⟩ := t
    cases List.isEmpty_iff.mp hempty
    rfl
  · exact takes_textTable name _ t

/-- A list of texts that is left out when it is empty. -/
theorem takes_presentTexts (xs : List String) :
    (⟨name, Decode.texts, some []⟩ : Field (List String)).Takes
      (if xs.isEmpty then none else some (.texts xs)) xs := by
  split
  · rename_i hempty
    rw [List.isEmpty_iff.mp hempty]
    rfl
  · exact takes_texts name _ xs

theorem takes_optionalText (s : Option String) :
    (⟨name, Decode.optionalText, some none⟩ : Field (Option String)).Takes (s.map .text) s := by
  cases s <;> rfl

end Field

/-! ## Shapes -/

namespace Shape

/-- What a shape makes with one field more. -/
theorem build_field {s : Shape (β → α)} {f : Field β} {src : Source} {x : α} :
    (s.field f).build src = .ok x ↔ ∃ make, s.build src = .ok make ∧
      ∃ y, f.Takes (src.value? f.name s.checks.length) y ∧ make y = x := by
  change (s.build src >>= fun make => src.read s.checks.length f >>= fun y => .ok (make y)) = _ ↔ _
  simp only [bind_eq_ok_iff, Source.read_eq_ok_iff, Except.ok.injEq]

/-- Whatever a shape makes of a source meets a condition. -/
def Ensures (s : Shape α) (src : Source) (P : α → Prop) : Prop := ∀ x, s.build src = .ok x → P x

theorem Ensures.of {x : α} {src : Source} {P : α → Prop} (h : P x) :
    (Shape.of x).Ensures src P := by
  intro y hy
  cases hy
  exact h

theorem Ensures.field {s : Shape (β → α)} {f : Field β} {src : Source} {P : α → Prop}
    (h : s.Ensures src fun make =>
      ∀ y, f.Takes (src.value? f.name s.checks.length) y → P (make y)) :
    (s.field f).Ensures src P := by
  intro x hx
  obtain ⟨make, hmake, y, hy, rfl⟩ := build_field.mp hx
  exact h make hmake y hy

theorem decode_object_eq_ok_iff {s : Shape α} {record : String} {ms : List (String × Value)}
    {x : α} : s.decode record (.object ms) = .ok x ↔
      s.memberFault? ms = none ∧ s.build (.ofMembers ms) = .ok x := by
  unfold decode
  dsimp only
  cases s.memberFault? ms <;> simp

theorem decode_array_eq_ok_iff {s : Shape α} {record : String} {vs : List Value} {x : α} :
    s.decode record (.array vs) = .ok x ↔
      s.build (.ofItems record s.checks.length vs) = .ok x ∧ vs.length ≤ s.checks.length := by
  unfold decode
  dsimp only
  rw [bind_eq_ok_iff]
  constructor
  · rintro ⟨y, hbuild, h⟩
    split at h
    · rename_i hlength
      cases h
      exact ⟨hbuild, hlength⟩
    · cases h
  · rintro ⟨hbuild, hlength⟩
    exact ⟨x, hbuild, if_pos hlength⟩

/-- A record is made of one of the sources that a value can be. -/
theorem Ensures.of_decode {s : Shape α} {P : α → Prop} (h : ∀ src, s.Ensures src P)
    {record : String} {v : Value} {x : α} (hdecode : s.decode record v = .ok x) : P x := by
  cases v with
  | object ms => exact h _ x (decode_object_eq_ok_iff.mp hdecode).2
  | array vs => exact h _ x (decode_array_eq_ok_iff.mp hdecode).1
  | null | bool _ | number _ | text _ => cases hdecode

/-- What is given for the fields of a shape, in their order, and the record that is made of it. -/
structure Takes (s : Shape α) (ms : List (String × Option Value)) (x : α) : Prop where
  length : s.checks.length = ms.length
  /-- What is given for a field passes its check. -/
  pass : ∀ c ∈ s.checks, ∃ v, (c.1, v) ∈ ms ∧ ∀ w ∈ v, c.2 w = none
  build : ∀ src : Source, (∀ i k v, ms[i]? = some (k, v) → src.value? k i = v) →
    s.build src = .ok x

theorem Takes.of (x : α) : (Shape.of x).Takes [] x where
  length := rfl
  pass _ hc := absurd hc List.not_mem_nil
  build _ _ := rfl

theorem Takes.field {s : Shape (β → α)} {ms : List (String × Option Value)} {make : β → α}
    (h : s.Takes ms make) {f : Field β} {v : Option Value} {y : β} (hf : f.Takes v y) :
    (s.field f).Takes (ms ++ [(f.name, v)]) (make y) where
  length := by
    change (s.checks ++ [_]).length = _
    rw [List.length_append, List.length_append, h.length]
    rfl
  pass c hc := by
    rcases List.mem_append.mp hc with hc | hc
    · obtain ⟨w, hw, hpass⟩ := h.pass c hc
      exact ⟨w, List.mem_append_left _ hw, hpass⟩
    · cases List.mem_singleton.mp hc
      refine ⟨v, List.mem_append_right _ List.mem_cons_self, fun w hw => ?_⟩
      cases hw
      have hdecode : f.decode w = .ok y := hf
      dsimp only
      rw [hdecode]
  build src hsrc := by
    refine build_field.mpr ⟨make, h.build src fun i k w hi => ?_, y, ?_, rfl⟩
    · exact hsrc i k w (List.getElem?_append_left (List.getElem?_eq_some_iff.mp hi).1 ▸ hi)
    · have hlast := hsrc ms.length f.name v (by simp)
      rwa [h.length, hlast]

variable {s : Shape α} {ms : List (String × Option Value)} {x : α}

theorem Takes.memberFault?_eq_none (h : s.Takes ms x) (hnames : (ms.map (·.1)).Nodup) :
    s.memberFault? (Entries.ofList (Entries.present ms)) = none := by
  refine List.findSome?_eq_none_iff.mpr fun (k, v) hmem => ?_
  have hv : (k, some v) ∈ ms := Entries.mem_present.mp (Entries.mem_ofList hmem)
  dsimp only
  cases hcheck : s.checks.lookup k with
  | none => rfl
  | some check =>
    obtain ⟨w, hw, hpass⟩ := h.pass _ (Entries.mem_of_lookup hcheck)
    exact hpass v (Entries.value_eq hnames hw hv)

/-- A record is read back from the members that it was made of. -/
theorem Takes.decode_ofPresent (h : s.Takes ms x) (hnames : (ms.map (·.1)).Nodup)
    (record : String) : s.decode record (.ofPresent ms) = .ok x := by
  refine decode_object_eq_ok_iff.mpr ⟨h.memberFault?_eq_none hnames, ?_⟩
  exact h.build _ fun i k v hi => Entries.lookup_present hnames (List.mem_of_getElem? hi)

end Shape

end IamConvergence
