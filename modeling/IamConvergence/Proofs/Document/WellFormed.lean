/-
The values that the reader gives are well-formed: integers have at most 64 bits, because a
significand takes digits only while it stays below 2^64, and the members of an object stand in key
order, because they are put into an ordered list one by one.
-/
import IamConvergence.Document.Reader
import IamConvergence.Proofs.Ordered.Table

namespace IamConvergence

/-! ## What a reader gives -/

/-- Whatever was read from the front of a text has a property. -/
def Reads {α : Type} (P : α → Prop) (result : Except Halt (α × List Char)) : Prop :=
  ∀ a rest, result = .ok (a, rest) → P a

namespace Reads

variable {α β : Type} {P : α → Prop} {R : β → Prop}

theorem error (h : Halt) : Reads P (.error h) := fun _ _ heq => nomatch heq

theorem ok {a : α} (h : P a) (rest : List Char) : Reads P (.ok (a, rest)) := by
  intro b left heq
  cases heq
  exact h

theorem map {result : Except Halt (α × List Char)} {f : α → β} (h : Reads P result)
    (hf : ∀ a, P a → R (f a)) : Reads R (result.map fun (a, rest) => (f a, rest)) := by
  intro b rest heq
  cases result with
  | error halt => cases heq
  | ok x =>
    obtain ⟨a, left⟩ := x
    cases heq
    exact hf a (h a _ rfl)

/-- A reader that goes on after another one. -/
theorem bind {result : Except Halt (α × List Char)}
    {next : α × List Char → Except Halt (β × List Char)} (h : Reads P result)
    (hnext : ∀ a rest, P a → Reads R (next (a, rest))) : Reads R (result >>= next) := by
  intro b rest heq
  cases result with
  | error halt => cases heq
  | ok x =>
    obtain ⟨a, left⟩ := x
    exact hnext a left (h a left rfl) b rest heq

end Reads

/-! ## Numbers -/

namespace Numeral

theorem absorb_lt : ∀ (ds : List Char) {significand : Nat}, significand < twoPow 64 →
    (absorb significand ds).1 < twoPow 64
  | [], _, h => h
  | d :: ds, significand, h => by
    simp only [absorb]
    by_cases hnext : significand * 10 + digitValue d < twoPow 64
    · rw [if_pos hnext]
      exact absorb_lt ds hnext
    · rw [if_neg hnext]
      exact h

variable (negative : Bool) {significand : Nat} (rest : List Char)

theorem reads_scaled (significand : Nat) (exponent : Int) :
    Reads Number.InRange (scaled negative significand exponent rest) := by
  unfold scaled
  split
  · exact .ok trivial rest
  · exact .error _

theorem reads_exponentPart (significand : Nat) (start : Int) (cs : List Char) :
    Reads Number.InRange (exponentPart negative significand start cs) := by
  simp only [exponentPart]
  split
  · exact .error _
  · split
    · split
      · exact reads_scaled negative _ _ _
      · split
        · exact .error _
        · exact .ok trivial _
    · exact .error _

theorem reads_fractionPart (significand : Nat) (start : Int) (cs : List Char) :
    Reads Number.InRange (fractionPart negative significand start cs) := by
  simp only [fractionPart]
  split
  · exact .error _
  · split
    · split
      · exact reads_exponentPart negative _ _ _
      · exact reads_scaled negative _ _ _
    · exact reads_scaled negative _ _ _

theorem reads_whole (h : significand < twoPow 64) :
    Reads Number.InRange (whole negative significand rest) := by
  unfold whole
  by_cases hpos : (!negative) = true
  · rw [if_pos hpos]
    refine .ok ⟨?_, ?_⟩ rest <;> omega
  · rw [if_neg hpos]
    by_cases hfar : significand = 0 ∨ twoPow 63 < significand
    · rw [if_pos hfar]
      exact reads_scaled true _ _ _
    · rw [if_neg hfar]
      refine .ok ⟨?_, ?_⟩ rest <;> omega

theorem reads_afterInteger (h : significand < twoPow 64) (left : Nat) :
    Reads Number.InRange (afterInteger negative significand left rest) := by
  unfold afterInteger
  split
  · exact reads_fractionPart negative _ _ _
  · split
    · exact reads_exponentPart negative _ _ _
    · split
      · exact reads_whole negative _ h
      · exact reads_scaled negative _ _ _
  · split
    · exact reads_whole negative _ h
    · exact reads_scaled negative _ _ _

theorem reads_read (cs : List Char) : Reads Number.InRange (read negative cs) := by
  have hzero : 0 < twoPow 64 := by decide
  unfold read
  split
  · exact .error _
  · split
    · exact .error _
    · split
      · split
        · exact .error _
        · exact reads_afterInteger negative _ hzero 0
      · exact reads_afterInteger negative _ (absorb_lt _ hzero) _

end Numeral

/-! ## Containers -/

namespace Value

theorem wellFormedItems_iff : ∀ {items : List Value},
    WellFormedItems items ↔ ∀ v ∈ items, v.WellFormed
  | [] => by simp [WellFormedItems]
  | v :: vs => by
    rw [WellFormedItems, wellFormedItems_iff, List.forall_mem_cons]

theorem wellFormedMembers_iff : ∀ {members : List (String × Value)},
    WellFormedMembers members ↔ ∀ m ∈ members, m.2.WellFormed
  | [] => by simp [WellFormedMembers]
  | (k, v) :: ms => by
    rw [WellFormedMembers, wellFormedMembers_iff, List.forall_mem_cons]

/-- Members put in key order are those that were given. -/
theorem wellFormed_ofMembers {ms : List (String × Value)} (h : ∀ m ∈ ms, m.2.WellFormed) :
    (ofMembers ms).WellFormed := by
  rw [ofMembers, WellFormed, wellFormedMembers_iff]
  refine ⟨Entries.ordered_ofList ms, ?_⟩
  intro m hm
  exact h m (Entries.mem_ofList hm)

end Value

namespace Document

section

variable {P : Value → Prop} {read : List Char → Except Halt (Numeral.WithRest Value)}

theorem reads_readItems (hread : ∀ cs, Reads P (read cs)) : ∀ (fuel : Nat) (cs : List Char),
    Reads (fun vs => ∀ v ∈ vs, P v) (readItems read fuel cs)
  | 0, cs => .error _
  | fuel + 1, cs => by
    rw [readItems]
    refine (hread cs).bind fun v rest hv => ?_
    dsimp only
    split
    · exact .error _
    · exact .ok (List.forall_mem_singleton.mpr hv) _
    · split
      · exact .error _
      · exact .error _
      · refine (reads_readItems hread fuel _).bind fun vs rest hvs => ?_
        exact .ok (List.forall_mem_cons.mpr ⟨hv, hvs⟩) rest
    · exact .error _

theorem reads_readList (hread : ∀ cs, Reads P (read cs)) (cs : List Char) :
    Reads (fun vs => ∀ v ∈ vs, P v) (readList read cs) := by
  unfold readList
  split
  · exact .error _
  · exact .ok (List.forall_mem_nil _) _
  · exact reads_readItems hread _ _

theorem reads_readMembers (hread : ∀ cs, Reads P (read cs)) : ∀ (fuel : Nat) (cs : List Char),
    Reads (fun ms => ∀ m ∈ ms, P m.2) (readMembers read fuel cs)
  | 0, cs => .error _
  | fuel + 1, cs => by
    rw [readMembers]
    refine Reads.bind (P := fun _ => True) (fun _ _ _ => trivial) fun k rest _ => ?_
    dsimp only
    split
    · exact .error _
    · refine (hread _).bind fun v rest hv => ?_
      dsimp only
      split
      · exact .error _
      · refine .ok ?_ _
        exact List.forall_mem_singleton (p := fun m : String × Value => P m.2).mpr hv
      · split
        · exact .error _
        · refine (reads_readMembers hread fuel _).bind fun ms rest hms => ?_
          refine .ok ?_ rest
          exact List.forall_mem_cons (p := fun m : String × Value => P m.2).mpr ⟨hv, hms⟩
        · exact .error _
        · exact .error _
      · exact .error _
    · exact .error _

theorem reads_readObject (hread : ∀ cs, Reads P (read cs)) (cs : List Char) :
    Reads (fun ms => ∀ m ∈ ms, P m.2) (readObject read cs) := by
  unfold readObject
  split
  · exact .error _
  · exact .ok (List.forall_mem_nil _) _
  · exact reads_readMembers hread _ _
  · exact .error _

end

/-! ## Documents -/

/-- A property of values, given how deep containers may still nest in them, that holds of whatever
is read because it is built from the inside out. -/
structure Established (P : Nat → Value → Prop) : Prop where
  null (depth : Nat) : P depth .null
  bool (depth : Nat) (b : Bool) : P depth (.bool b)
  number (depth : Nat) {n : Number} (h : n.InRange) : P depth (.number n)
  text (depth : Nat) (s : String) : P depth (.text s)
  array {depth : Nat} {vs : List Value} (h : ∀ v ∈ vs, P depth v) : P (depth + 1) (.array vs)
  object {depth : Nat} {ms : List (String × Value)} (h : ∀ m ∈ ms, P depth m.2) :
    P (depth + 1) (.ofMembers ms)

namespace Established

variable {P : Nat → Value → Prop}

/-- The property holds of a value that is read if it does of the values inside it. -/
theorem reads_readValue_of_inner (hP : Established P) (depth : Nat)
    (inner : ∀ d, depth = d + 1 → ∀ cs, Reads (P d) (readValue d cs)) (cs : List Char) :
    Reads (P depth) (readValue depth cs) := by
  have hword : ∀ {word rest : List Char} {v : Value}, P depth v →
      Reads (P depth) ((readWord word rest).map (v, ·)) := by
    intro word rest v hv w left heq
    cases hread : readWord word rest with
    | error halt => rw [hread] at heq; cases heq
    | ok left' => rw [hread] at heq; cases heq; exact hv
  unfold readValue
  split
  · exact .error _
  · split
    · exact hword (hP.null depth)
    · exact hword (hP.bool depth true)
    · exact hword (hP.bool depth false)
    · exact (Numeral.reads_read true _).map fun n hn => hP.number depth hn
    · exact Reads.map (P := fun _ => True) (fun _ _ _ => trivial) fun s _ => hP.text depth s
    -- only lists and objects have values inside
    · split
      · exact .error _
      · exact (reads_readList (inner _ rfl) _).map fun vs hvs => hP.array hvs
    · split
      · exact .error _
      · exact (reads_readObject (inner _ rfl) _).map fun ms hms => hP.object hms
    · split
      · exact (Numeral.reads_read false _).map fun n hn => hP.number depth hn
      · exact .error _

theorem reads_readValue (hP : Established P) : ∀ (depth : Nat) (cs : List Char),
    Reads (P depth) (readValue depth cs)
  | 0 => hP.reads_readValue_of_inner 0 fun _ h => nomatch h
  | depth + 1 => hP.reads_readValue_of_inner (depth + 1) fun d h => by
    cases h
    exact hP.reads_readValue depth

theorem of_parse? (hP : Established P) {doc : String} {v : Value} (h : parse? doc = some v) :
    P maxDepth v := by
  unfold parse? parse read at h
  cases hvalue : readValue maxDepth doc.toList with
  | error halt => rw [hvalue] at h; cases h
  | ok x =>
    obtain ⟨w, rest⟩ := x
    have hw : P maxDepth w := hP.reads_readValue maxDepth doc.toList w rest hvalue
    rw [hvalue] at h
    dsimp only [bind, Except.bind] at h
    split at h
    · cases h
      exact hw
    · cases h

end Established

theorem established_wellFormed : Established fun _ => Value.WellFormed where
  null _ := trivial
  bool _ _ := trivial
  number _ := id
  text _ _ := trivial
  array := Value.wellFormedItems_iff.mpr
  object := Value.wellFormed_ofMembers

/-- What a document says is well-formed. -/
theorem wellFormed_of_parse? {doc : String} {v : Value} (h : parse? doc = some v) :
    v.WellFormed :=
  established_wellFormed.of_parse? h

end Document

end IamConvergence
