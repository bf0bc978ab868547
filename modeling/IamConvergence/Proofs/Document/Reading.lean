/-
Every rendering of a value is read as that value, so documents that render one value are equal. The
reader goes down the nesting of containers; inside one the induction is on how its items or members
are written one after another, and members in any order are put back into key order.
-/
import IamConvergence.Proofs.Document.Equivalence
import IamConvergence.Proofs.Document.Scanning

namespace IamConvergence

/-! ## Nesting -/

namespace Value

mutual

/-- How deep containers nest in a value. -/
def depth : Value → Nat
  | .array items => depthItems items + 1
  | .object members => depthMembers members + 1
  | _ => 0

def depthItems : List Value → Nat
  | [] => 0
  | v :: vs => max v.depth (depthItems vs)

def depthMembers : List (String × Value) → Nat
  | [] => 0
  | (_, v) :: ms => max v.depth (depthMembers ms)

end

theorem depthItems_le_iff {d : Nat} : ∀ {vs : List Value}, depthItems vs ≤ d ↔ ∀ v ∈ vs, v.depth ≤ d
  | [] => by simp [depthItems]
  | v :: vs => by
    rw [depthItems, Nat.max_le, depthItems_le_iff, List.forall_mem_cons]

theorem depthMembers_le_iff {d : Nat} : ∀ {ms : List (String × Value)},
    depthMembers ms ≤ d ↔ ∀ m ∈ ms, m.2.depth ≤ d
  | [] => by simp [depthMembers]
  | (k, v) :: ms => by
    rw [depthMembers, Nat.max_le, depthMembers_le_iff, List.forall_mem_cons]

theorem depth_ofMembers_le {d : Nat} {ms : List (String × Value)} (h : ∀ m ∈ ms, m.2.depth ≤ d) :
    (ofMembers ms).depth ≤ d + 1 := by
  rw [ofMembers, depth]
  exact Nat.succ_le_succ (depthMembers_le_iff.mpr fun m hm => h m (Entries.mem_ofList hm))

end Value

theorem MemberWritten.length_pos {W : Value → List Char → Prop} {m : String × Value} {t : List Char}
    (h : MemberWritten W m t) :
    0 < t.length := by
  cases h with
  | pair key colon value =>
    obtain ⟨q', rfl, -⟩ := Document.exists_of_textWritten key
    exact Nat.succ_pos _

namespace Document

open Numeral (Ends WithRest)

variable {b rest : List Char}

/-! ## Lists -/

/-- What is written for a value is read as it, after any blanks and before any end. -/
structure Understood (read : List Char → Except Halt (WithRest Value)) (v : Value) (t : List Char) :
    Prop where
  first : ∃ c t', t = c :: t' ∧ isBlank c = false ∧ c ≠ ']'
  read : ∀ {b rest : List Char}, Blanks b → Ends rest → read (b ++ (t ++ rest)) = .ok (v, rest)

section

variable {read : List Char → Except Halt (WithRest Value)} {W : Value → List Char → Prop}
  {v : Value} {vs : List Value} {cs cs' cs'' ts left : List Char} {fuel : Nat}

theorem readItems_last (hitem : read cs = .ok (v, cs')) (hend : skipBlanks cs' = ']' :: rest) :
    readItems read (fuel + 1) cs = .ok ([v], rest) := by
  simp only [readItems, hitem, bind, Except.bind, hend]

theorem readItems_more {c : Char} (hitem : read cs = .ok (v, cs'))
    (hcomma : skipBlanks cs' = ',' :: cs'') (hnext : skipBlanks cs'' = c :: left) (hc : c ≠ ']')
    (hrest : readItems read fuel (c :: left) = .ok (vs, rest)) :
    readItems read (fuel + 1) cs = .ok (v :: vs, rest) := by
  simp only [readItems, hitem, bind, Except.bind, hcomma, hnext]
  split
  · rename_i heq
    cases heq
  · rename_i heq
    exact absurd (List.cons.inj heq).1 hc
  · rw [hrest]

theorem first_of_separated (h : Separated W vs ts)
    (hitems : ∀ v ∈ vs, ∀ t, W v t → Understood read v t) :
    ∃ c ts', ts = c :: ts' ∧ isBlank c = false ∧ c ≠ ']' := by
  cases h with
  | last item => exact (hitems _ List.mem_cons_self _ item).first
  | more item comma rest =>
    obtain ⟨c, t', rfl, hc⟩ := (hitems _ List.mem_cons_self _ item).first
    exact ⟨c, _, rfl, hc⟩

theorem readItems_of_separated (h : Separated W vs ts)
    (hitems : ∀ v ∈ vs, ∀ t, W v t → Understood read v t) {b : List Char} (hb : Blanks b)
    (rest : List Char) : ∀ {fuel : Nat}, vs.length ≤ fuel →
      readItems read fuel (ts ++ (b ++ ']' :: rest)) = .ok (vs, rest) := by
  induction h with
  | last item =>
    rintro (_ | fuel) hfuel
    · cases hfuel
    · have hends := ends_append hb (ends_mark (by decide : ']' ∈ [',', ']', '}']) rest)
      have hread := (hitems _ List.mem_cons_self _ item).read blanks_nil hends
      exact readItems_last hread (skipBlanks_mark hb rfl rest)
  | more item comma more ih =>
    rintro (_ | fuel) hfuel
    · cases hfuel
    · obtain ⟨hitem, hitems⟩ := List.forall_mem_cons.mp hitems
      cases comma with
      | @around before after hbefore hafter =>
        obtain ⟨c, ts', rfl, hblank, hc⟩ := first_of_separated more hitems
        have hends : Ends (before ++ ',' :: (after ++ c :: (ts' ++ (b ++ ']' :: rest)))) :=
          ends_append hbefore (ends_mark (by decide) _)
        have hread := (hitem _ item).read blanks_nil hends
        have hrest := ih hitems (Nat.le_of_succ_le_succ hfuel)
        simp only [List.append_assoc, List.cons_append, List.nil_append] at hread hrest ⊢
        exact readItems_more hread (skipBlanks_mark hbefore (by decide) _)
          (skipBlanks_mark hafter hblank _) hc hrest

theorem length_le_of_separated {α : Type} {W : α → List Char → Prop} {as : List α} {ts : List Char}
    (h : Separated W as ts) (hitems : ∀ a ∈ as, ∀ t, W a t → 0 < t.length) :
    as.length ≤ ts.length := by
  induction h with
  | last item => exact hitems _ List.mem_cons_self _ item
  | more item comma rest ih =>
    obtain ⟨hitem, hitems⟩ := List.forall_mem_cons.mp hitems
    have hfirst := hitem _ item
    have hrest := ih hitems
    simp only [List.length_cons, List.length_append]
    omega

theorem Understood.length_pos {t : List Char} (h : Understood read v t) : 0 < t.length := by
  obtain ⟨c, t', rfl, -⟩ := h.first
  exact Nat.succ_pos _

/-- A list is read after its opening bracket. -/
theorem exists_of_enclosedItems {t : List Char} (h : Enclosed W '[' ']' vs t)
    (hitems : ∀ v ∈ vs, ∀ t, W v t → Understood read v t) :
    ∃ t', t = '[' :: t' ∧ ∀ rest, readList read (t' ++ rest) = .ok (vs, rest) := by
  cases h with
  | @empty b blanks =>
    refine ⟨_, rfl, fun rest => ?_⟩
    have hend := skipBlanks_mark blanks (by decide : isBlank ']' = false) rest
    rw [List.append_assoc, List.singleton_append, readList, hend]
    rfl
  | @items _ b ts b' before items after =>
    refine ⟨_, rfl, fun rest => ?_⟩
    have hlength := length_le_of_separated items fun v hv t ht => (hitems v hv t ht).length_pos
    obtain ⟨c, ts', rfl, hblank, hc⟩ := first_of_separated items hitems
    have hfuel : vs.length ≤ (c :: (ts' ++ (b' ++ ']' :: rest))).length := by
      simp at hlength ⊢
      omega
    have hread := readItems_of_separated items hitems after rest hfuel
    have hbegin := skipBlanks_mark before hblank (ts' ++ (b' ++ ']' :: rest))
    simp only [List.append_assoc, List.cons_append, List.nil_append] at hread ⊢
    rw [readList, hbegin]
    split
    · rename_i heq
      cases heq
    · rename_i heq
      exact absurd (List.cons.inj heq).1 hc
    · exact hread

/-! ## Objects -/

variable {k : String} {ms : List (String × Value)} {cs₁ cs₂ cs₃ cs₄ cs₅ : List Char}

theorem readMembers_last (hkey : readText cs = .ok (k, cs₁)) (hcolon : skipBlanks cs₁ = ':' :: cs₂)
    (hvalue : read cs₂ = .ok (v, cs₃)) (hend : skipBlanks cs₃ = '}' :: rest) :
    readMembers read (fuel + 1) cs = .ok ([(k, v)], rest) := by
  simp only [readMembers, hkey, bind, Except.bind, hcolon, hvalue, hend]

theorem readMembers_more (hkey : readText cs = .ok (k, cs₁)) (hcolon : skipBlanks cs₁ = ':' :: cs₂)
    (hvalue : read cs₂ = .ok (v, cs₃)) (hcomma : skipBlanks cs₃ = ',' :: cs₄)
    (hquote : skipBlanks cs₄ = '"' :: cs₅) (hrest : readMembers read fuel cs₅ = .ok (ms, rest)) :
    readMembers read (fuel + 1) cs = .ok ((k, v) :: ms, rest) := by
  simp only [readMembers, hkey, bind, Except.bind, hcolon, hvalue, hcomma, hquote, hrest]

/-- The members of an object are read after the opening quote of the first key. -/
theorem exists_of_separatedMembers (h : Separated (MemberWritten W) ms ts)
    (hvalues : ∀ m ∈ ms, ∀ t, W m.2 t → Understood read m.2 t) {b : List Char} (hb : Blanks b)
    (rest : List Char) : ∃ ts', ts = '"' :: ts' ∧ ∀ {fuel : Nat}, ms.length ≤ fuel →
      readMembers read fuel (ts' ++ (b ++ '}' :: rest)) = .ok (ms, rest) := by
  induction h with
  | last item =>
    cases item with
    | @pair k v q s t key colon value =>
      obtain ⟨q', rfl, hkey⟩ := exists_of_textWritten key
      refine ⟨q' ++ (s ++ t), rfl, ?_⟩
      rintro (_ | fuel) hfuel
      · cases hfuel
      · cases colon with
        | @around before after hbefore hafter =>
          have hends := ends_append hb (ends_mark (by decide : '}' ∈ [',', ']', '}']) rest)
          have hvalue := (hvalues _ List.mem_cons_self _ value).read hafter hends
          simp only [List.append_assoc, List.cons_append]
          exact readMembers_last (hkey _) (skipBlanks_mark hbefore (by decide) _) hvalue
            (skipBlanks_mark hb (by decide) rest)
  | @more _ _ _ s' _ item comma more ih =>
    obtain ⟨hmember, hvalues⟩ := List.forall_mem_cons.mp hvalues
    obtain ⟨ts', rfl, hrest⟩ := ih hvalues
    cases item with
    | @pair k v q s t key colon value =>
      obtain ⟨q', rfl, hkey⟩ := exists_of_textWritten key
      refine ⟨q' ++ (s ++ t) ++ (s' ++ '"' :: ts'), rfl, ?_⟩
      rintro (_ | fuel) hfuel
      · cases hfuel
      · cases colon with
        | @around before after hbefore hafter =>
          cases comma with
          | @around before' after' hbefore' hafter' =>
            have hends : Ends (before' ++ ',' :: (after' ++ '"' :: (ts' ++ (b ++ '}' :: rest)))) :=
              ends_append hbefore' (ends_mark (by decide) _)
            have hvalue := (hmember _ value).read hafter hends
            simp only [List.append_assoc, List.cons_append]
            exact readMembers_more (hkey _) (skipBlanks_mark hbefore (by decide) _) hvalue
              (skipBlanks_mark hbefore' (by decide) _) (skipBlanks_mark hafter' (by decide) _)
              (hrest (Nat.le_of_succ_le_succ hfuel))

/-- An object is read after its opening brace. -/
theorem exists_of_enclosedMembers {t : List Char} (h : Enclosed (MemberWritten W) '{' '}' ms t)
    (hvalues : ∀ m ∈ ms, ∀ t, W m.2 t → Understood read m.2 t) :
    ∃ t', t = '{' :: t' ∧ ∀ rest, readObject read (t' ++ rest) = .ok (ms, rest) := by
  cases h with
  | @empty b blanks =>
    refine ⟨_, rfl, fun rest => ?_⟩
    have hend := skipBlanks_mark blanks (by decide : isBlank '}' = false) rest
    rw [List.append_assoc, List.singleton_append, readObject, hend]
    rfl
  | @items _ b ts b' before items after =>
    refine ⟨_, rfl, fun rest => ?_⟩
    have hlength := length_le_of_separated items fun m hm t ht => ht.length_pos
    obtain ⟨ts', rfl, hread⟩ := exists_of_separatedMembers items hvalues after rest
    have hbegin := skipBlanks_mark before (by decide : isBlank '"' = false)
      (ts' ++ (b' ++ '}' :: rest))
    simp only [List.append_assoc, List.cons_append, List.nil_append] at hlength ⊢
    rw [readObject, hbegin]
    refine hread ?_
    simp at hlength ⊢
    omega

end

/-! ## Values -/

section

variable {depth : Nat} {cs : List Char}

theorem readValue_append (hb : Blanks b) (cs : List Char) :
    readValue depth (b ++ cs) = readValue depth cs := by
  conv_lhs => unfold readValue
  conv_rhs => unfold readValue
  rw [skipBlanks_append hb]

theorem isBlank_of_isDigit {c : Char} (h : c.isDigit = true) : isBlank c = false := by
  refine Bool.eq_false_iff.mpr fun hblank => ?_
  simp only [isBlank, Bool.or_eq_true, beq_iff_eq] at hblank
  rcases hblank with ((rfl | rfl) | rfl) | rfl <;> cases h

theorem readValue_digit {c : Char} (h : c.isDigit = true) (cs : List Char) :
    readValue depth (c :: cs) =
      (Numeral.read false (c :: cs)).map fun (n, rest) => (.number n, rest) := by
  unfold readValue
  rw [skipBlanks_cons (isBlank_of_isDigit h)]
  dsimp only
  split
  case h_8 => rw [if_pos h]
  all_goals cases h

theorem exists_digit (n : Nat) : ∃ d ds, Nat.toDigits 10 n = d :: ds ∧ d.isDigit = true := by
  cases hds : Nat.toDigits 10 n with
  | nil => exact absurd hds Nat.toDigits_ne_nil
  | cons d ds =>
    have hmem : d ∈ Nat.toDigits 10 n := hds ▸ List.mem_cons_self
    exact ⟨d, ds, rfl, Nat.isDigit_of_mem_toDigits (by decide) (by decide) hmem⟩

theorem first_intChars (i : Int) :
    ∃ c t', intChars i = c :: t' ∧ isBlank c = false ∧ c ≠ ']' := by
  rw [intChars]
  split
  · exact ⟨_, _, rfl, by decide, by decide⟩
  · obtain ⟨d, ds, hds, hd⟩ := exists_digit i.natAbs
    refine ⟨d, ds, hds, isBlank_of_isDigit hd, ?_⟩
    rintro rfl
    cases hd

theorem readValue_intChars {i : Int} (hi : Number.InRange (.integer i)) (hrest : Ends rest) :
    readValue depth (intChars i ++ rest) = .ok (.int i, rest) := by
  obtain ⟨hleast, hmost⟩ := hi
  rw [intChars]
  split
  · rename_i hneg
    have hn : i.natAbs < twoPow 64 := by
      have : twoPow 63 < twoPow 64 := by decide
      omega
    have hfits : ¬(i.natAbs = 0 ∨ twoPow 63 < i.natAbs) := by omega
    have hvalue : -(i.natAbs : Int) = i := by omega
    have hread := Numeral.read_toDigits true hn hrest
    rw [Numeral.whole, if_neg (by decide), if_neg hfits, hvalue] at hread
    rw [List.cons_append, readValue, skipBlanks_cons (by decide)]
    simp only [hread]
    rfl
  · rename_i hnonneg
    have hn : i.natAbs < twoPow 64 := by omega
    have hvalue : (i.natAbs : Int) = i := by omega
    have hread := Numeral.read_toDigits false hn hrest
    rw [Numeral.whole, if_pos (by decide), hvalue] at hread
    obtain ⟨d, ds, hds, hd⟩ := exists_digit i.natAbs
    rw [hds, List.cons_append] at hread ⊢
    rw [readValue_digit hd, hread]
    rfl

/-- A value is read if the values inside it are. -/
theorem understood_of_inner {v : Value} {t : List Char}
    (inner : ∀ d, depth = d + 1 → ∀ {v t}, v.Written t → v.WellFormed → v.depth ≤ d →
      Understood (readValue d) v t)
    (hwritten : v.Written t) (hwell : v.WellFormed) (hdepth : v.depth ≤ depth) :
    Understood (readValue depth) v t := by
  cases hwritten with
  | null | true | false =>
    refine ⟨⟨_, _, rfl, by decide, by decide⟩, fun hb hends => ?_⟩
    rw [readValue_append hb, readValue]
    rfl
  | integer i =>
    refine ⟨first_intChars i, fun hb hends => ?_⟩
    rw [readValue_append hb]
    exact readValue_intChars hwell hends
  | text h =>
    obtain ⟨t', rfl, hread⟩ := exists_of_textWritten h
    refine ⟨⟨_, _, rfl, by decide, by decide⟩, fun hb hends => ?_⟩
    rw [readValue_append hb, List.cons_append, readValue, skipBlanks_cons (by decide)]
    simp only [hread]
    rfl
  | @array vs _ h =>
    rw [Value.WellFormed, Value.wellFormedItems_iff] at hwell
    obtain ⟨d, rfl⟩ : ∃ d, depth = d + 1 :=
      Nat.exists_eq_add_one.mpr (Nat.lt_of_lt_of_le (Nat.succ_pos _) hdepth)
    have hdepths := Value.depthItems_le_iff.mp (Nat.le_of_succ_le_succ hdepth)
    have hitems : ∀ w ∈ vs, ∀ t, w.Written t → Understood (readValue d) w t := fun w hw t ht =>
      inner d rfl ht (hwell w hw) (hdepths w hw)
    obtain ⟨t', rfl, hread⟩ := exists_of_enclosedItems h hitems
    refine ⟨⟨_, _, rfl, by decide, by decide⟩, fun hb hends => ?_⟩
    rw [readValue_append hb, List.cons_append, readValue, skipBlanks_cons (by decide)]
    simp only [hread]
    rfl
  | @object ms ns _ order h =>
    rw [Value.WellFormed, Value.wellFormedMembers_iff] at hwell
    obtain ⟨hordered, hwell⟩ := hwell
    obtain ⟨d, rfl⟩ : ∃ d, depth = d + 1 :=
      Nat.exists_eq_add_one.mpr (Nat.lt_of_lt_of_le (Nat.succ_pos _) hdepth)
    have hdepths := Value.depthMembers_le_iff.mp (Nat.le_of_succ_le_succ hdepth)
    have hvalues : ∀ m ∈ ns, ∀ t, m.2.Written t → Understood (readValue d) m.2 t := by
      intro m hm t ht
      have hmem := order.mem_iff.mp hm
      exact inner d rfl ht (hwell m hmem) (hdepths m hmem)
    obtain ⟨t', rfl, hread⟩ := exists_of_enclosedMembers h hvalues
    refine ⟨⟨_, _, rfl, by decide, by decide⟩, fun hb hends => ?_⟩
    rw [readValue_append hb, List.cons_append, readValue, skipBlanks_cons (by decide)]
    simp only [hread, Except.map, Value.ofMembers, hordered.ofList_of_perm order]

theorem understood_of_written : ∀ (depth : Nat) {v : Value} {t : List Char}, v.Written t →
    v.WellFormed → v.depth ≤ depth → Understood (readValue depth) v t
  | 0 => understood_of_inner fun _ h => nomatch h
  | depth + 1 => understood_of_inner fun d h => by
    cases h
    exact understood_of_written depth

end

/-! ## Documents -/

/-- Every rendering of a value is a document with that value. -/
theorem parse?_of_renderedAs {v : Value} {doc : String} (h : v.RenderedAs doc)
    (hwell : v.WellFormed) (hdepth : v.depth ≤ maxDepth) : parse? doc = some v := by
  obtain ⟨b, t, b', hb, hwritten, hb', hdoc⟩ := h
  have hend : Ends (b' ++ []) := ends_append hb' nofun
  have hread := (understood_of_written maxDepth hwritten hwell hdepth).read hb hend
  rw [List.append_nil] at hread
  have hleft : skipBlanks b' = [] := by
    have := skipBlanks_append hb' []
    rwa [List.append_nil] at this
  rw [parse?, parse, hdoc, read, hread]
  simp only [bind, Except.bind, hleft]
  rfl

theorem established_depth : Established fun depth v => v.depth ≤ depth where
  null depth := Nat.zero_le depth
  bool depth _ := Nat.zero_le depth
  number depth _ _ := Nat.zero_le depth
  text depth _ := Nat.zero_le depth
  array h := Nat.succ_le_succ (Value.depthItems_le_iff.mpr h)
  object := Value.depth_ofMembers_le

end Document

/-- **Equality of documents ignores their form**. Any two renderings of a value are equal, and so is
every document with such a value to what the writer makes of it. -/
theorem documentsEqual_of_renderedAs :
    (∀ (v : Value) (doc doc' : String), v.WellFormed → v.depth < 128 → v.RenderedAs doc →
      v.RenderedAs doc' → documentsEqual doc doc' = true) ∧
    ∀ (doc : String) (v : Value), Document.parse? doc = some v → v.Integral →
      documentsEqual doc v.render = true := by
  have hparse : ∀ {v : Value} {doc : String}, v.WellFormed → v.depth < 128 → v.RenderedAs doc →
      Document.parse? doc = some v := fun hwell hdepth h =>
    Document.parse?_of_renderedAs h hwell (Nat.le_of_lt_succ hdepth)
  refine ⟨fun v doc doc' hwell hdepth h h' => ?_, fun doc v h hintegral => ?_⟩
  · exact documentsEqual_iff.mpr ⟨v, v, hparse hwell hdepth h, hparse hwell hdepth h',
      Value.equal_self hwell⟩
  · have hwell := Document.wellFormed_of_parse? h
    have hdepth : v.depth < 128 := Nat.lt_succ_of_le (Document.established_depth.of_parse? h)
    exact documentsEqual_iff.mpr ⟨v, v, h, hparse hwell hdepth (Value.renderedAs_render hintegral),
      Value.equal_self hwell⟩

/-- Members out of order, blanks between tokens, and escapes with a surrogate pair. -/
theorem documentsEqual_of_renderedAs_escaped :
    let v := Value.object [("a", .array [.int 1, .text "é𝄞"]), ("b", .int (-2))]
    let doc := " \x7b\"b\" :-2,\"\\u0061\": [1 ,\"\\u00E9\\ud834\\udd1e\"]\x7d\n"
    v.render = "\x7b\"a\":[1,\"é𝄞\"],\"b\":-2\x7d" ∧ v.RenderedAs doc ∧
      documentsEqual v.render doc = true ∧ documentsEqual doc v.render = true := by
  intro v doc
  have hwell : v.WellFormed := by
    refine ⟨by decide, ⟨⟨?_, ?_⟩, trivial, trivial⟩, ⟨?_, ?_⟩, trivial⟩ <;> decide
  have hintegral : v.Integral := by simp [v]
  have he : HexWritten 0xe9 ['0', '0', 'E', '9'] :=
    @HexWritten.digits 0 0 14 9 _ _ _ _ (by decide) (by decide) (by decide) (by decide)
  have hhigh : HexWritten 0xd834 ['d', '8', '3', '4'] :=
    @HexWritten.digits 13 8 3 4 _ _ _ _ (by decide) (by decide) (by decide) (by decide)
  have hlow : HexWritten 0xdd1e ['d', 'd', '1', 'e'] :=
    @HexWritten.digits 13 13 1 14 _ _ _ _ (by decide) (by decide) (by decide) (by decide)
  have htext : TextWritten "é𝄞" _ :=
    .quoted (.cons (.unit he) (.cons (.pair (by decide) hhigh hlow) .nil))
  have ha : HexWritten 0x61 ['0', '0', '6', '1'] :=
    @HexWritten.digits 0 0 6 1 _ _ _ _ (by decide) (by decide) (by decide) (by decide)
  have hkey : TextWritten "a" _ := .quoted (.cons (.unit ha) .nil)
  have hkey' : TextWritten "b" _ :=
    .quoted (.cons (.plain (by decide) (by decide) (by decide)) .nil)
  have hitems : Separated Value.Written _ _ :=
    .more (.integer 1) (@Spaced.around ',' [' '] [] (by decide) (by decide)) (.last (.text htext))
  have harray : Value.Written (.array _) _ := .array (.items blanks_nil hitems blanks_nil)
  have hmember : MemberWritten Value.Written ("a", _) _ :=
    .pair hkey (@Spaced.around ':' [] [' '] (by decide) (by decide)) harray
  have hmember' : MemberWritten Value.Written ("b", _) _ :=
    .pair hkey' (@Spaced.around ':' [' '] [] (by decide) (by decide)) (.integer (-2))
  have hobject : v.Written _ := .object (.swap _ _ _)
    (.items blanks_nil (.more hmember' (spaced_mark ',') (.last hmember)) blanks_nil)
  have hdoc : v.RenderedAs doc := ⟨[' '], _, ['\n'], by decide, hobject, by decide, by decide⟩
  obtain ⟨hequal, hrender⟩ := documentsEqual_of_renderedAs
  have hparse : Document.parse? doc = some v :=
    Document.parse?_of_renderedAs hdoc hwell (by decide)
  exact ⟨by decide, hdoc, hequal v _ doc hwell (by decide) (Value.renderedAs_render hintegral) hdoc,
    hrender doc v hparse hintegral⟩

end IamConvergence
