/-
What is written for an instant is read back as it, if the instant has a date of the calendar; and
only such instants are read. A number of a fixed width is read from the front of a text whatever
follows it, so the parts are read back one after the other.
-/
import Mathlib.Algebra.Group.Nat.Defs
import Mathlib.Data.List.TakeWhile
import IamConvergence.Instant.Rfc3339
import IamConvergence.Proofs.Account.Operations
import IamConvergence.Proofs.Instant.Calendar

namespace IamConvergence

/-- An instant with a date of the calendar. A leap second ends a minute. -/
structure Instant.Valid (t : Instant) : Prop where
  year : Date.hasYear (Date.ofDays (t.second / 86400)).year = true
  nano : t.nano < 2000000000
  leap : 1000000000 ≤ t.nano → t.second % 60 = 59

namespace Rfc3339

/-! ## Numbers of a fixed width -/

variable {width n : Nat}

theorem length_padded (hwidth : 0 < width) (h : n < 10 ^ width) :
    (padded width n).length = width := by
  have hlength := (Nat.length_toDigits_le_iff (by decide : 1 < 10) hwidth).mpr h
  unfold padded
  rw [List.length_append, List.length_replicate, Nat.sub_add_cancel hlength]

theorem isDigit_of_mem_padded {c : Char} (h : c ∈ padded width n) : c.isDigit = true := by
  rcases List.mem_append.mp h with hzero | hdigit
  · rw [List.eq_of_mem_replicate hzero]
    decide
  · exact Nat.isDigit_of_mem_toDigits (by decide) (by decide) hdigit

theorem digitsValue_padded (width n : Nat) : digitsValue (padded width n) = n := by
  unfold digitsValue padded
  rw [Nat.ofDigitChars_append, Nat.ofDigitChars_replicate_zero]
  simp [Nat.ofDigitChars_ten_toDigits]

theorem padded_ne_nil (width n : Nat) : padded width n ≠ [] :=
  fun h => Nat.toDigits_ne_nil (List.append_eq_nil_iff.mp h).2

theorem takeWhile_padded (width n : Nat) :
    (padded width n).takeWhile Char.isDigit = padded width n :=
  List.takeWhile_eq_self_iff.mpr fun _ h => isDigit_of_mem_padded h

/-- A number is read, if just its digits are taken. -/
theorem readNumber_of_taken {most : Option Nat} {rest : List Char}
    (h : (most.elim (padded width n ++ rest) (padded width n ++ rest).take).takeWhile Char.isDigit =
      padded width n) : readNumber most (padded width n ++ rest) = .ok (n, rest) := by
  unfold readNumber
  cases most with
  | none | some _ =>
    simp only [Option.elim] at h
    simp only [h, List.isEmpty_iff, padded_ne_nil, ↓reduceIte, digitsValue_padded, List.drop_left]

theorem readNumber_padded (hwidth : 0 < width) (h : n < 10 ^ width) (rest : List Char) :
    readNumber (some width) (padded width n ++ rest) = .ok (n, rest) := by
  refine readNumber_of_taken ?_
  rw [Option.elim_some, List.take_left' (length_padded hwidth h), takeWhile_padded]

/-- Without a bound the digits are read up to a mark. -/
theorem readNumber_none {mark : Char} (hmark : mark.isDigit = false) (rest : List Char) :
    readNumber none (padded width n ++ mark :: rest) = .ok (n, mark :: rest) := by
  refine readNumber_of_taken ?_
  rw [Option.elim_none, List.takeWhile_append_of_pos fun _ h => isDigit_of_mem_padded h,
    List.takeWhile_cons, hmark]
  exact List.append_nil _

/-! ## Blanks -/

theorem not_blank_of_isDigit {c : Char} (h : c.isDigit = true) :
    CharClass.blank.contains c = false := by
  have hdigits : ∀ n < 58, 48 ≤ n → CharClass.blank.contains (Char.ofNat n) = false := by
    decide +kernel
  have hrange : 48 ≤ c.toNat ∧ c.toNat ≤ 57 := by
    simpa [Char.isDigit, UInt32.le_iff_toNat_le] using h
  have := hdigits c.toNat (Nat.lt_succ_of_le hrange.2) hrange.1
  rwa [Char.ofNat_toNat] at this

theorem dropBlank_cons {c : Char} (h : CharClass.blank.contains c = false) (cs : List Char) :
    dropBlank (c :: cs) = c :: cs := by
  unfold dropBlank
  rw [List.dropWhile_cons, h]
  rfl

theorem exists_digit_padded (width n : Nat) :
    ∃ d ds, padded width n = d :: ds ∧ d.isDigit = true := by
  cases h : padded width n with
  | nil => exact absurd h (padded_ne_nil width n)
  | cons d ds => exact ⟨d, ds, rfl, isDigit_of_mem_padded (h ▸ List.mem_cons_self)⟩

theorem dropBlank_padded (width n : Nat) (rest : List Char) :
    dropBlank (padded width n ++ rest) = padded width n ++ rest := by
  obtain ⟨d, ds, hds, hd⟩ := exists_digit_padded width n
  rw [hds, List.cons_append, dropBlank_cons (not_blank_of_isDigit hd)]

/-! ## Parts of an instant -/

theorem readField_padded {least most : Nat} (hleast : least ≤ n) (hmost : n ≤ most)
    (h : n < 100) (rest : List Char) :
    readField least most (padded 2 n ++ rest) = .ok (n, rest) := by
  unfold readField
  rw [dropBlank_padded, readNumber_padded (by decide) h]
  exact if_pos ⟨hleast, hmost⟩

theorem readSeparator_padded {mark : Char} (hmark : CharClass.blank.contains mark = false)
    (width n : Nat) (rest : List Char) :
    readSeparator mark (mark :: (padded width n ++ rest)) = .ok (padded width n ++ rest) := by
  unfold readSeparator
  rw [dropBlank_cons hmark]
  dsimp only
  rw [if_pos rfl, dropBlank_padded]

/-- A year that was read, if it has 32 bits. -/
def boundedYear (y : Int) (rest : List Char) : Part Int :=
  if -twoPow 31 ≤ y ∧ y < twoPow 31 then .ok (y, rest) else .error .outOfRange

theorem boundedYear_of_hasYear {y : Int} (h : Date.hasYear y = true) (rest : List Char) :
    boundedYear y rest = .ok (y, rest) := by
  have hrange : -262143 ≤ y ∧ y ≤ 262142 := by simpa [Date.hasYear] using h
  have hpow : twoPow 31 = 2147483648 := by decide
  exact if_pos (by omega)

theorem readYear_minus (cs : List Char) : readYear ('-' :: cs) =
    readNumber none cs >>= fun (n, rest) => boundedYear (-n) rest := by
  unfold readYear
  rw [dropBlank_cons (by decide)]
  rfl

theorem readYear_plus (cs : List Char) : readYear ('+' :: cs) =
    readNumber none cs >>= fun (n, rest) => boundedYear n rest := by
  unfold readYear
  rw [dropBlank_cons (by decide)]
  rfl

theorem readYear_digit {d : Char} (hd : d.isDigit = true) (cs : List Char) : readYear (d :: cs) =
    readNumber (some 4) (d :: cs) >>= fun (n, rest) => boundedYear n rest := by
  unfold readYear
  rw [dropBlank_cons (not_blank_of_isDigit hd)]
  split
  · rename_i heq
    cases heq
    cases hd
  · rename_i heq
    cases heq
    cases hd
  · rfl

theorem readYear_plain {y : Int} (h : 0 ≤ y ∧ y ≤ 9999) (rest : List Char) :
    readYear (padded 4 y.toNat ++ rest) = boundedYear y rest := by
  have hvalue : (y.toNat : Int) = y := Int.toNat_of_nonneg h.1
  have hread := readNumber_padded (by decide) (show y.toNat < 10 ^ 4 by omega) rest
  obtain ⟨d, ds, hds, hd⟩ := exists_digit_padded 4 y.toNat
  rw [hds, List.cons_append] at hread ⊢
  rw [readYear_digit hd, hread, ok_bind]
  dsimp only
  rw [hvalue]

/-- A year is read by its digits, after a sign where there is one. -/
theorem readYear_yearChars {y : Int} (h : Date.hasYear y = true) (rest : List Char) :
    readYear (yearChars y ++ '-' :: rest) = .ok (y, '-' :: rest) := by
  have hnumber := @readNumber_none 4 y.natAbs '-' (by decide) rest
  unfold yearChars
  by_cases hplain : 0 ≤ y ∧ y ≤ 9999
  · rw [if_pos hplain, readYear_plain hplain, boundedYear_of_hasYear h]
  · rw [if_neg hplain, List.cons_append]
    by_cases hneg : y < 0
    · have hvalue : -(y.natAbs : Int) = y := by omega
      rw [if_pos hneg, readYear_minus, hnumber, ok_bind]
      dsimp only
      rw [hvalue, boundedYear_of_hasYear h]
    · have hvalue : (y.natAbs : Int) = y := by omega
      rw [if_neg hneg, readYear_plus, hnumber, ok_bind]
      dsimp only
      rw [hvalue, boundedYear_of_hasYear h]

/-- With room to spare the digits are read up to a mark. -/
theorem readNumber_shorter {most : Nat} (hwidth : 0 < width) (hmost : width ≤ most)
    (h : n < 10 ^ width) {mark : Char} (hmark : mark.isDigit = false) (rest : List Char) :
    readNumber (some most) (padded width n ++ mark :: rest) = .ok (n, mark :: rest) := by
  refine readNumber_of_taken ?_
  rw [Option.elim_some, List.take_append, length_padded hwidth h,
    List.take_of_length_le (by rwa [length_padded hwidth h]),
    List.takeWhile_append_of_pos fun _ h => isDigit_of_mem_padded h]
  cases most - width with
  | zero => exact List.append_nil _
  | succ k =>
    rw [List.take_succ_cons, List.takeWhile_cons, hmark]
    exact List.append_nil _

/-- A fraction is read in nanoseconds from the digits that were written of it. -/
theorem readFraction_padded (hwidth : 0 < width) (hmost : width ≤ 9) (h : n < 10 ^ width)
    {mark : Char} (hmark : mark.isDigit = false) (rest : List Char) :
    readFraction ('.' :: (padded width n ++ mark :: rest)) =
      .ok (n * 10 ^ (9 - width), mark :: rest) := by
  have htake : (padded width n ++ mark :: rest).take
      ((padded width n ++ mark :: rest).length - (mark :: rest).length) = padded width n := by
    rw [List.length_append, Nat.add_sub_cancel, List.take_left]
  rw [readFraction, readNumber_shorter hwidth hmost h hmark, ok_bind]
  dsimp only
  rw [htake, digitsValue_padded, length_padded hwidth h, List.dropWhile_cons, hmark]
  rfl

theorem readFraction_fractionChars {nano : Nat} (h : nano < 1000000000) {mark : Char}
    (hmark : mark.isDigit = false) (hpoint : mark ≠ '.') (rest : List Char) :
    readFraction (fractionChars nano ++ mark :: rest) = .ok (nano, mark :: rest) := by
  unfold fractionChars
  split_ifs with hzero hmilli hmicro
  · rw [hzero, List.nil_append]
    unfold readFraction
    split
    · rename_i heq
      cases heq
      exact absurd rfl hpoint
    · rfl
  · rw [List.cons_append, readFraction_padded (by decide) (by decide) (by omega) hmark]
    have hunit : 10 ^ (9 - 3) = 1000000 := rfl
    rw [hunit, Nat.div_mul_cancel (Nat.dvd_of_mod_eq_zero hmilli)]
  · rw [List.cons_append, readFraction_padded (by decide) (by decide) (by omega) hmark]
    have hunit : 10 ^ (9 - 6) = 1000 := rfl
    rw [hunit, Nat.div_mul_cancel (Nat.dvd_of_mod_eq_zero hmicro)]
  · rw [List.cons_append, readFraction_padded (by decide) (by decide) (by omega) hmark]
    rw [Nat.sub_self, Nat.pow_zero, Nat.mul_one]

/-! ## Instants -/

/-- The date and the time of day of a valid instant give it back. -/
theorem instantOf?_ofDays {t : Instant} (h : t.Valid) :
    instantOf? (Date.ofDays (t.second / 86400)) ((t.second % 86400).toNat / 3600)
      ((t.second % 86400).toNat / 60 % 60)
      ((t.second % 86400).toNat % 60 + if 1000000000 ≤ t.nano then 1 else 0)
      (if 1000000000 ≤ t.nano then t.nano - 1000000000 else t.nano) 0 = .ok t := by
  have hvalid := Date.isValid_ofDays h.year
  have hleap := h.leap
  unfold instantOf?
  rw [hvalid, if_neg (by decide), Date.toDays_ofDays]
  dsimp only
  have htotal : t.second / 86400 * 86400 + (((t.second % 86400).toNat / 3600 * 3600 +
      (t.second % 86400).toNat / 60 % 60 * 60 + min ((t.second % 86400).toNat % 60 +
        if 1000000000 ≤ t.nano then 1 else 0) 59 : Nat) : Int) - 0 = t.second := by
    split <;> omega
  rw [htotal, if_pos h.year]
  obtain ⟨second, nano⟩ := t
  by_cases hlong : 1000000000 ≤ nano
  · have hlast : (second % 86400).toNat % 60 + 1 = 60 := by
      have hsecond : second % 60 = 59 := hleap hlong
      omega
    simp only [hlong, ↓reduceIte, hlast, Nat.sub_add_cancel hlong]
  · have hshort : (second % 86400).toNat % 60 + 0 ≠ 60 := by omega
    simp only [hlong, ↓reduceIte, hshort]

/-- What is written for a valid instant is read as that instant. -/
theorem parse_render {t : Instant} (h : t.Valid) : parse (render t) = .ok t := by
  have hvalid := Date.isValid_ofDays h.year
  simp only [Date.isValid, Bool.and_eq_true, decide_eq_true_eq] at hvalid
  obtain ⟨⟨⟨⟨-, hmonth⟩, hmonth'⟩, hday⟩, hday'⟩ := hvalid
  have hday' := Nat.le_trans hday' (Date.daysInMonth_le_31 _ _)
  have hnano := h.nano
  unfold parse render readInstant chars
  simp only [String.toList_ofList, List.append_assoc, List.cons_append]
  rw [readYear_yearChars h.year, ok_bind]
  dsimp only
  rw [readSeparator_padded (by decide), ok_bind, readField_padded hmonth hmonth' (by omega),
    ok_bind]
  dsimp only
  rw [readSeparator_padded (by decide), ok_bind, readField_padded hday hday' (by omega),
    ok_bind]
  dsimp only
  rw [readTimeMark, if_pos (.inl rfl), ok_bind,
    readField_padded (Nat.zero_le _) (by omega) (by omega), ok_bind]
  dsimp only
  rw [readSeparator_padded (by decide), ok_bind,
    readField_padded (Nat.zero_le _) (by omega) (by omega), ok_bind]
  dsimp only
  rw [readSeparator_padded (by decide), ok_bind,
    readField_padded (Nat.zero_le _) (by split <;> omega) (by split <;> omega), ok_bind]
  dsimp only
  rw [readFraction_fractionChars (by split <;> omega) (by decide) (by decide), ok_bind]
  dsimp only
  exact instantOf?_ofDays h

/-! ## What is read -/

theorem ofDigitChars_lt : ∀ {ds : List Char} {n : Nat}, (∀ d ∈ ds, d.isDigit = true) →
    Nat.ofDigitChars 10 ds n < (n + 1) * 10 ^ ds.length
  | [], n, _ => by simp
  | d :: ds, n, h => by
    have hd : d.toNat - '0'.toNat < 10 := by
      have hrange : d.toNat ≤ 57 := by
        have := h d List.mem_cons_self
        simp [Char.isDigit, UInt32.le_iff_toNat_le] at this
        exact this.2
      have hzero : '0'.toNat = 48 := by decide
      omega
    have hrest := ofDigitChars_lt (n := 10 * n + (d.toNat - '0'.toNat))
      fun c hc => h c (List.mem_cons_of_mem _ hc)
    rw [Nat.ofDigitChars_cons, List.length_cons, Nat.pow_succ']
    refine Nat.lt_of_lt_of_le hrest ?_
    rw [← Nat.mul_assoc]
    exact Nat.mul_le_mul_right _ (by omega)

/-- The digits that a bounded number is read from. -/
theorem take_of_readNumber {most : Nat} {cs rest : List Char}
    (h : readNumber (some most) cs = .ok (n, rest)) :
    cs.take (cs.length - rest.length) = (cs.take most).takeWhile Char.isDigit := by
  unfold readNumber at h
  dsimp only at h
  split at h
  · cases h
  · cases h
    have hprefix : (cs.take most).takeWhile Char.isDigit <+: cs :=
      (List.takeWhile_prefix _).trans (List.take_prefix _ _)
    have hlength := hprefix.length_le
    rw [List.length_drop, Nat.sub_sub_self hlength]
    exact (List.prefix_iff_eq_take.mp hprefix).symm

theorem readFraction_lt {cs rest : List Char} (h : readFraction cs = .ok (n, rest)) :
    n < 1000000000 := by
  unfold readFraction at h
  split at h
  · rename_i cs
    obtain ⟨⟨m, rest'⟩, hread, h⟩ := bind_eq_ok_iff.mp h
    have htake := take_of_readNumber hread
    have hlength : ((cs.take 9).takeWhile Char.isDigit).length ≤ 9 :=
      Nat.le_trans (List.takeWhile_prefix _).length_le (List.length_take_le 9 cs)
    have hdigits : ∀ d ∈ (cs.take 9).takeWhile Char.isDigit, d.isDigit = true :=
      fun _ hd => List.mem_takeWhile_imp hd
    generalize (cs.take 9).takeWhile Char.isDigit = ds at htake hlength hdigits
    have hvalue := ofDigitChars_lt (n := 0) hdigits
    rw [Nat.zero_add, Nat.one_mul] at hvalue
    cases h
    rw [htake]
    calc digitsValue ds * tenPow (9 - ds.length)
        < 10 ^ ds.length * 10 ^ (9 - ds.length) :=
          Nat.mul_lt_mul_of_pos_right hvalue (Nat.pow_pos (by decide))
      _ = 1000000000 := by rw [← Nat.pow_add, Nat.add_sub_cancel' hlength]
  · cases h
    decide

theorem readOffsetAfterSign_minutes {negative : Bool} {cs rest : List Char} {offset : Int}
    (h : readOffsetAfterSign negative cs = .ok (offset, rest)) : offset % 60 = 0 := by
  obtain ⟨⟨a, b, cs'⟩, -, h⟩ := bind_eq_ok_iff.mp h
  obtain ⟨⟨minutes, rest'⟩, -, h⟩ := bind_eq_ok_iff.mp h
  cases h
  cases negative <;> simp <;> omega

/-- An offset has whole minutes. -/
theorem readOffset_minutes {cs rest : List Char} {offset : Int}
    (h : readOffset cs = .ok (offset, rest)) : offset % 60 = 0 := by
  unfold readOffset at h
  split at h
  · cases h
    rfl
  · cases cs with
    | nil => cases h
    | cons c cs =>
      dsimp only at h
      split_ifs at h
      · cases h
        rfl
      · exact readOffsetAfterSign_minutes h
      · exact readOffsetAfterSign_minutes h

theorem valid_of_instantOf? {date : Date} {hour minute second nano : Nat} {offset : Int}
    {t : Instant} (hnano : nano < 1000000000) (hoffset : offset % 60 = 0)
    (h : instantOf? date hour minute second nano offset = .ok t) : t.Valid := by
  unfold instantOf? at h
  dsimp only at h
  split_ifs at h with hrange hyear hlast
  · cases h
    refine ⟨hyear, ?_, fun _ => ?_⟩
    · dsimp only
      omega
    · dsimp only
      omega
  · cases h
    refine ⟨hyear, ?_, fun hleap => ?_⟩
    · dsimp only
      omega
    · exact absurd hnano (Nat.not_lt.mpr hleap)

/-- Only valid instants are read. -/
theorem valid_of_parse {s : String} {t : Instant} (h : parse s = .ok t) : t.Valid := by
  unfold parse readInstant at h
  obtain ⟨⟨year, _⟩, -, h⟩ := bind_eq_ok_iff.mp h
  obtain ⟨_, -, h⟩ := bind_eq_ok_iff.mp h
  obtain ⟨⟨month, _⟩, -, h⟩ := bind_eq_ok_iff.mp h
  obtain ⟨_, -, h⟩ := bind_eq_ok_iff.mp h
  obtain ⟨⟨day, _⟩, -, h⟩ := bind_eq_ok_iff.mp h
  obtain ⟨_, -, h⟩ := bind_eq_ok_iff.mp h
  obtain ⟨⟨hour, _⟩, -, h⟩ := bind_eq_ok_iff.mp h
  obtain ⟨_, -, h⟩ := bind_eq_ok_iff.mp h
  obtain ⟨⟨minute, _⟩, -, h⟩ := bind_eq_ok_iff.mp h
  obtain ⟨_, -, h⟩ := bind_eq_ok_iff.mp h
  obtain ⟨⟨second, _⟩, -, h⟩ := bind_eq_ok_iff.mp h
  obtain ⟨⟨nano, _⟩, hnano, h⟩ := bind_eq_ok_iff.mp h
  obtain ⟨⟨offset, _⟩, hoffset, h⟩ := bind_eq_ok_iff.mp h
  dsimp only at h
  split at h
  · exact valid_of_instantOf? (readFraction_lt hnano) (readOffset_minutes hoffset) h
  · cases h

end Rfc3339

end IamConvergence
