/-
Every rendering of a text or of an integer is read as that text or integer, whatever stands after
it: of an integer, whatever does not go on with it.
-/
import IamConvergence.Proofs.Document.Rendering

namespace IamConvergence

theorem HexWritten.length_eq {n : Nat} {ds : List Char} (h : HexWritten n ds) : ds.length = 4 := by
  cases h
  rfl

namespace Document

open Numeral (WithRest)

variable {b cs ds rest : List Char} {c : Char}

/-! ## Blanks -/

theorem skipBlanks_append (h : Blanks b) (cs : List Char) :
    skipBlanks (b ++ cs) = skipBlanks cs :=
  List.dropWhile_append_of_pos h

theorem skipBlanks_cons (h : isBlank c = false) (cs : List Char) :
    skipBlanks (c :: cs) = c :: cs :=
  List.dropWhile_cons_of_neg (by rw [h]; exact Bool.false_ne_true)

/-! ## Texts -/

theorem readChars_skip : ∀ (cs rest : List Char),
    readChars cs.length (cs ++ rest) = readChars 0 rest
  | [], _ => rfl
  | c :: cs, rest => by
    rw [List.length_cons, List.cons_append, readChars]
    exact readChars_skip cs rest

theorem hexValue?_of_hexDigit {d : Nat} (h : HexDigit d c) : hexValue? c = some d := by
  have hdigits : ∀ d < 16, hexValue? (Nat.digitChar d) = some d ∧
      hexValue? (Nat.digitChar d).toUpper = some d := by decide
  obtain ⟨hd, rfl | rfl⟩ := h
  · exact (hdigits d hd).1
  · exact (hdigits d hd).2

theorem readHexFour_of_written {n : Nat} (h : HexWritten n ds) (rest : List Char) :
    readHexFour (ds ++ rest) = .ok (n, rest) := by
  cases h with
  | digits h₃ h₂ h₁ h₀ =>
    simp [readHexFour, hexFour?, hexValue?_of_hexDigit h₃, hexValue?_of_hexDigit h₂,
      hexValue?_of_hexDigit h₁, hexValue?_of_hexDigit h₀]

/-- A character is no half of a surrogate pair. -/
theorem toNat_scalar (c : Char) :
    c.toNat < 0xD800 ∨ 0xDFFF < c.toNat ∧ c.toNat < 0x110000 := c.valid

theorem readUnicode_unit (h : HexWritten c.toNat ds) (rest : List Char) :
    readUnicode (ds ++ rest) = .ok (c, 4) := by
  have hscalar := toNat_scalar c
  have hlow : isLowSurrogate c.toNat = false := by
    simp [isLowSurrogate]
    omega
  have hhigh : isHighSurrogate c.toNat = false := by
    simp [isHighSurrogate]
    omega
  simp [readUnicode, readHexFour_of_written h, hlow, hhigh, bind, Except.bind]

theorem readUnicode_pair {hs ls : List Char} (beyond : 0x10000 ≤ c.toNat)
    (high : HexWritten (0xD800 + (c.toNat - 0x10000) / 0x400) hs)
    (low : HexWritten (0xDC00 + (c.toNat - 0x10000) % 0x400) ls) (rest : List Char) :
    readUnicode (hs ++ '\\' :: 'u' :: (ls ++ rest)) = .ok (c, 10) := by
  have hscalar := toNat_scalar c
  have hnotLow : isLowSurrogate (0xD800 + (c.toNat - 0x10000) / 0x400) = false := by
    simp [isLowSurrogate]
    omega
  have hhigh : isHighSurrogate (0xD800 + (c.toNat - 0x10000) / 0x400) = true := by
    simp [isHighSurrogate]
    omega
  have hlow : isLowSurrogate (0xDC00 + (c.toNat - 0x10000) % 0x400) = true := by
    simp [isLowSurrogate]
    omega
  have hchar : 0x10000 + (0xD800 + (c.toNat - 0x10000) / 0x400 - 0xD800) * 0x400 +
      (0xDC00 + (c.toNat - 0x10000) % 0x400 - 0xDC00) = c.toNat := by omega
  simp only [readUnicode, readHexFour_of_written high, bind, Except.bind, hnotLow, hhigh,
    Bool.false_eq_true, if_false, if_true, readLowSurrogate, readHexFour_of_written low, hlow,
    hchar, Char.ofNat_toNat]

/-- An escape is read as the character that it stands for. -/
theorem unescape_of_written (h : CharWritten c ('\\' :: ds)) (rest : List Char) :
    unescape (ds ++ rest) = .ok (c, ds.length) := by
  cases h with
  | plain printable quote backslash => exact absurd rfl backslash
  | @short letter h =>
    simp only [shortEscapes, List.mem_cons, Prod.mk.injEq, List.not_mem_nil, or_false] at h
    rcases h with ⟨rfl, rfl⟩ | ⟨rfl, rfl⟩ | ⟨rfl, rfl⟩ | ⟨rfl, rfl⟩ | ⟨rfl, rfl⟩ | ⟨rfl, rfl⟩ |
      ⟨rfl, rfl⟩ | ⟨rfl, rfl⟩ <;> rfl
  | @unit ds digits =>
    rw [List.cons_append, unescape, readUnicode_unit digits]
    simp [Except.map, digits.length_eq]
  | @pair hs ls beyond high low =>
    rw [List.cons_append, List.append_assoc, List.cons_append, List.cons_append, unescape,
      readUnicode_pair beyond high low]
    simp [Except.map, high.length_eq, low.length_eq]

theorem readChars_of_escape (h : CharWritten c ('\\' :: ds)) (rest : List Char) :
    readChars 0 ('\\' :: ds ++ rest) =
      (readChars 0 rest).map fun (xs, left) => (c :: xs, left) := by
  have hquote : '\\' ≠ '"' := by decide
  rw [List.cons_append, readChars, if_neg hquote, if_pos rfl, unescape_of_written h]
  show (readChars ds.length (ds ++ rest) >>= _) = _
  rw [readChars_skip]
  cases readChars 0 rest <;> rfl

/-- What stands for a character between quotes is read as it. -/
theorem readChars_of_written {form : List Char} (h : CharWritten c form) (rest : List Char) :
    readChars 0 (form ++ rest) = (readChars 0 rest).map fun (xs, left) => (c :: xs, left) := by
  cases h with
  | plain printable quote backslash =>
    rw [List.singleton_append, readChars, if_neg quote, if_neg backslash,
      if_neg (Nat.not_lt.mpr printable)]
    cases readChars 0 rest <;> rfl
  | short h => exact readChars_of_escape (.short h) rest
  | unit digits => exact readChars_of_escape (.unit digits) rest
  | pair beyond high low => exact readChars_of_escape (.pair beyond high low) rest

theorem readChars_of_forms {cs : List Char} {forms : List (List Char)}
    (h : List.Forall₂ CharWritten cs forms) (rest : List Char) :
    readChars 0 (forms.flatten ++ '"' :: rest) = .ok (cs, rest) := by
  induction h with
  | nil => rfl
  | cons hc hcs ih =>
    rw [List.flatten_cons, List.append_assoc, readChars_of_written hc, ih]
    rfl

/-- A text is read after its opening quote. -/
theorem exists_of_textWritten {s : String} {t : List Char} (h : TextWritten s t) :
    ∃ t', t = '"' :: t' ∧ ∀ rest, readText (t' ++ rest) = .ok (s, rest) := by
  cases h with
  | @quoted forms chars =>
    refine ⟨_, rfl, fun rest => ?_⟩
    rw [readText, List.append_assoc, List.singleton_append, readChars_of_forms chars]
    simp [Except.map]

end Document

/-! ## Integers -/

namespace Numeral

open Document

variable {ds rest : List Char}

/-- What follows a number does not go on with it. -/
def Ends (rest : List Char) : Prop :=
  ∀ c ∈ rest.head?, c.isDigit = false ∧ c ≠ '.' ∧ isExponentMark c = false

theorem spanDigits_append (hds : ∀ d ∈ ds, d.isDigit = true) (hrest : Ends rest) :
    spanDigits (ds ++ rest) = (ds, rest) := by
  have htake : rest.takeWhile Char.isDigit = [] := by
    cases rest with
    | nil => rfl
    | cons c cs => exact List.takeWhile_cons_of_neg (by simp [(hrest c rfl).1])
  have hdrop : rest.dropWhile Char.isDigit = rest := by
    cases rest with
    | nil => rfl
    | cons c cs => exact List.dropWhile_cons_of_neg (by simp [(hrest c rfl).1])
  rw [spanDigits, List.takeWhile_append_of_pos hds, List.dropWhile_append_of_pos hds, htake, hdrop,
    List.append_nil]

theorem le_ofDigitChars (n : Nat) : ∀ (ds : List Char), n ≤ Nat.ofDigitChars 10 ds n
  | [] => Nat.le_refl n
  | d :: ds => by
    rw [Nat.ofDigitChars_cons]
    exact Nat.le_trans (by omega) (le_ofDigitChars _ ds)

/-- A significand takes all digits of a number that fits. -/
theorem absorb_eq : ∀ (ds : List Char) (n : Nat), Nat.ofDigitChars 10 ds n < twoPow 64 →
    absorb n ds = (Nat.ofDigitChars 10 ds n, [])
  | [], n, _ => rfl
  | d :: ds, n, h => by
    rw [Nat.ofDigitChars_cons] at h ⊢
    have hnext : n * 10 + digitValue d = 10 * n + (d.toNat - '0'.toNat) := by
      rw [digitValue, Nat.mul_comm]
    have hfits : n * 10 + digitValue d < twoPow 64 := by
      rw [hnext]
      exact Nat.lt_of_le_of_lt (le_ofDigitChars _ ds) h
    simp only [absorb]
    rw [if_pos hfits, hnext]
    exact absorb_eq ds _ h

theorem head?_toDigits_ne (n : Nat) (hn : n ≠ 0) : (Nat.toDigits 10 n).head? ≠ some '0' := by
  induction n using Nat.strongRecOn with
  | ind n ih =>
    rw [Nat.toDigits_eq_if (by decide : 1 < 10)]
    split
    · rw [List.head?_singleton]
      exact fun h => hn (Nat.digitChar_eq_zero.mp (Option.some.inj h))
    · rename_i hlarge
      have hinit := ih (n / 10) (Nat.div_lt_self (by omega) (by decide)) (by omega)
      rwa [List.head?_append_of_ne_nil _ Nat.toDigits_ne_nil]

theorem afterInteger_of_ends (negative : Bool) (n : Nat) (hrest : Ends rest) :
    afterInteger negative n 0 rest = whole negative n rest := by
  cases rest with
  | nil => rfl
  | cons c cs =>
    obtain ⟨-, hpoint, hmark⟩ := hrest c rfl
    unfold afterInteger
    split
    · rename_i heq
      exact absurd (List.cons.inj heq).1 hpoint
    · rename_i heq
      obtain ⟨rfl, rfl⟩ := List.cons.inj heq
      rw [hmark, if_neg Bool.false_ne_true, if_pos rfl]
    · rename_i heq
      cases heq

/-- The decimal digits of an integer of at most 64 bits are read as it. -/
theorem read_toDigits (negative : Bool) {n : Nat} (hn : n < twoPow 64) (hrest : Ends rest) :
    read negative (Nat.toDigits 10 n ++ rest) = whole negative n rest := by
  have hdigits : ∀ d ∈ Nat.toDigits 10 n, d.isDigit = true := fun d hd =>
    Nat.isDigit_of_mem_toDigits (by decide) (by decide) hd
  by_cases hzero : n = 0
  · subst hzero
    have hhead : rest.head?.any Char.isDigit = false := by
      cases rest with
      | nil => rfl
      | cons c cs => exact (hrest c rfl).1
    rw [Nat.toDigits_zero, List.singleton_append, read, if_neg (by decide), if_pos rfl, hhead,
      if_neg Bool.false_ne_true, afterInteger_of_ends negative 0 hrest]
  · have hspan := spanDigits_append hdigits hrest
    have habsorb : absorb 0 (Nat.toDigits 10 n) = (n, []) := by
      have hvalue : Nat.ofDigitChars 10 (Nat.toDigits 10 n) 0 = n := Nat.ofDigitChars_ten_toDigits
      rw [absorb_eq _ 0 (by rwa [hvalue]), hvalue]
    have hfirst := head?_toDigits_ne n hzero
    cases hds : Nat.toDigits 10 n with
    | nil => exact absurd hds Nat.toDigits_ne_nil
    | cons d ds =>
      rw [hds] at hdigits hspan habsorb hfirst
      have hd : ¬(!d.isDigit) = true := by simp [hdigits d List.mem_cons_self]
      have hne : d ≠ '0' := fun heq => hfirst (congrArg some heq)
      rw [List.cons_append] at hspan ⊢
      rw [read, if_neg hd, if_neg hne, hspan]
      simp only [habsorb]
      exact afterInteger_of_ends negative n hrest

end Numeral

namespace Document

open Numeral (Ends)

variable {b rest : List Char}

/-! ## What follows a value -/

theorem ends_append (hb : Blanks b) (hrest : Ends rest) : Ends (b ++ rest) := by
  cases b with
  | nil => exact hrest
  | cons c cs =>
    intro d hd
    obtain rfl : c = d := Option.some.inj hd
    have hblank := hb c List.mem_cons_self
    simp only [isBlank, Bool.or_eq_true, beq_iff_eq] at hblank
    rcases hblank with ((rfl | rfl) | rfl) | rfl <;> decide

theorem ends_mark {mark : Char} (hmark : mark ∈ [',', ']', '}']) (cs : List Char) :
    Ends (mark :: cs) := by
  intro d hd
  obtain rfl : mark = d := Option.some.inj hd
  simp only [List.mem_cons, List.not_mem_nil, or_false] at hmark
  rcases hmark with rfl | rfl | rfl <;> decide

theorem skipBlanks_mark {mark : Char} (hb : Blanks b) (hmark : isBlank mark = false)
    (cs : List Char) : skipBlanks (b ++ mark :: cs) = mark :: cs := by
  rw [skipBlanks_append hb, skipBlanks_cons hmark]

end Document

end IamConvergence
