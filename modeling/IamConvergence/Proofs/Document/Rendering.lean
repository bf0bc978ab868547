/-
How a value may be written as a document: blanks stand freely between tokens, the members of an
object come in any order, integers are in plain decimal, and each character of a text stands for
itself or is escaped in any way that there is for it. What the writer writes is one such rendering.
-/
import Mathlib.Data.List.Forall2
import IamConvergence.Document.Reader
import IamConvergence.Document.Writer
import IamConvergence.Proofs.Document.Alike

namespace IamConvergence

/-! ## Texts -/

/-- A hexadecimal digit of either case. -/
def HexDigit (d : Nat) (c : Char) : Prop :=
  d < 16 ∧ (c = Nat.digitChar d ∨ c = (Nat.digitChar d).toUpper)

instance (d : Nat) (c : Char) : Decidable (HexDigit d c) := inferInstanceAs (Decidable (_ ∧ _))

/-- Four hexadecimal digits. -/
inductive HexWritten : Nat → List Char → Prop where
  | digits {d₃ d₂ d₁ d₀ : Nat} {c₃ c₂ c₁ c₀ : Char} (h₃ : HexDigit d₃ c₃) (h₂ : HexDigit d₂ c₂)
    (h₁ : HexDigit d₁ c₁) (h₀ : HexDigit d₀ c₀) :
    HexWritten (((d₃ * 16 + d₂) * 16 + d₁) * 16 + d₀) [c₃, c₂, c₁, c₀]

/-- Characters with the letters by which they are escaped. -/
def shortEscapes : List (Char × Char) :=
  [('"', '"'), ('\\', '\\'), ('/', '/'), ('\x08', 'b'), ('\x0c', 'f'), ('\n', 'n'), ('\r', 'r'),
    ('\t', 't')]

/-- How a character may stand between quotes. -/
inductive CharWritten (c : Char) : List Char → Prop where
  | plain (printable : 0x20 ≤ c.toNat) (quote : c ≠ '"') (backslash : c ≠ '\\') : CharWritten c [c]
  | short {letter : Char} (h : (c, letter) ∈ shortEscapes) : CharWritten c ['\\', letter]
  | unit {ds : List Char} (digits : HexWritten c.toNat ds) : CharWritten c ('\\' :: 'u' :: ds)
  /-- A character beyond 16 bits takes the escapes of a surrogate pair. -/
  | pair {hs ls : List Char} (beyond : 0x10000 ≤ c.toNat)
    (high : HexWritten (0xD800 + (c.toNat - 0x10000) / 0x400) hs)
    (low : HexWritten (0xDC00 + (c.toNat - 0x10000) % 0x400) ls) :
    CharWritten c ('\\' :: 'u' :: (hs ++ '\\' :: 'u' :: ls))

/-- How a text may be written. -/
inductive TextWritten (s : String) : List Char → Prop where
  | quoted {forms : List (List Char)} (chars : List.Forall₂ CharWritten s.toList forms) :
    TextWritten s ('"' :: (forms.flatten ++ ['"']))

/-! ## Values -/

/-- Characters that may stand between tokens. -/
def Blanks (cs : List Char) : Prop := ∀ c ∈ cs, Document.isBlank c = true

instance (cs : List Char) : Decidable (Blanks cs) := List.decidableBAll _ cs

/-- A mark with blanks around it. -/
inductive Spaced (mark : Char) : List Char → Prop where
  | around {before after : List Char} (hbefore : Blanks before) (hafter : Blanks after) :
    Spaced mark (before ++ mark :: after)

theorem blanks_nil : Blanks [] := List.forall_mem_nil _

theorem spaced_mark (mark : Char) : Spaced mark [mark] := .around blanks_nil blanks_nil

section

variable {α : Type} (W : α → List Char → Prop)

/-- How one or more things may be written with commas between them. -/
inductive Separated : List α → List Char → Prop where
  | last {a : α} {t : List Char} (item : W a t) : Separated [a] t
  | more {a : α} {as : List α} {t s ts : List Char} (item : W a t) (comma : Spaced ',' s)
    (rest : Separated as ts) : Separated (a :: as) (t ++ (s ++ ts))

/-- How things may be written between an opening and a closing mark. -/
inductive Enclosed (opening closing : Char) : List α → List Char → Prop where
  | empty {b : List Char} (blanks : Blanks b) :
    Enclosed opening closing [] (opening :: (b ++ [closing]))
  | items {as : List α} {b ts b' : List Char} (before : Blanks b) (items : Separated W as ts)
    (after : Blanks b') : Enclosed opening closing as (opening :: (b ++ (ts ++ (b' ++ [closing]))))

end

/-- How a member of an object may be written. -/
inductive MemberWritten (W : Value → List Char → Prop) : String × Value → List Char → Prop where
  | pair {k : String} {v : Value} {q s t : List Char} (key : TextWritten k q) (colon : Spaced ':' s)
    (value : W v t) : MemberWritten W (k, v) (q ++ (s ++ t))

namespace Value

/-- How a value whose numbers are integers may be written. -/
inductive Written : Value → List Char → Prop where
  | null : Written .null ['n', 'u', 'l', 'l']
  | true : Written (.bool true) ['t', 'r', 'u', 'e']
  | false : Written (.bool false) ['f', 'a', 'l', 's', 'e']
  | integer (i : Int) : Written (.int i) (intChars i)
  | text {s : String} {t : List Char} (h : TextWritten s t) : Written (.text s) t
  | array {vs : List Value} {t : List Char} (h : Enclosed Written '[' ']' vs t) :
    Written (.array vs) t
  | object {ms ns : List (String × Value)} {t : List Char} (order : ns.Perm ms)
    (h : Enclosed (MemberWritten Written) '{' '}' ns t) : Written (.object ms) t

/-- A document renders a value, with blanks before and after it. -/
def RenderedAs (v : Value) (doc : String) : Prop :=
  ∃ b t b', Blanks b ∧ v.Written t ∧ Blanks b' ∧ doc.toList = b ++ (t ++ b')

/-! ## What the writer writes -/

theorem hexDigit_digitChar {d : Nat} (h : d < 16) : HexDigit d (Nat.digitChar d) := ⟨h, .inl rfl⟩

theorem charWritten_escapeChar (c : Char) : CharWritten c (escapeChar c) := by
  unfold escapeChar
  split
  case h_8 =>
    split
    · rename_i hcontrol
      have hhigh : c.toNat / 16 < 16 := by omega
      have hwritten := HexWritten.digits (hexDigit_digitChar (by decide : 0 < 16))
        (hexDigit_digitChar (by decide : 0 < 16)) (hexDigit_digitChar hhigh)
        (hexDigit_digitChar (Nat.mod_lt c.toNat (by decide)))
      have hnumber : ((0 * 16 + 0) * 16 + c.toNat / 16) * 16 + c.toNat % 16 = c.toNat := by omega
      rw [hnumber] at hwritten
      exact .unit hwritten
    · rename_i hquote hbackslash _ _ _ _ _ hprintable
      exact .plain (by omega) hquote hbackslash
  all_goals exact .short (by decide)

theorem textWritten_textChars (s : String) : TextWritten s (textChars s) := by
  refine .quoted (List.forall₂_map_right_iff.mpr (List.forall₂_same.mpr fun c _ => ?_))
  exact charWritten_escapeChar c

/-- Every number of a value is an integer. -/
def Integral (v : Value) : Prop := ∀ n, v.HasNumber n → ∃ i, n = .integer i

@[simp] theorem integral_int (i : Int) : (Value.int i).Integral := by
  rintro n (_ | _)
  exact ⟨i, rfl⟩

@[simp] theorem integral_text (s : String) : (Value.text s).Integral := nofun

@[simp] theorem integral_array_iff {vs : List Value} :
    (Value.array vs).Integral ↔ ∀ v ∈ vs, v.Integral := by
  refine ⟨fun h v hv n hn => h n (.item hv hn), ?_⟩
  rintro h n (_ | ⟨hv, hn⟩)
  exact h _ hv n hn

@[simp] theorem integral_object_iff {ms : List (String × Value)} :
    (Value.object ms).Integral ↔ ∀ m ∈ ms, m.2.Integral := by
  refine ⟨fun h m hm n hn => h n (.member hm hn), ?_⟩
  rintro h n (_ | _ | ⟨hm, hn⟩)
  exact h _ hm n hn

theorem separated_itemsChars {v : Value} : ∀ {vs : List Value}, v.Written v.chars →
    (∀ w ∈ vs, w.Written w.chars) →
    ∃ ts, Separated Written (v :: vs) ts ∧ v.chars ++ itemsChars vs = ts ++ [']']
  | [], hv, _ => ⟨v.chars, .last hv, rfl⟩
  | w :: vs, hv, hvs => by
    obtain ⟨hw, hvs⟩ := List.forall_mem_cons.mp hvs
    obtain ⟨ts, hts, heq⟩ := separated_itemsChars hw hvs
    refine ⟨_, .more hv (spaced_mark ',') hts, ?_⟩
    rw [itemsChars]
    simp [heq]

theorem separated_membersChars {k : String} {v : Value} : ∀ {ms : List (String × Value)},
    v.Written v.chars → (∀ m ∈ ms, m.2.Written m.2.chars) →
    ∃ ts, Separated (MemberWritten Written) ((k, v) :: ms) ts ∧
      textChars k ++ ':' :: v.chars ++ membersChars ms = ts ++ ['}']
  | [], hv, _ => by
    have hmember := MemberWritten.pair (textWritten_textChars k) (spaced_mark ':') hv
    exact ⟨_, .last hmember, rfl⟩
  | (l, w) :: ms, hv, hms => by
    obtain ⟨hw, hms⟩ := List.forall_mem_cons.mp hms
    obtain ⟨ts, hts, heq⟩ := separated_membersChars hw hms
    have hmember := MemberWritten.pair (textWritten_textChars k) (spaced_mark ':') hv
    refine ⟨_, .more hmember (spaced_mark ',') hts, ?_⟩
    rw [membersChars]
    simp at heq
    simp [heq]

mutual

/-- What the writer writes of a value whose numbers are integers is a rendering of it. -/
theorem written_chars : ∀ (v : Value), v.Integral → v.Written v.chars
  | .null, _ => .null
  | .bool true, _ => .true
  | .bool false, _ => .false
  | .number n, h => by
    obtain ⟨i, rfl⟩ := h n .here
    exact .integer i
  | .text s, _ => .text (textWritten_textChars s)
  | .array [], _ => .array (.empty blanks_nil)
  | .array (v :: vs), h => by
    have hvs : ∀ w ∈ v :: vs, w.Written w.chars :=
      written_items (v :: vs) (integral_array_iff.mp h)
    obtain ⟨hv, hvs⟩ := List.forall_mem_cons.mp hvs
    obtain ⟨ts, hts, heq⟩ := separated_itemsChars hv hvs
    rw [chars, List.cons_append, heq]
    exact .array (.items blanks_nil hts blanks_nil)
  | .object [], _ => .object (.refl _) (.empty blanks_nil)
  | .object ((k, v) :: ms), h => by
    have hms : ∀ m ∈ (k, v) :: ms, m.2.Written m.2.chars :=
      written_members ((k, v) :: ms) (integral_object_iff.mp h)
    obtain ⟨hv, hms⟩ := List.forall_mem_cons.mp hms
    obtain ⟨ts, hts, heq⟩ := separated_membersChars (k := k) hv hms
    rw [chars, List.cons_append, List.cons_append, heq]
    exact .object (.refl _) (.items blanks_nil hts blanks_nil)

theorem written_items : ∀ (vs : List Value), (∀ v ∈ vs, v.Integral) → ∀ v ∈ vs, v.Written v.chars
  | [], _ => List.forall_mem_nil _
  | v :: vs, h => by
    obtain ⟨hv, hvs⟩ := List.forall_mem_cons.mp h
    exact List.forall_mem_cons.mpr ⟨written_chars v hv, written_items vs hvs⟩

theorem written_members : ∀ (ms : List (String × Value)), (∀ m ∈ ms, m.2.Integral) →
    ∀ m ∈ ms, m.2.Written m.2.chars
  | [], _ => List.forall_mem_nil _
  | (k, v) :: ms, h => by
    obtain ⟨hv, hms⟩ := List.forall_mem_cons.mp h
    exact List.forall_mem_cons.mpr ⟨written_chars v hv, written_members ms hms⟩

end

theorem renderedAs_render {v : Value} (h : v.Integral) : v.RenderedAs v.render := by
  refine ⟨[], v.chars, [], blanks_nil, written_chars v h, blanks_nil, ?_⟩
  rw [render, String.toList_ofList, List.append_nil, List.nil_append]

end Value

end IamConvergence
