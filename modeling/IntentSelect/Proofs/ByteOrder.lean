import Mathlib.Tactic.SplitIfs

/-! # The order of texts by bytes

Texts are compared character by character, by code points.  Their order by the bytes
of their UTF-8 encodings is the same one (`le_iff_utf8_le`).  The reason is that the
encodings of two characters differ at a byte that both have, and there the greater
character has the greater byte (`encode_lt`): a longer encoding begins with a greater
byte, and of two that are equally long the bytes are digits of the code points, the
highest first.
-/
namespace IntentSelect.Text
variable {a b : Nat} {c d : Char} {s t : String}

/-- The bytes of a text in UTF-8. -/
def utf8 (s : String) : List UInt8 := s.toUTF8.data.toList

theorem utf8_eq_flatMap (s : String) : utf8 s = s.toList.flatMap String.utf8EncodeChar := by
  have henc : s.toUTF8 = s.toList.utf8Encode := String.utf8Encode_toList.symm
  rw [utf8, henc, List.utf8Encode, List.data_toByteArray]

theorem ofNat_cons_lt_ofNat_cons (ha : a < 256) (hb : b < 256) {l l' : List UInt8} :
    UInt8.ofNat a :: l < UInt8.ofNat b :: l' ↔ a < b ∨ a = b ∧ l < l' := by
  rw [List.cons_lt_cons_iff, UInt8.lt_iff_toNat_lt, ← UInt8.toNat_inj,
    UInt8.toNat_ofNat_of_lt' ha, UInt8.toNat_ofNat_of_lt' hb]

theorem toNat_lt_of_valid (c : Char) : c.val.toNat < 0x110000 := by
  have hvalid := c.valid
  simp only [UInt32.isValidChar, Nat.isValidChar] at hvalid
  omega

/-- The encoding of a smaller character is smaller, whatever follows. -/
theorem encode_lt (h : c < d) (l l' : List UInt8) :
    String.utf8EncodeChar c ++ l < String.utf8EncodeChar d ++ l' := by
  have hlt : c.val.toNat < d.val.toNat := h
  have hc := toNat_lt_of_valid c
  have hd := toNat_lt_of_valid d
  rw [String.utf8EncodeChar, String.utf8EncodeChar]
  generalize c.val.toNat = m at *
  generalize d.val.toNat = n at *
  -- the digits to base 64, for two encodings of the same length
  have hm₂ : m / 4096 = m / 64 / 64 := (Nat.div_div_eq_div_mul m 64 64).symm
  have hn₂ : n / 4096 = n / 64 / 64 := (Nat.div_div_eq_div_mul n 64 64).symm
  have hm₃ : m / 262144 % 8 = m / 4096 / 64 := by omega
  have hn₃ : n / 262144 % 8 = n / 4096 / 64 := by omega
  split_ifs <;> (try omega) <;>
    simp (disch := omega) only [List.cons_append, List.nil_append, ofNat_cons_lt_ofNat_cons] <;>
    omega

/-- Encoding keeps the order of lists of characters. -/
theorem flatMap_encode_lt {l l' : List Char} (h : l < l') :
    l.flatMap String.utf8EncodeChar < l'.flatMap String.utf8EncodeChar := by
  induction l generalizing l' with
  | nil =>
    cases l' with
    | nil => exact absurd h (List.not_lt_nil _)
    | cons d ds =>
      rw [List.flatMap_nil, List.flatMap_cons]
      cases henc : String.utf8EncodeChar d with
      | nil => exact absurd henc String.utf8EncodeChar_ne_nil
      | cons b bs => exact List.nil_lt_cons _ _
  | cons c cs ih =>
    cases l' with
    | nil => exact absurd h (List.not_lt_nil _)
    | cons d ds =>
      rw [List.flatMap_cons, List.flatMap_cons]
      rcases List.cons_lt_cons_iff.mp h with hlt | ⟨rfl, hlt⟩
      · exact encode_lt hlt _ _
      · exact List.append_left_lt (ih hlt)

theorem utf8_lt (h : s < t) : utf8 s < utf8 t := by
  rw [utf8_eq_flatMap, utf8_eq_flatMap]
  exact flatMap_encode_lt h

/-- **Texts are in the order of their bytes.** -/
theorem le_iff_utf8_le : s ≤ t ↔ utf8 s ≤ utf8 t := by
  constructor
  · intro hle hlt
    by_cases h : s < t
    · exact List.lt_asymm hlt (utf8_lt h)
    · rw [String.le_antisymm hle h] at hlt
      exact List.lt_irrefl _ hlt
  · intro hle hlt
    exact hle (utf8_lt hlt)

theorem lt_iff_utf8_lt : s < t ↔ utf8 s < utf8 t := by
  rw [← String.not_le, ← List.not_le, le_iff_utf8_le]

end IntentSelect.Text
