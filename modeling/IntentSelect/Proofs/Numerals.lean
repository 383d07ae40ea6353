import IntentSelect.Json.Printer
import IntentSelect.Json.Scanner
import Mathlib.Data.List.Basic

/-! # Texts of numbers

A numeral is what the number grammar of JSON allows: digits that do not begin with a zero unless
there is nothing else, perhaps after a minus sign, and perhaps with a fraction and an exponent
behind them (`IsNumeral`).  The texts of all integers and of all finite doubles are numerals
(`isNumeral_wholeChars`, `isNumeral_of_writeDouble?`).  For the doubles nothing has to be known
about the digits that are found but that there are some which are not zero.

An integer is also read back from its text, whatever comes after it that does not go on with the
number (`scanNumber_wholeChars`): up to 64 bits no digit is dropped.
-/
namespace IntentSelect.Json

open Decimal

/-! ## The grammar of numbers -/

/-- One digit or more. -/
def IsDigits (cs : List Char) : Prop := cs ≠ [] ∧ ∀ c ∈ cs, c.isDigit = true

/-- The digits before a point: they do not begin with a zero unless there is only that. -/
def IsInteger (cs : List Char) : Prop := IsDigits cs ∧ (cs.head? = some '0' → cs = ['0'])

/-- A point and the digits after it, or nothing. -/
inductive IsFraction : List Char → Prop where
  | none : IsFraction []
  | digits {ds : List Char} (h : IsDigits ds) : IsFraction ('.' :: ds)

/-- The mark of an exponent, its sign if it has one, and its digits, or nothing. -/
inductive IsExponent : List Char → Prop where
  | none : IsExponent []
  | unsigned {mark : Char} {ds : List Char} (hmark : isExponentMark mark = true)
    (h : IsDigits ds) : IsExponent (mark :: ds)
  | signed {mark sign : Char} {ds : List Char} (hmark : isExponentMark mark = true)
    (hsign : sign = '+' ∨ sign = '-') (h : IsDigits ds) : IsExponent (mark :: sign :: ds)

/-- A number without a sign. -/
inductive IsUnsigned : List Char → Prop where
  | parts {whole fraction exponent : List Char} (hwhole : IsInteger whole)
    (hfraction : IsFraction fraction) (hexponent : IsExponent exponent) :
    IsUnsigned (whole ++ fraction ++ exponent)

/-- A number in the grammar of JSON. -/
inductive IsNumeral : List Char → Prop where
  | unsigned {cs : List Char} (h : IsUnsigned cs) : IsNumeral cs
  | negative {cs : List Char} (h : IsUnsigned cs) : IsNumeral ('-' :: cs)

section Digits
variable {cs ds : List Char} {n : Nat}

theorem isDigits_toDigits (n : Nat) : IsDigits (Nat.toDigits 10 n) :=
  ⟨Nat.toDigits_ne_nil, fun _ => Nat.isDigit_of_mem_toDigits (by decide) (by decide)⟩

theorem isDigits_singleton {c : Char} (h : c.isDigit = true) : IsDigits [c] :=
  ⟨nofun, List.forall_mem_singleton.mpr h⟩

theorem IsDigits.append (h : IsDigits ds) (hcs : ∀ c ∈ cs, c.isDigit = true) :
    IsDigits (ds ++ cs) :=
  ⟨List.append_ne_nil_of_left_ne_nil h.1 cs, List.forall_mem_append.mpr ⟨h.2, hcs⟩⟩

theorem isDigit_of_mem_zeros {k : Nat} : ∀ c ∈ List.replicate k '0', c.isDigit = true := by
  intro c hc
  rw [List.eq_of_mem_replicate hc]
  rfl

/-- A number that is not zero does not begin with a zero. -/
theorem head?_toDigits_ne_zero (h : n ≠ 0) : (Nat.toDigits 10 n).head? ≠ some '0' := by
  induction n using Nat.strongRecOn with
  | ind n ih =>
    rw [Nat.toDigits_eq_if (by decide)]
    split
    · next hlt =>
      have hdigit : ∀ m < 10, m ≠ 0 → Nat.digitChar m ≠ '0' := by decide
      simpa using hdigit n hlt h
    · next hge =>
      have hhead := ih (n / 10) (by omega) (by omega)
      rwa [List.head?_append_of_ne_nil _ Nat.toDigits_ne_nil]

theorem isInteger_of_head?_ne (h : IsDigits cs) (hhead : cs.head? ≠ some '0') : IsInteger cs :=
  ⟨h, fun hzero => absurd hzero hhead⟩

theorem isInteger_toDigits (n : Nat) : IsInteger (Nat.toDigits 10 n) := by
  by_cases h : n = 0
  · rw [h, Nat.toDigits_zero]
    exact ⟨isDigits_singleton rfl, fun _ => rfl⟩
  · exact isInteger_of_head?_ne (isDigits_toDigits n) (head?_toDigits_ne_zero h)

/-- A number begins with its sign or a digit. -/
theorem IsNumeral.exists_cons (h : IsNumeral cs) :
    ∃ c rest, cs = c :: rest ∧ (c = '-' ∨ c.isDigit = true) := by
  have hunsigned {cs : List Char} (h : IsUnsigned cs) :
      ∃ c rest, cs = c :: rest ∧ c.isDigit = true := by
    obtain ⟨hwhole, -, -⟩ := h
    obtain ⟨⟨hne, hdigits⟩, -⟩ := hwhole
    obtain ⟨c, whole, rfl⟩ := List.exists_cons_of_ne_nil hne
    exact ⟨c, _, rfl, hdigits c List.mem_cons_self⟩
  cases h with
  | unsigned h =>
    obtain ⟨c, rest, rfl, hc⟩ := hunsigned h
    exact ⟨c, rest, rfl, .inr hc⟩
  | negative h => exact ⟨_, _, rfl, .inl rfl⟩

end Digits

/-! ## Integers and doubles -/

/-- **The text of an integer is a numeral.** -/
theorem isNumeral_wholeChars (i : Int) : IsNumeral (wholeChars i) := by
  have hunsigned : IsUnsigned (Nat.toDigits 10 i.natAbs) := by
    have hparts := IsUnsigned.parts (isInteger_toDigits i.natAbs) .none .none
    rwa [List.append_nil, List.append_nil] at hparts
  unfold wholeChars
  split
  · exact .negative hunsigned
  · exact .unsigned hunsigned

section Decimals
variable {i : Interval} {d : Numeral} {k top : Int} {n fuel : Nat}

/-- What rounds to a positive number is not zero. -/
theorem ne_zero_of_holds (hlow : 0 < i.low) (h : i.holds n k = true) : n ≠ 0 := by
  rintro rfl
  have hpos : 0 < (scaledFraction i.low i.scale k).1 :=
    Nat.mul_pos (Nat.mul_pos hlow (Nat.two_pow_pos _)) (Nat.pow_pos (by decide))
  unfold Interval.holds at h
  simp only [Nat.zero_mul] at h
  split at h
  · simp only [Bool.and_eq_true, decide_eq_true_eq] at h
    omega
  · simp only [Bool.and_eq_true, decide_eq_true_eq] at h
    omega

theorem digits_ne_zero_of_candidate? (hlow : 0 < i.low) (h : i.candidate? top n = some d) :
    d.digits ≠ 0 := by
  unfold Interval.candidate? at h
  simp only at h
  split at h
  · next hboth =>
    have hdown := ne_zero_of_holds hlow (Bool.and_eq_true_iff.mp hboth).1
    split at h
    · obtain rfl := Option.some.inj h
      exact hdown
    · obtain rfl := Option.some.inj h
      exact Nat.succ_ne_zero _
  · split at h
    · next hdown =>
      obtain rfl := Option.some.inj h
      exact ne_zero_of_holds hlow hdown
    · split at h
      · obtain rfl := Option.some.inj h
        exact Nat.succ_ne_zero _
      · cases h

theorem digits_reduce_ne_zero (h : d.digits ≠ 0) : (d.reduce fuel).digits ≠ 0 := by
  induction fuel generalizing d with
  | zero => exact h
  | succ fuel ih =>
    rw [Numeral.reduce]
    split
    · exact ih (by simp only; omega)
    · exact h

/-- The search finds a decimal that is not zero, or nothing. -/
theorem shortest_cases (hlow : 0 < i.low) : i.shortest = ⟨0, 0⟩ ∨ i.shortest.digits ≠ 0 := by
  unfold Interval.shortest
  simp only
  split
  · next hfound =>
    obtain ⟨n, -, hcandidate⟩ := List.exists_of_findSome?_eq_some hfound
    exact .inr (digits_reduce_ne_zero (digits_ne_zero_of_candidate? hlow hcandidate))
  · exact .inl rfl

theorem isUnsigned_point {whole ds : List Char} (hwhole : IsInteger whole) (hds : IsDigits ds) :
    IsUnsigned (whole ++ '.' :: ds) := by
  have hparts := IsUnsigned.parts hwhole (.digits hds) .none
  rwa [List.append_nil] at hparts

theorem isExponent_write (e : Int) :
    IsExponent ('e' :: (if e < 0 then '-' else '+') :: Nat.toDigits 10 e.natAbs) := by
  refine .signed rfl ?_ (isDigits_toDigits e.natAbs)
  split
  · exact .inr rfl
  · exact .inl rfl

/-- A decimal that is not zero is written as a numeral, wherever its point lies. -/
theorem isUnsigned_write (l : Layout) (h : d.digits ≠ 0) : IsUnsigned (l.write d) := by
  obtain ⟨c, ds, hds⟩ := List.exists_cons_of_ne_nil (isDigits_toDigits d.digits).1
  have hdigits := (isDigits_toDigits d.digits).2
  have hhead := head?_toDigits_ne_zero h
  rw [hds] at hdigits hhead
  unfold Layout.write
  simp only [hds]
  split
  · -- zeros after the digits, and a point behind them
    have hwhole : IsInteger (c :: ds ++ List.replicate d.exponent.toNat '0') :=
      isInteger_of_head?_ne (IsDigits.append ⟨nofun, hdigits⟩ isDigit_of_mem_zeros) hhead
    exact isUnsigned_point hwhole (isDigits_singleton rfl)
  split
  · -- the point between two digits
    next hlarge hpoint =>
    generalize hk : ((c :: ds).length + d.exponent).toNat = k
    obtain ⟨k, rfl⟩ : ∃ k', k = k' + 1 := ⟨k - 1, by omega⟩
    have hwhole : IsInteger ((c :: ds).take (k + 1)) :=
      isInteger_of_head?_ne ⟨nofun, fun x hx => hdigits x (List.mem_of_mem_take hx)⟩ hhead
    have hne : (c :: ds).drop (k + 1) ≠ [] := by
      rw [ne_eq, List.drop_eq_nil_iff]
      omega
    rw [List.append_assoc]
    exact isUnsigned_point hwhole ⟨hne, fun x hx => hdigits x (List.mem_of_mem_drop hx)⟩
  split
  · -- zeros between the point and the digits
    refine isUnsigned_point (isInteger_toDigits 0) ⟨List.append_ne_nil_of_right_ne_nil _ nofun, ?_⟩
    exact List.forall_mem_append.mpr ⟨isDigit_of_mem_zeros, hdigits⟩
  · -- one digit before the point, and an exponent
    obtain ⟨hc, hdigits⟩ := List.forall_mem_cons.mp hdigits
    have hwhole : IsInteger [c] := isInteger_of_head?_ne (isDigits_singleton hc) hhead
    rw [List.append_assoc]
    cases ds with
    | nil => exact IsUnsigned.parts hwhole .none (isExponent_write _)
    | cons c' ds =>
      have hfraction : IsFraction ('.' :: c' :: ds) := .digits ⟨nofun, hdigits⟩
      exact IsUnsigned.parts hwhole hfraction (isExponent_write _)

/-- The interval of a double that is not zero lies above zero. -/
theorem low_ofFields_pos {exponent fraction : Nat} (h : ¬ (exponent = 0 ∧ fraction = 0)) :
    0 < (Interval.ofFields exponent fraction).low := by
  unfold Interval.ofFields
  simp only
  split <;> split <;> omega

/-- **The text of a finite double is a numeral.** -/
theorem isNumeral_of_writeDouble? {bits : UInt64} {cs : List Char}
    (h : floatLayout.writeDouble? bits = some cs) : IsNumeral cs := by
  have hzero : IsUnsigned ['0', '.', '0'] :=
    isUnsigned_point (isInteger_toDigits 0) (isDigits_singleton rfl)
  have hsigned {negative : Prop} [Decidable negative] {cs : List Char} (h : IsUnsigned cs) :
      IsNumeral ((if negative then ['-'] else []) ++ cs) := by
    split
    · exact .negative h
    · exact .unsigned h
  unfold Layout.writeDouble? at h
  simp only at h
  split at h
  · cases h
  split at h
  · obtain rfl := Option.some.inj h
    exact hsigned hzero
  · next hnonzero =>
    obtain rfl := Option.some.inj h
    refine hsigned ?_
    rcases shortest_cases (low_ofFields_pos hnonzero) with hnone | hdigits
    · rw [hnone]
      exact hzero
    · exact isUnsigned_write floatLayout hdigits

end Decimals

/-! ## Reading integers -/

section Scanning
variable {rest ds : List Char} {limit m : Nat}

/-- What comes next does not go on with a number. -/
def EndsNumber (rest : List Char) : Prop :=
  ∀ c ∈ rest.head?, c.isDigit = false ∧ c ≠ '.' ∧ isExponentMark c = false

theorem endsNumber_nil : EndsNumber [] := nofun

theorem EndsNumber.startsWithDigit (h : EndsNumber rest) : startsWithDigit rest = false := by
  cases rest with
  | nil => rfl
  | cons c rest => exact (h c rfl).1

/-- Appending digits does not make a number smaller. -/
theorem le_ofDigitChars (ds : List Char) (m : Nat) : m ≤ Nat.ofDigitChars 10 ds m := by
  induction ds generalizing m with
  | nil => exact Nat.le_refl m
  | cons c ds ih =>
    rw [Nat.ofDigitChars_cons]
    exact Nat.le_trans (by omega) (ih _)

/-- All digits are gathered if the number that they make is allowed. -/
theorem gather_digits (hdigits : ∀ c ∈ ds, c.isDigit = true)
    (hrest : startsWithDigit rest = false) (hlimit : Nat.ofDigitChars 10 ds m ≤ limit) :
    gather limit m (ds ++ rest) = (Nat.ofDigitChars 10 ds m, rest) := by
  induction ds generalizing m with
  | nil =>
    cases rest with
    | nil => rfl
    | cons c rest =>
      have hc : c.isDigit = false := hrest
      simp [gather, hc]
  | cons c ds ih =>
    obtain ⟨hc, hdigits⟩ := List.forall_mem_cons.mp hdigits
    rw [Nat.ofDigitChars_cons, Nat.mul_comm] at hlimit ⊢
    have hle := Nat.le_trans (le_ofDigitChars ds _) hlimit
    rw [List.cons_append, gather, if_pos hc]
    simp only [if_pos hle]
    exact ih hdigits hlimit

theorem scanAfterInteger_of_endsNumber (h : EndsNumber rest) (negative : Bool) (n : Nat) :
    scanAfterInteger negative n rest = .ok (integerLiteral negative n, rest) := by
  cases rest with
  | nil => rfl
  | cons c rest =>
    obtain ⟨-, hpoint, hmark⟩ := h c rfl
    simp [scanAfterInteger, hpoint, hmark]

theorem scanUnsigned_toDigits {n : Nat} (hn : n ≤ significandLimit) (h : EndsNumber rest)
    (negative : Bool) :
    scanUnsigned negative (Nat.toDigits 10 n ++ rest) = .ok (integerLiteral negative n, rest) := by
  by_cases hzero : n = 0
  · rw [hzero, Nat.toDigits_zero]
    simp only [List.cons_append, List.nil_append, scanUnsigned, ↓reduceIte, h.startsWithDigit]
    exact scanAfterInteger_of_endsNumber h negative 0
  · have hgather : gather significandLimit 0 (Nat.toDigits 10 n ++ rest) = (n, rest) := by
      have hvalue : Nat.ofDigitChars 10 (Nat.toDigits 10 n) 0 = n :=
        Nat.ofDigitChars_ten_toDigits
      rw [gather_digits (isDigits_toDigits n).2 h.startsWithDigit (hvalue.symm ▸ hn), hvalue]
    obtain ⟨c, ds, hds⟩ := List.exists_cons_of_ne_nil (isDigits_toDigits n).1
    have hhead := head?_toDigits_ne_zero hzero
    have hdigit := (isDigits_toDigits n).2
    rw [hds] at hgather hhead hdigit ⊢
    have hc : c ≠ '0' := fun heq => hhead (congrArg some heq)
    rw [List.cons_append] at hgather ⊢
    simp only [scanUnsigned, if_neg hc, if_pos (hdigit c List.mem_cons_self), hgather,
      h.startsWithDigit]
    exact scanAfterInteger_of_endsNumber h negative n

/-- **An integer of 64 bits is read back from its text.** -/
theorem scanNumber_wholeChars (w : Whole) (h : EndsNumber rest) :
    scanNumber (wholeChars w.val ++ rest) = .ok (.whole w, rest) := by
  have hlower := w.lower
  have hupper := w.upper
  have hlimit : w.val.natAbs ≤ significandLimit := by
    unfold significandLimit
    omega
  unfold wholeChars
  split
  · next hneg =>
    have hliteral : integerLiteral true w.val.natAbs = .whole w := by
      have hval : -(w.val.natAbs : Int) = w.val := by omega
      rw [integerLiteral, if_pos rfl, if_neg (by omega), hval, Whole.ofInt?_val]
    rw [List.cons_append, scanNumber, scanUnsigned_toDigits hlimit h, hliteral]
  · next hpos =>
    have hliteral : integerLiteral false w.val.natAbs = .whole w := by
      have hval : (w.val.natAbs : Int) = w.val := by omega
      rw [integerLiteral, if_neg Bool.false_ne_true, hval, Whole.ofInt?_val]
    rw [scanNumber, scanUnsigned_toDigits hlimit h, hliteral]
    -- a digit is no sign
    intro more hmore
    obtain ⟨c, ds, hds⟩ := List.exists_cons_of_ne_nil (isDigits_toDigits w.val.natAbs).1
    have hc := (isDigits_toDigits w.val.natAbs).2 c (by simp [hds])
    rw [hds] at hmore
    obtain ⟨rfl, -⟩ := List.cons.inj hmore
    cases hc

end Scanning

end IntentSelect.Json
