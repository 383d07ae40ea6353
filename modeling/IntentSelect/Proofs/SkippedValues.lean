import IntentSelect.Proofs.WrittenFields

/-! # Values that are skipped

The value of a field that nobody asked for is skipped.  Skipping looks at less than reading: it
builds nothing, counts no depth, and lets surrogates and exponents pass that reading refuses.  But
of what can be read it takes exactly as much (`skipValue_of_scanWritten`), so the entries after a
field that is skipped are the same as after one that is read.

Loops within a skipped value share one bound with it.  A value needs two rounds for each character
that is left and two more, what a bracket encloses one more than that, since the loop costs a round
of its own before a value begins.
-/
namespace IntentSelect.Json
variable {cs more rest s : List Char} {c : Char} {n : Number} {negative : Bool} {m : Nat} {e : Int}

/-! ## Numbers -/

theorem skipDigits_cons (h : c.isDigit = true) (cs : List Char) :
    skipDigits (c :: cs) = skipDigits cs :=
  List.dropWhile_cons_of_pos h

theorem skipExponent_of_scanExponent (h : scanExponent negative m e cs = .ok (n, rest)) :
    skipExponent cs = .ok rest := by
  unfold scanExponent at h
  unfold skipExponent
  extract_lets signed at h
  extract_lets unsigned
  -- both take a sign, and only the one that reads remembers which it was
  have hunsigned : unsigned = signed.2 := by
    simp only [unsigned, signed]
    split <;> rfl
  clear_value signed unsigned
  subst hunsigned
  split at h
  · cases h
  next c more hcs =>
  split at h
  · next hc =>
    simp only [if_pos hc]
    rw [← skipDigits_cons hc, ← skipDigits_gather exponentLimit 0]
    simp only at h
    split at h
    · split at h
      · cases h
      · rw [eq_of_doubleOf h]
    · next hend => rw [skipDigits_eq_self (eq_false_of_ne_true hend), eq_of_doubleOf h]
  · cases h

theorem skipAfterDigits_of_scanAfterDigits (h : scanAfterDigits negative m e cs = .ok (n, rest)) :
    skipAfterDigits cs = .ok rest := by
  unfold scanAfterDigits at h
  unfold skipAfterDigits
  split at h
  · rw [eq_of_doubleOf h]
  · split at h
    · next hmark => rw [if_pos hmark, skipExponent_of_scanExponent h]
    · next hmark => rw [if_neg hmark, eq_of_doubleOf h]

/-- Skips what may follow the integer digits of a number. -/
def skipAfterInteger (cs : List Char) : Except Fault (List Char) :=
  match cs with
  | '.' :: fraction =>
    if startsWithDigit fraction then skipAfterDigits (skipDigits fraction)
    else .error (.next .invalidNumber fraction)
  | after => skipAfterDigits after

theorem skipAfterInteger_of_ne (h : ∀ fraction, cs ≠ '.' :: fraction) :
    skipAfterInteger cs = skipAfterDigits cs := by
  unfold skipAfterInteger
  split
  · next fraction => exact absurd rfl (h fraction)
  · rfl

theorem skipUnsigned_cons (hc : c.isDigit = true)
    (hzero : ¬ (c = '0' ∧ startsWithDigit cs = true)) :
    skipUnsigned (c :: cs) = skipAfterInteger (skipDigits cs) := by
  simp only [skipUnsigned, if_neg hzero, if_pos hc]
  rfl

theorem skipAfterInteger_of_scanFraction (h : scanFraction negative m e cs = .ok (n, rest)) :
    skipAfterInteger ('.' :: cs) = .ok rest := by
  unfold scanFraction at h
  simp only at h
  have hstart : startsWithDigit cs = true := by
    cases hstart : startsWithDigit cs with
    | true => rfl
    | false =>
      simp [gather_eq_self _ _ hstart, hstart] at h
      split at h <;> cases h
  simp only [skipAfterInteger, if_pos hstart]
  rw [← skipDigits_gather significandLimit m]
  split at h
  · exact skipAfterDigits_of_scanAfterDigits h
  · next hend =>
    rw [skipDigits_eq_self (eq_false_of_ne_true hend)]
    split at h
    · split at h <;> cases h
    · exact skipAfterDigits_of_scanAfterDigits h

theorem skipAfterInteger_of_scanAfterDigits (h : scanAfterDigits negative m e cs = .ok (n, rest))
    (hpoint : ∀ fraction, cs ≠ '.' :: fraction) : skipAfterInteger cs = .ok rest := by
  rw [skipAfterInteger_of_ne hpoint, skipAfterDigits_of_scanAfterDigits h]

theorem skipAfterInteger_of_scanAfterInteger (h : scanAfterInteger negative m cs = .ok (n, rest)) :
    skipAfterInteger cs = .ok rest := by
  unfold scanAfterInteger at h
  split at h
  · cases h
    rfl
  · split at h
    · next hpoint => exact hpoint ▸ skipAfterInteger_of_scanFraction h
    next hpoint =>
    rw [skipAfterInteger_of_ne fun _ heq => hpoint (List.cons.inj heq).1, skipAfterDigits]
    split at h
    · next hmark => rw [if_pos hmark, skipExponent_of_scanExponent h]
    · next hmark =>
      cases h
      rw [if_neg hmark]

theorem skipUnsigned_of_scanUnsigned (h : scanUnsigned negative cs = .ok (n, rest)) :
    skipUnsigned cs = .ok rest := by
  unfold scanUnsigned at h
  split at h
  · cases h
  next c cs =>
  split at h
  · next hzero =>
    subst hzero
    split at h
    · cases h
    · next hend =>
      rw [skipUnsigned_cons rfl fun hzero => hend hzero.2,
        skipDigits_eq_self (eq_false_of_ne_true hend)]
      exact skipAfterInteger_of_scanAfterInteger h
  next hzero =>
  split at h
  · next hc =>
    rw [skipUnsigned_cons hc fun h => hzero h.1, ← skipDigits_cons hc,
      ← skipDigits_gather significandLimit 0]
    simp only at h
    split at h
    · split at h
      · next hpoint => exact hpoint ▸ skipAfterInteger_of_scanFraction h
      · next hpoint =>
        exact skipAfterInteger_of_scanAfterDigits h fun fraction heq => hpoint fraction heq
    · next hend =>
      rw [skipDigits_eq_self (eq_false_of_ne_true hend)]
      exact skipAfterInteger_of_scanAfterInteger h
  · cases h

/-- **A number that can be read is skipped as far as it is read.** -/
theorem skipNumber_of_scanNumber (h : scanNumber cs = .ok (n, rest)) :
    skipNumber cs = .ok rest := by
  unfold scanNumber at h
  unfold skipNumber
  split at h
  · exact skipUnsigned_of_scanUnsigned h
  · exact skipUnsigned_of_scanUnsigned h

/-! ## Strings -/

theorem skipString_hex {p q r t : Char} (h : hexFour? p q r t = some m) (cs : List Char) :
    skipString ('\\' :: 'u' :: p :: q :: r :: t :: cs) = skipString cs := by
  rw [skipString.eq_def]
  simp [shortEscape?, h]

theorem skipString_spellsChar {ds : List Char} (h : SpellsChar c ds) (cs : List Char) :
    skipString (ds ++ cs) = skipString cs := by
  cases h with
  | plain hquote hbackslash hcontrol =>
    rw [List.singleton_append, skipString.eq_def]
    simp [hquote, hbackslash, hcontrol]
  | short h =>
    rw [List.cons_append, List.singleton_append, skipString.eq_def]
    simp [h]
  | hex h => exact skipString_hex h cs
  | pair hhigh hlow _ _ => exact (skipString_hex hhigh _).trans (skipString_hex hlow cs)

/-- **A string that can be read is skipped as far as it is read.** -/
theorem skipString_of_scanString (h : scanString cs = .ok (s, rest)) :
    skipString cs = .ok rest := by
  obtain ⟨ds, hds, rfl⟩ := exists_spelled_of_scanString h
  clear h
  induction hds with
  | nil => rw [List.nil_append, skipString.eq_def]; rfl
  | cons hc _ ih => rw [List.append_assoc, skipString_spellsChar hc, ih]

/-! ## What a value takes -/

theorem IsText.ne_nil (h : IsText cs) : cs ≠ [] := by
  cases h with
  | bool b => cases b <;> exact List.cons_ne_nil _ _
  | number hn =>
    obtain ⟨c, ds, rfl, -⟩ := hn.exists_cons
    exact List.cons_ne_nil c ds
  | null => exact List.cons_ne_nil _ _
  | string _ => exact List.cons_ne_nil _ _
  | array _ => exact List.cons_ne_nil _ _
  | object _ => exact List.cons_ne_nil _ _

namespace Reading
variable {before : List Char} {d depth bound k : Nat} {first : Bool} {w : Value}

/-- A value takes at least one character. -/
theorem length_lt_of_scanWritten (h : scanWritten d cs = .ok (w, rest)) :
    rest.length < cs.length := by
  obtain ⟨gap, ds, -, hds, rfl⟩ := acceptsTexts_scanValue d (scanValue_of_scanWritten h)
  have := List.length_pos_of_ne_nil hds.ne_nil
  simp only [List.length_append]
  omega

/-- A value begins neither with white space nor with what ends an array. -/
theorem Form.exists_cons (h : Form depth cs w rest) :
    ∃ c more, cs = c :: more ∧ isSpace c = false ∧ c ≠ ']' := by
  cases h with
  | number hc _ =>
    obtain ⟨hspace, hbracket, -⟩ := ne_of_startsNumber hc
    exact ⟨_, _, rfl, hspace, hbracket⟩
  | null _ => exact ⟨_, _, rfl, by decide⟩
  | yes _ => exact ⟨_, _, rfl, by decide⟩
  | no _ => exact ⟨_, _, rfl, by decide⟩
  | string _ => exact ⟨_, _, rfl, by decide⟩
  | array _ => exact ⟨_, _, rfl, by decide⟩
  | object _ => exact ⟨_, _, rfl, by decide⟩

/-! ## Skipping what can be read -/

/-- White space before a value does not matter. -/
theorem skipValueWithin_congr {cs' : List Char} (h : skipSpace cs = skipSpace cs') (hk : 0 < k) :
    skipValueWithin k cs = skipValueWithin k cs' := by
  obtain ⟨k, rfl⟩ : ∃ j, k = j + 1 := ⟨k - 1, by omega⟩
  rw [skipValueWithin.eq_def, skipValueWithin.eq_def, h]

/-- Whatever is read is skipped, with two rounds for each character that is left and two more. -/
def SkipsRead (d : Nat) : Prop :=
  ∀ {cs w rest k}, scanWritten d cs = .ok (w, rest) → 2 * cs.length + 2 ≤ k →
    skipValueWithin k cs = .ok rest

theorem skipItemsWithin_of_scanItemsWithin {items : List Value} (hskip : SkipsRead d)
    (h : scanItemsWithin (scanWritten d) bound first cs = .ok (items, rest))
    (hk : 2 * cs.length + 3 ≤ k) : skipItemsWithin k first cs = .ok rest := by
  induction bound generalizing first cs items k with
  | zero => cases h
  | succ bound ih =>
    obtain ⟨k, rfl⟩ : ∃ j, k = j + 1 := ⟨k - 1, by omega⟩
    rw [skipItemsWithin.eq_def]
    cases itemsForm_of_scanItemsWithin h with
    | done hnext =>
      obtain ⟨gap, hgap, rfl⟩ := finds_of_nextItem hnext
      simp [skipSpace_append_cons hgap (show isSpace ']' = false by decide)]
    | @more before after _ v items hnext hv hrest =>
      have hafter := length_lt_of_scanWritten hv
      obtain ⟨separator, hseparator, rfl⟩ := finds_of_nextItem hnext
      rw [List.append_nil, List.length_append] at hk
      rw [List.append_nil]
      have hvalue {cs : List Char} (hsame : skipSpace cs = skipSpace before) :
          skipValueWithin k cs = .ok after :=
        (skipValueWithin_congr hsame (by omega)).trans (hskip hv (by omega))
      have hothers : skipItemsWithin k false after = .ok rest := ih hrest (by omega)
      cases hseparator with
      | first hgap =>
        obtain ⟨c, more, hmore, hspace, hbracket⟩ := (form_of_scanWritten hv).exists_cons
        have hfirst := hvalue ((skipSpace_cons hspace more).trans hmore.symm)
        simp [skipSpace_append hgap, hmore, hbracket, hfirst, ok_bind, hothers]
      | comma hgap hgap' =>
        have hnext := hvalue (skipSpace_append hgap' before)
        simp [List.append_assoc, skipSpace_append_cons hgap (show isSpace ',' = false by decide),
          hnext, ok_bind, hothers]

theorem skipEntriesWithin_of_scanEntriesWithin {fields : List (String × Value)}
    (hskip : SkipsRead d)
    (h : scanEntriesWithin (scanAdd d) bound first [] cs = .ok (fields, rest))
    (hk : 2 * cs.length + 3 ≤ k) : skipEntriesWithin k first cs = .ok rest := by
  induction bound generalizing first cs fields k with
  | zero => cases h
  | succ bound ih =>
    obtain ⟨k, rfl⟩ : ∃ j, k = j + 1 := ⟨k - 1, by omega⟩
    rw [skipEntriesWithin.eq_def]
    cases entriesForm_of_scanEntriesWithin h with
    | done hnext =>
      obtain ⟨gap, hgap, rfl⟩ := finds_of_nextKey hnext
      simp [skipSpace_append_cons hgap (show isSpace '}' = false by decide)]
    | @more before key colon value after _ v fields hnext hkey hcolon hv hrest =>
      have hafter := length_lt_of_scanWritten hv
      have hname := skipString_of_scanString hkey
      obtain ⟨separator, hseparator, rfl⟩ := finds_of_nextKey hnext
      obtain ⟨ds, -, rfl⟩ := exists_spelled_of_scanString hkey
      obtain ⟨gap, -, rfl⟩ := exists_blank_of_scanColon hcolon
      simp only [List.length_append, List.length_cons] at hk
      have hvalue : skipValueWithin k value = .ok after := hskip hv (by omega)
      have hothers : skipEntriesWithin k false after = .ok rest := ih hrest (by omega)
      have hquote : isSpace '"' = false := by decide
      cases hseparator with
      | first hgap =>
        simp [List.append_assoc, skipSpace_append_cons hgap hquote, hname, hcolon, hvalue, ok_bind,
          hothers]
      | comma hgap hgap' =>
        simp [List.append_assoc, skipSpace_append_cons hgap (show isSpace ',' = false by decide),
          skipSpace_append_cons hgap' hquote, hname, hcolon, hvalue, ok_bind, hothers]

theorem skipsRead (d : Nat) : SkipsRead d := by
  induction d using Nat.strongRecOn with
  | ind d ih =>
    intro cs w rest k h hk
    obtain ⟨k, rfl⟩ : ∃ j, k = j + 1 := ⟨k - 1, by omega⟩
    have hform := form_of_scanWritten h
    have hlength : (skipSpace cs).length ≤ cs.length := List.length_dropWhile_le isSpace cs
    rw [skipValueWithin.eq_def]
    generalize skipSpace cs = cs' at hform hlength
    cases hform with
    | null hword => simp [hword]
    | yes hword => simp [hword]
    | no hword => simp [hword]
    | number hc hnumber =>
      obtain ⟨-, -, hn, ht, hf⟩ := ne_of_startsNumber hc
      simp [hn, ht, hf, hc, skipNumber_of_scanNumber hnumber]
    | string hstring => simp [skipString_of_scanString hstring]
    | @array d _ _ _ hitems =>
      rw [List.length_cons] at hlength
      have hskip := skipItemsWithin_of_scanItemsWithin (k := k) (ih d (Nat.lt_succ_self d)) hitems
        (by omega)
      simp [hskip]
    | @object d _ _ _ hfields =>
      rw [List.length_cons] at hlength
      have hskip := skipEntriesWithin_of_scanEntriesWithin (k := k) (ih d (Nat.lt_succ_self d))
        hfields (by omega)
      simp [hskip]

/-- **What can be read is skipped as far as it is read.** -/
theorem skipValue_of_scanWritten (h : scanWritten d cs = .ok (w, rest)) :
    skipValue cs = .ok rest :=
  skipsRead d h (Nat.le_refl _)

end Reading

end IntentSelect.Json
