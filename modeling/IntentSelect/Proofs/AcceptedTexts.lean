import IntentSelect.Proofs.OrderedValues
import IntentSelect.Proofs.WrittenTexts
import Mathlib.Data.List.TakeWhile

/-! # The texts that are accepted

Whatever the reader accepts is JSON (`isJson_of_parse`).  The grammar is written down once more for
this, without the values that its texts are texts of (`IsText`, `IsJson`), since a text may be
accepted although no value is printed that way: `1E5` is one.

Each scanner takes something from the front of the characters that are left, and if it succeeds,
what it has taken has the form that the grammar asks for.  A number is scanned by steps that gather
digits as long as they fit and drop the others; what comes after them is the same either way
(`skipDigits_gather`).  White space is skipped both before an element and by whoever reads it, so
what separates two elements may take up more of it (`Separates.append_blank`).
-/
namespace IntentSelect.Json

/-! ## The grammar of texts -/

mutual
/-- The characters are the text of a value. -/
inductive IsText : List Char → Prop where
  | null : IsText ['n', 'u', 'l', 'l']
  | bool (b : Bool) : IsText (boolChars b)
  | number {cs : List Char} (h : IsNumeral cs) : IsText cs
  | string {s cs : List Char} (h : SpellsText s cs) : IsText ('"' :: cs ++ ['"'])
  | array {cs : List Char} (h : IsItems true cs) : IsText ('[' :: cs)
  | object {cs : List Char} (h : IsFields true cs) : IsText ('{' :: cs)

/-- The characters are the elements of an array, of which the first needs no comma if that is the
case, and the closing bracket. -/
inductive IsItems : (first : Bool) → List Char → Prop where
  | close {first : Bool} {gap : List Char} (h : Blank gap) : IsItems first (gap ++ [']'])
  | more {first : Bool} {separator cs rest : List Char} (hseparator : Separates first separator)
    (hv : IsText cs) (hrest : IsItems false rest) : IsItems first (separator ++ cs ++ rest)

/-- The characters are the fields of an object, as in an array, and the closing brace. -/
inductive IsFields : (first : Bool) → List Char → Prop where
  | close {first : Bool} {gap : List Char} (h : Blank gap) : IsFields first (gap ++ ['}'])
  | more {first : Bool} {separator key ks before after cs rest : List Char}
    (hseparator : Separates first separator) (hkey : SpellsText key ks) (hbefore : Blank before)
    (hafter : Blank after) (hv : IsText cs) (hrest : IsFields false rest) :
    IsFields first (separator ++ '"' :: ks ++ '"' :: before ++ ':' :: after ++ cs ++ rest)
end

/-- The text is one JSON document: the text of a value, with white space around it. -/
def IsJson (text : String) : Prop :=
  ∃ before cs after, Blank before ∧ IsText cs ∧ Blank after ∧ text.toList = before ++ cs ++ after

/-! ## Numbers -/

section Numbers
variable {cs rest : List Char} {n : Number} {negative : Bool} {m : Nat} {e : Int} {mark : Char}

theorem exists_digits_append_skipDigits (h : startsWithDigit cs = true) :
    ∃ ds, IsDigits ds ∧ cs = ds ++ skipDigits cs := by
  refine ⟨cs.takeWhile Char.isDigit, ⟨?_, fun c hc => List.mem_takeWhile_imp hc⟩,
    List.takeWhile_append_dropWhile.symm⟩
  cases cs with
  | nil => cases h
  | cons c cs =>
    have hc : c.isDigit = true := h
    rw [List.takeWhile_cons_of_pos hc]
    exact List.cons_ne_nil c _

theorem skipDigits_eq_self (h : startsWithDigit cs = false) : skipDigits cs = cs := by
  cases cs with
  | nil => rfl
  | cons c cs => exact List.dropWhile_cons_of_neg (ne_true_of_eq_false h)

theorem gather_eq_self (limit m : Nat) (h : startsWithDigit cs = false) :
    gather limit m cs = (m, cs) := by
  cases cs with
  | nil => rfl
  | cons c cs =>
    have hc : c.isDigit = false := h
    rw [gather, if_neg (ne_true_of_eq_false hc)]

/-- Whether digits are gathered or dropped, what comes after them is the same. -/
theorem skipDigits_gather (limit m : Nat) (cs : List Char) :
    skipDigits (gather limit m cs).2 = skipDigits cs := by
  induction cs generalizing m with
  | nil => rfl
  | cons c cs ih =>
    rw [gather]
    split
    · next hc =>
      simp only
      split
      · rw [ih, skipDigits, skipDigits, List.dropWhile_cons_of_pos hc]
      · rfl
    · rfl

theorem eq_of_doubleOf (h : doubleOf negative m e cs = .ok (n, rest)) : cs = rest := by
  unfold doubleOf at h
  split at h
  · cases h
  · cases h
    rfl

/-- What has been read of an exponent. -/
theorem exists_exponent_of_scanExponent (hmark : isExponentMark mark = true)
    (h : scanExponent negative m e cs = .ok (n, rest)) :
    ∃ exponent, IsExponent exponent ∧ mark :: cs = exponent ++ rest := by
  unfold scanExponent at h
  extract_lets signed at h
  -- a sign may have been taken before the digits
  have hsigned : signed.2 = cs ∨ ∃ sign, (sign = '+' ∨ sign = '-') ∧ cs = sign :: signed.2 := by
    simp only [signed]
    split
    · exact .inr ⟨_, .inl rfl, rfl⟩
    · exact .inr ⟨_, .inr rfl, rfl⟩
    · exact .inl rfl
  clear_value signed
  have hdigits : ∃ ds, IsDigits ds ∧ signed.2 = ds ++ rest := by
    split at h
    · cases h
    · next c more hcs =>
      split at h
      · next hc =>
        have hstart : startsWithDigit (c :: more) = true := hc
        obtain ⟨ds, hds, happend⟩ := exists_digits_append_skipDigits hstart
        rw [← skipDigits_gather exponentLimit 0] at happend
        refine ⟨ds, hds, ?_⟩
        rw [hcs, happend]
        simp only at h
        split at h
        · split at h
          · cases h
          · rw [eq_of_doubleOf h]
        · next hend =>
          rw [skipDigits_eq_self (eq_false_of_ne_true hend), eq_of_doubleOf h]
      · cases h
  obtain ⟨ds, hds, happend⟩ := hdigits
  rcases hsigned with hcs | ⟨sign, hsign, hcs⟩
  · exact ⟨_, .unsigned hmark hds, by rw [← hcs, happend, List.cons_append]⟩
  · exact ⟨_, .signed hmark hsign hds, by rw [hcs, happend, List.cons_append, List.cons_append]⟩

theorem exists_exponent_of_scanAfterDigits (h : scanAfterDigits negative m e cs = .ok (n, rest)) :
    ∃ exponent, IsExponent exponent ∧ cs = exponent ++ rest := by
  unfold scanAfterDigits at h
  split at h
  · exact ⟨[], .none, eq_of_doubleOf h⟩
  · split at h
    · next hmark => exact exists_exponent_of_scanExponent hmark h
    · exact ⟨[], .none, eq_of_doubleOf h⟩

theorem exists_fraction_of_scanFraction (h : scanFraction negative m e cs = .ok (n, rest)) :
    ∃ ds exponent, IsDigits ds ∧ IsExponent exponent ∧ cs = ds ++ exponent ++ rest := by
  unfold scanFraction at h
  simp only at h
  have hstart : startsWithDigit cs = true := by
    cases hstart : startsWithDigit cs with
    | true => rfl
    | false =>
      simp [gather_eq_self _ _ hstart, hstart] at h
      split at h <;> cases h
  obtain ⟨ds, hds, happend⟩ := exists_digits_append_skipDigits hstart
  have hrest : ∃ m' e', scanAfterDigits negative m' e' (skipDigits cs) = .ok (n, rest) := by
    rw [← skipDigits_gather significandLimit m]
    split at h
    · exact ⟨_, _, h⟩
    · next hend =>
      rw [skipDigits_eq_self (eq_false_of_ne_true hend)]
      split at h
      · split at h <;> cases h
      · exact ⟨_, _, h⟩
  obtain ⟨_, _, hrest⟩ := hrest
  obtain ⟨exponent, hexponent, hafter⟩ := exists_exponent_of_scanAfterDigits hrest
  refine ⟨ds, exponent, hds, hexponent, ?_⟩
  rw [List.append_assoc, ← hafter]
  exact happend

theorem exists_fraction_of_scanAfterInteger (h : scanAfterInteger negative m cs = .ok (n, rest)) :
    ∃ fraction exponent, IsFraction fraction ∧ IsExponent exponent ∧
      cs = fraction ++ exponent ++ rest := by
  unfold scanAfterInteger at h
  split at h
  · cases h
    exact ⟨[], [], .none, .none, rfl⟩
  · split at h
    · next hpoint =>
      obtain ⟨ds, exponent, hds, hexponent, rfl⟩ := exists_fraction_of_scanFraction h
      exact ⟨'.' :: ds, exponent, .digits hds, hexponent, by simp [hpoint]⟩
    · split at h
      · next hmark =>
        obtain ⟨exponent, hexponent, happend⟩ := exists_exponent_of_scanExponent hmark h
        exact ⟨[], exponent, .none, hexponent, happend⟩
      · cases h
        exact ⟨[], [], .none, .none, rfl⟩

theorem exists_unsigned_of_scanUnsigned (h : scanUnsigned negative cs = .ok (n, rest)) :
    ∃ ds, IsUnsigned ds ∧ cs = ds ++ rest := by
  unfold scanUnsigned at h
  split at h
  · cases h
  next c cs =>
  split at h
  · -- after a zero there are no more digits
    next hzero =>
    subst hzero
    split at h
    · cases h
    · obtain ⟨fraction, exponent, hfraction, hexponent, rfl⟩ :=
        exists_fraction_of_scanAfterInteger h
      have hwhole : IsInteger ['0'] := ⟨isDigits_singleton rfl, fun _ => rfl⟩
      exact ⟨_, .parts hwhole hfraction hexponent, by simp⟩
  next hzero =>
  split at h
  · next hc =>
    have hstart : startsWithDigit (c :: cs) = true := hc
    obtain ⟨ds, hds, happend⟩ := exists_digits_append_skipDigits hstart
    have hwhole : IsInteger ds := by
      -- they begin with the digit that is there, which is not zero
      refine isInteger_of_head?_ne hds ?_
      obtain ⟨c', ds, rfl⟩ := List.exists_cons_of_ne_nil hds.1
      obtain ⟨rfl, -⟩ := List.cons.inj happend
      simpa using hzero
    have hrest : ∃ fraction exponent, IsFraction fraction ∧ IsExponent exponent ∧
        skipDigits (c :: cs) = fraction ++ exponent ++ rest := by
      simp only at h
      rw [← skipDigits_gather significandLimit 0]
      split at h
      · split at h
        · next hpoint =>
          obtain ⟨ds, exponent, hds, hexponent, rfl⟩ := exists_fraction_of_scanFraction h
          exact ⟨'.' :: ds, exponent, .digits hds, hexponent, by simp [hpoint]⟩
        · obtain ⟨exponent, hexponent, happend⟩ := exists_exponent_of_scanAfterDigits h
          exact ⟨[], exponent, .none, hexponent, happend⟩
      · next hend =>
        rw [skipDigits_eq_self (eq_false_of_ne_true hend)]
        exact exists_fraction_of_scanAfterInteger h
    obtain ⟨fraction, exponent, hfraction, hexponent, hafter⟩ := hrest
    refine ⟨_, .parts hwhole hfraction hexponent, ?_⟩
    rw [List.append_assoc, List.append_assoc, ← List.append_assoc fraction, ← hafter]
    exact happend
  · cases h

/-- **What is read as a number is a numeral.** -/
theorem exists_numeral_of_scanNumber (h : scanNumber cs = .ok (n, rest)) :
    ∃ ds, IsNumeral ds ∧ cs = ds ++ rest := by
  unfold scanNumber at h
  split at h
  · obtain ⟨ds, hds, rfl⟩ := exists_unsigned_of_scanUnsigned h
    exact ⟨'-' :: ds, .negative hds, rfl⟩
  · obtain ⟨ds, hds, rfl⟩ := exists_unsigned_of_scanUnsigned h
    exact ⟨ds, .unsigned hds, rfl⟩

end Numbers

/-! ## Strings -/

section Strings
variable {cs rest s t : List Char} {c : Char} {n : Nat}

theorem hexValue?_lt {m : Nat} (h : hexValue? c = some m) : m < 16 := by
  have hle {a b : Char} (h : a ≤ b) : a.toNat ≤ b.toNat := h
  unfold hexValue? at h
  -- decimal digits, and letters of either case
  iterate 3
    split at h
    · next hc =>
      have hupper := hle hc.2
      cases h
      simp only [Char.reduceToNat] at hupper ⊢
      omega
  cases h

/-- Four hexadecimal digits that are no surrogate write a character. -/
theorem toNat_ofNat_of_hexFour? {p q r s : Char} (h : hexFour? p q r s = some n)
    (hlow : isLowSurrogate n = false) (hhigh : isHighSurrogate n = false) :
    (Char.ofNat n).toNat = n := by
  simp only [hexFour?, Option.bind_eq_bind, Option.bind_eq_some_iff, Option.pure_def,
    Option.some.injEq] at h
  obtain ⟨p', hp, q', hq, r', hr, s', hs, rfl⟩ := h
  have hp := hexValue?_lt hp
  have hq := hexValue?_lt hq
  have hr := hexValue?_lt hr
  have hs := hexValue?_lt hs
  simp only [isLowSurrogate, isHighSurrogate, Bool.and_eq_false_iff, decide_eq_false_iff_not]
    at hlow hhigh
  have hvalid : (((p' * 16 + q') * 16 + r') * 16 + s').isValidChar := by
    simp only [Nat.isValidChar]
    omega
  rw [Char.ofNat, dif_pos hvalid]
  rfl

theorem consRead_eq_ok_iff {read : Except Fault (List Char × List Char)} :
    consRead c read = .ok (s, rest) ↔ ∃ t, read = .ok (t, rest) ∧ s = c :: t := by
  rw [consRead, map_eq_ok_iff]
  constructor
  · rintro ⟨⟨t, more⟩, hread, heq⟩
    cases heq
    exact ⟨t, hread, rfl⟩
  · rintro ⟨t, hread, rfl⟩
    exact ⟨(t, rest), hread, rfl⟩

/-- An escape of hexadecimal digits is one of a character, or of two surrogates that write one. -/
theorem spellsChar_of_scanString_unicode (h : scanString ('\\' :: 'u' :: cs) = .ok (s, rest)) :
    ∃ c ds more t, SpellsChar c ds ∧ '\\' :: 'u' :: cs = ds ++ more ∧
      scanString more = .ok (t, rest) ∧ s = c :: t := by
  have hshort : shortEscape? 'u' = none := rfl
  rw [scanString.eq_def] at h
  simp only [Char.reduceEq, ↓reduceIte, hshort] at h
  split at h
  · next a b c d more =>
    split at h
    · cases h
    next n hn =>
    split at h
    · cases h
    next hnotLow =>
    split at h
    · -- the first of two surrogates, so another escape has to follow
      next hisHigh =>
      split at h
      · cases h
      split at h
      · next hbackslash =>
        split at h
        · cases h
        split at h
        · next hu =>
          split at h
          · split at h
            · cases h
            next m hm =>
            split at h
            · next hisLow =>
              obtain ⟨t, hread, rfl⟩ := consRead_eq_ok_iff.mp h
              refine ⟨_, _, _, t, .pair hn hm hisHigh hisLow, ?_, hread, rfl⟩
              rw [hbackslash, hu]
              rfl
            · cases h
          · cases h
        · cases h
      · cases h
    · next hnotHigh =>
      obtain ⟨t, hread, rfl⟩ := consRead_eq_ok_iff.mp h
      have hvalue := toNat_ofNat_of_hexFour? hn (eq_false_of_ne_true hnotLow)
        (eq_false_of_ne_true hnotHigh)
      exact ⟨_, _, more, t, .hex (hvalue.symm ▸ hn), rfl, hread, rfl⟩
  · cases h

/-- A string that is read is at its end, or it begins with a character. -/
theorem scanString_cases (h : scanString cs = .ok (s, rest)) :
    (s = [] ∧ cs = '"' :: rest) ∨
      ∃ c ds more t, SpellsChar c ds ∧ cs = ds ++ more ∧ scanString more = .ok (t, rest) ∧
        s = c :: t := by
  cases cs with
  | nil => cases h
  | cons c cs =>
    by_cases hquote : c = '"'
    · subst hquote
      rw [scanString_quote] at h
      cases h
      exact .inl ⟨rfl, rfl⟩
    by_cases hbackslash : c = '\\'
    · subst hbackslash
      refine .inr ?_
      cases cs with
      | nil => cases h
      | cons e cs =>
        cases hshort : shortEscape? e with
        | some x =>
          rw [scanString_short hshort] at h
          obtain ⟨t, hread, rfl⟩ := consRead_eq_ok_iff.mp h
          exact ⟨x, _, cs, t, .short hshort, rfl, hread, rfl⟩
        | none =>
          by_cases hu : e = 'u'
          · subst hu
            exact spellsChar_of_scanString_unicode h
          · rw [scanString.eq_def] at h
            simp [hshort, hu] at h
    by_cases hcontrol : c.toNat < 0x20
    · rw [scanString.eq_def] at h
      simp [hquote, hbackslash, hcontrol] at h
    · rw [scanString_plain hquote hbackslash hcontrol] at h
      obtain ⟨t, hread, rfl⟩ := consRead_eq_ok_iff.mp h
      exact .inr ⟨c, [c], cs, t, .plain hquote hbackslash hcontrol, rfl, hread, rfl⟩

theorem SpellsChar.ne_nil {ds : List Char} (h : SpellsChar c ds) : ds ≠ [] := by
  cases h <;> exact List.cons_ne_nil _ _

/-- **What is read as a string spells it.** -/
theorem exists_spelled_of_scanString (h : scanString cs = .ok (s, rest)) :
    ∃ ds, SpellsText s ds ∧ cs = ds ++ '"' :: rest := by
  -- each character takes something from what is left
  induction hn : cs.length using Nat.strongRecOn generalizing cs s with
  | ind n ih =>
    obtain ⟨rfl, rfl⟩ | ⟨c, ds, more, t, hc, rfl, hread, rfl⟩ := scanString_cases h
    · exact ⟨[], .nil, rfl⟩
    · have hlt : more.length < n := by
        have := List.length_pos_of_ne_nil hc.ne_nil
        rw [← hn, List.length_append]
        omega
      obtain ⟨es, hes, rfl⟩ := ih more.length hlt hread rfl
      exact ⟨ds ++ es, .cons hc hes, by rw [List.append_assoc]⟩

end Strings

/-! ## Words and punctuation -/

section Punctuation
variable {cs rest gap separator word : List Char} {first : Bool}

theorem append_of_scanWord (h : scanWord word cs = .ok rest) : cs = word ++ rest := by
  induction word generalizing cs with
  | nil =>
    cases h
    rfl
  | cons w word ih =>
    cases cs with
    | nil => cases h
    | cons c cs =>
      rw [scanWord] at h
      split at h
      · next hc => rw [ih h, hc, List.cons_append]
      · cases h

theorem append_of_map_scanWord {v v' : Value}
    (h : (scanWord word cs).map (fun rest => (v', rest)) = .ok (v, rest)) : cs = word ++ rest := by
  obtain ⟨_, hword, heq⟩ := map_eq_ok_iff.mp h
  cases heq
  exact append_of_scanWord hword

theorem exists_blank_append_skipSpace (cs : List Char) :
    ∃ gap, Blank gap ∧ cs = gap ++ skipSpace cs :=
  ⟨cs.takeWhile isSpace, fun _ hc => List.mem_takeWhile_imp hc,
    List.takeWhile_append_dropWhile.symm⟩

theorem Blank.append {gap' : List Char} (h : Blank gap) (h' : Blank gap') : Blank (gap ++ gap') :=
  List.forall_mem_append.mpr ⟨h, h'⟩

/-- White space after a separator belongs to it. -/
theorem Separates.append_blank (h : Separates first separator) (hgap : Blank gap) :
    Separates first (separator ++ gap) := by
  cases h with
  | first h => exact .first (h.append hgap)
  | comma hbefore hafter =>
    rw [List.append_assoc, List.cons_append]
    exact .comma hbefore (hafter.append hgap)

theorem exists_blank_of_scanColon (h : scanColon cs = .ok rest) :
    ∃ gap, Blank gap ∧ cs = gap ++ ':' :: rest := by
  obtain ⟨gap, hgap, hcs⟩ := exists_blank_append_skipSpace cs
  unfold scanColon at h
  split at h
  · cases h
  · next c more hskip =>
    split at h
    · next hc =>
      cases h
      exact ⟨gap, hgap, by rw [hcs, hskip, hc]⟩
    · cases h

/-- What a loop over a container has found before a round, the container being closed by `close` and
its rounds beginning with what `start` stands for. -/
def Finds (close : Char) (start : List Char) (first : Bool) (cs : List Char) : Round → Prop
  | .done rest => ∃ gap, Blank gap ∧ cs = gap ++ close :: rest
  | .more rest => ∃ separator, Separates first separator ∧ cs = separator ++ start ++ rest

theorem finds_of_nextItem {round : Round} (h : nextItem first cs = .ok round) :
    Finds ']' [] first cs round := by
  obtain ⟨gap, hgap, hcs⟩ := exists_blank_append_skipSpace cs
  unfold nextItem at h
  split at h
  · cases h
  next c more hskip =>
  rw [hskip] at hcs
  split at h
  · next hc =>
    cases h
    exact ⟨gap, hgap, hc ▸ hcs⟩
  split at h
  · next hfirst =>
    cases h
    subst hfirst
    exact ⟨gap, .first hgap, by rw [hcs, List.append_nil]⟩
  next hfirst =>
  split at h
  · next hc =>
    obtain ⟨gap', hgap', hmore⟩ := exists_blank_append_skipSpace more
    split at h
    · cases h
    next d rest hskip' =>
    split at h
    · cases h
    · cases h
      obtain rfl := eq_false_of_ne_true hfirst
      refine ⟨gap ++ ',' :: gap', .comma hgap hgap', ?_⟩
      rw [hcs, hc, hmore, hskip']
      simp
  · cases h

theorem finds_of_nextKey {round : Round} (h : nextKey first cs = .ok round) :
    Finds '}' ['"'] first cs round := by
  obtain ⟨gap, hgap, hcs⟩ := exists_blank_append_skipSpace cs
  unfold nextKey at h
  split at h
  · cases h
  next c more hskip =>
  rw [hskip] at hcs
  split at h
  · next hc =>
    cases h
    exact ⟨gap, hgap, hc ▸ hcs⟩
  split at h
  · next hfirst =>
    split at h
    · next hc =>
      cases h
      subst hfirst
      exact ⟨gap, .first hgap, by simp [hcs, hc]⟩
    · cases h
  next hfirst =>
  split at h
  · next hc =>
    obtain ⟨gap', hgap', hmore⟩ := exists_blank_append_skipSpace more
    split at h
    · cases h
    next d rest hskip' =>
    split at h
    · next hd =>
      cases h
      obtain rfl := eq_false_of_ne_true hfirst
      refine ⟨gap ++ ',' :: gap', .comma hgap hgap', ?_⟩
      rw [hcs, hc, hmore, hskip', hd]
      simp
    · split at h <;> cases h
  · cases h

end Punctuation

/-! ## Values -/

namespace Reading
variable {cs rest : List Char} {d bound : Nat} {first : Bool} {v : Value}

/-- Everything that is accepted has the text of a value at its front, after white space. -/
def AcceptsTexts (scan : List Char → Except Fault (Value × List Char)) : Prop :=
  ∀ {cs v rest}, scan cs = .ok (v, rest) →
    ∃ gap ds, Blank gap ∧ IsText ds ∧ cs = gap ++ ds ++ rest

theorem exists_items_of_scanItemsWithin {items : List Value} (hscan : AcceptsTexts (scanValue d))
    (h : scanItemsWithin (scanValue d) bound first cs = .ok (items, rest)) :
    ∃ ds, IsItems first ds ∧ cs = ds ++ rest := by
  induction bound generalizing first cs items with
  | zero => cases h
  | succ bound ih =>
    obtain ⟨round, hround, h⟩ := bind_eq_ok_iff.mp h
    cases round with
    | done more =>
      cases h
      obtain ⟨gap, hgap, rfl⟩ := finds_of_nextItem hround
      exact ⟨_, .close hgap, by simp⟩
    | more more =>
      obtain ⟨⟨v, _⟩, hv, h⟩ := bind_eq_ok_iff.mp h
      obtain ⟨⟨items, _⟩, hitems, h⟩ := bind_eq_ok_iff.mp h
      cases h
      obtain ⟨separator, hseparator, rfl⟩ := finds_of_nextItem hround
      obtain ⟨gap, ds, hgap, hds, rfl⟩ := hscan hv
      obtain ⟨es, hes, rfl⟩ := ih hitems
      exact ⟨_, .more (hseparator.append_blank hgap) hds hes, by simp⟩

theorem exists_fields_of_scanEntriesWithin {acc fields : List (String × Value)}
    (hscan : AcceptsTexts (scanValue d))
    (h : scanEntriesWithin (scanPut d) bound first acc cs = .ok (fields, rest)) :
    ∃ ds, IsFields first ds ∧ cs = ds ++ rest := by
  induction bound generalizing first cs acc with
  | zero => cases h
  | succ bound ih =>
    obtain ⟨round, hround, h⟩ := bind_eq_ok_iff.mp h
    cases round with
    | done more =>
      cases h
      obtain ⟨gap, hgap, rfl⟩ := finds_of_nextKey hround
      exact ⟨_, .close hgap, by simp⟩
    | more more =>
      obtain ⟨⟨key, _⟩, hkey, h⟩ := bind_eq_ok_iff.mp h
      obtain ⟨⟨acc, _⟩, hentry, hfields⟩ := bind_eq_ok_iff.mp h
      obtain ⟨_, hcolon, hentry⟩ := bind_eq_ok_iff.mp hentry
      obtain ⟨⟨v, _⟩, hv, hentry⟩ := bind_eq_ok_iff.mp hentry
      cases hentry
      obtain ⟨separator, hseparator, rfl⟩ := finds_of_nextKey hround
      obtain ⟨ks, hks, rfl⟩ := exists_spelled_of_scanString hkey
      obtain ⟨before, hbefore, rfl⟩ := exists_blank_of_scanColon hcolon
      obtain ⟨after, ds, hafter, hds, rfl⟩ := hscan hv
      obtain ⟨es, hes, rfl⟩ := ih hfields
      exact ⟨_, .more hseparator hks hbefore hafter hds hes, by simp⟩

/-- **What is read as a value is the text of one.** -/
theorem acceptsTexts_scanValue (d : Nat) : AcceptsTexts (scanValue d) := by
  induction d using Nat.strongRecOn with
  | ind d ih =>
    intro cs v rest h
    obtain ⟨gap, hgap, hcs⟩ := exists_blank_append_skipSpace cs
    suffices htext : ∃ ds, IsText ds ∧ skipSpace cs = ds ++ rest by
      obtain ⟨ds, hds, happend⟩ := htext
      exact ⟨gap, ds, hgap, hds, by rw [List.append_assoc, ← happend, ← hcs]⟩
    rw [scanValue.eq_def] at h
    split at h
    · cases h
    next c more hskip =>
    rw [hskip]
    split at h
    · next hc => exact ⟨_, .null, by rw [hc, append_of_map_scanWord h]; rfl⟩
    split at h
    · next hc => exact ⟨_, .bool true, by rw [hc, append_of_map_scanWord h]; rfl⟩
    split at h
    · next hc => exact ⟨_, .bool false, by rw [hc, append_of_map_scanWord h]; rfl⟩
    split at h
    · obtain ⟨⟨n, _⟩, hnumber, heq⟩ := map_eq_ok_iff.mp h
      cases heq
      obtain ⟨ds, hds, happend⟩ := exists_numeral_of_scanNumber hnumber
      exact ⟨ds, .number hds, happend⟩
    split at h
    · next hc =>
      obtain ⟨⟨s, _⟩, hstring, heq⟩ := map_eq_ok_iff.mp h
      cases heq
      obtain ⟨ds, hds, rfl⟩ := exists_spelled_of_scanString hstring
      exact ⟨_, .string hds, by simp [hc]⟩
    split at h
    · next hc =>
      split at h
      · cases h
      · next d' =>
        obtain ⟨⟨items, _⟩, hitems, heq⟩ := map_eq_ok_iff.mp h
        cases heq
        obtain ⟨ds, hds, rfl⟩ :=
          exists_items_of_scanItemsWithin (ih d' (Nat.lt_succ_self d')) hitems
        exact ⟨_, .array hds, by rw [hc]; rfl⟩
    split at h
    · next hc =>
      split at h
      · cases h
      · next d' =>
        obtain ⟨⟨fields, _⟩, hfields, heq⟩ := map_eq_ok_iff.mp h
        cases heq
        obtain ⟨ds, hds, rfl⟩ :=
          exists_fields_of_scanEntriesWithin (ih d' (Nat.lt_succ_self d')) hfields
        exact ⟨_, .object hds, by rw [hc]; rfl⟩
    · cases h

end Reading

/-- **Whatever the reader accepts is JSON.** -/
theorem isJson_of_parse {text : String} {v : Value} (h : Value.parse text = .ok v) :
    IsJson text := by
  obtain ⟨rest, hscan, hend⟩ := Reading.toEnd_eq_ok_iff.mp (mapError_eq_ok_iff.mp h)
  obtain ⟨before, ds, hbefore, hds, htext⟩ := Reading.acceptsTexts_scanValue depthLimit hscan
  obtain ⟨after, hafter, hrest⟩ := exists_blank_append_skipSpace rest
  rw [hend, List.append_nil] at hrest
  exact ⟨before, ds, after, hbefore, hds, hafter, hrest ▸ htext⟩

end IntentSelect.Json
