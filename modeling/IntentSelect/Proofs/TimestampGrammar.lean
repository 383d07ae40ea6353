import IntentSelect.Proofs.BlankEnds
import IntentSelect.Proofs.Numerals
import IntentSelect.Proofs.TimestampText

/-! # The grammar of timestamps

What it is for characters to be a text of a date, a time of day and an offset (`Spells`): which
digits, marks and white space stand there, and which numbers they write.  Nothing is said about how
they are found.  The reader reads just these texts, and what it reads is what they spell
(`readParts_eq_ok_iff`), so a text spells one date, time of day and offset at most
(`Spells.unique`).

For each part of a text there are two statements: what has been read is spelled by the characters
that it has been read from, and what is spelled is read, if no digits follow that would be read as
well.
-/
namespace IntentSelect.Timestamp

open Text
open Json (IsDigits)

variable {cs ds rest : List Char} {n most least greatest : Nat} {mark : Char}

/-! ## The grammar -/

/-- White space, or none, and then characters of a given form. -/
def Spaced (Form : List Char → Prop) (cs : List Char) : Prop :=
  ∃ gap ds, AllBlank gap ∧ Form ds ∧ cs = gap ++ ds

/-- The characters are a number of one or two digits that lies between bounds. -/
structure SpellsNumber (least greatest n : Nat) (cs : List Char) : Prop where
  digits : IsDigits cs
  length_le : cs.length ≤ 2
  value : Nat.ofDigitChars 10 cs 0 = n
  bounds : least ≤ n ∧ n ≤ greatest

/-- The characters are a mark and such a number, with white space before either. -/
def SpellsAfter (mark : Char) (least greatest n : Nat) : List Char → Prop :=
  Spaced fun cs => ∃ ds, Spaced (SpellsNumber least greatest n) ds ∧ cs = mark :: ds

/-- The characters are a year: four digits at most, or any number of digits after a sign. -/
inductive SpellsYear : Int → List Char → Prop where
  | plain {ds : List Char} (h : IsDigits ds) (hlength : ds.length ≤ 4) :
    SpellsYear (Nat.ofDigitChars 10 ds 0) ds
  | positive {ds : List Char} (h : IsDigits ds) : SpellsYear (Nat.ofDigitChars 10 ds 0) ('+' :: ds)
  | negative {ds : List Char} (h : IsDigits ds) :
    SpellsYear (-(Nat.ofDigitChars 10 ds 0)) ('-' :: ds)

/-- The characters are a fraction of a second, in nanoseconds, or there are none.  Digits after the
ninth do not count. -/
inductive SpellsFraction : Nat → List Char → Prop where
  | none : SpellsFraction 0 []
  | digits {ds : List Char} (h : IsDigits ds) :
    SpellsFraction (Nat.ofDigitChars 10 (ds.take 9) 0 * 10 ^ (9 - ds.length)) ('.' :: ds)

/-- The characters are hours and minutes of two digits each, in seconds.  Colons and white space may
stand between them. -/
inductive SpellsHours : Nat → List Char → Prop where
  | parts {hours minutes : Nat} {hs gap ms : List Char} (hhours : SpellsNumber 0 99 hours hs)
    (hlength : hs.length = 2) (hgap : ∀ c ∈ gap, c = ':' ∨ isBlank c = true)
    (hminutes : SpellsNumber 0 59 minutes ms) (hlength' : ms.length = 2) :
    SpellsHours (hours * 3600 + minutes * 60) (hs ++ gap ++ ms)

/-- The characters are an offset from universal time, in seconds. -/
inductive SpellsOffset : Int → List Char → Prop where
  | named {cs : List Char} (h : cs.map Char.toUpper = ['U', 'T', 'C']) : SpellsOffset 0 cs
  | zero {c : Char} (h : c = 'Z' ∨ c = 'z') : SpellsOffset 0 [c]
  | ahead {n : Nat} {cs : List Char} (h : SpellsHours n cs) : SpellsOffset n ('+' :: cs)
  | behind {n : Nat} {cs : List Char} {c : Char} (hsign : c = '-' ∨ c = '−')
    (h : SpellsHours n cs) : SpellsOffset (-n) (c :: cs)

/-- The characters are a text of a date, a time of day and an offset. -/
inductive Spells : Written → List Char → Prop where
  | parts {w : Written} {year month day hour minute second fraction offset gap : List Char}
    {separator : Char} (hyear : Spaced (SpellsYear w.date.year) year)
    (hword : -0x80000000 ≤ w.date.year ∧ w.date.year < 0x80000000)
    (hmonth : SpellsAfter '-' 1 12 w.date.month month)
    (hday : SpellsAfter '-' 1 31 w.date.day day)
    (hseparator : separator = 'T' ∨ separator = 't' ∨ separator = ' ')
    (hhour : Spaced (SpellsNumber 0 23 w.hour) hour)
    (hminute : SpellsAfter ':' 0 59 w.minute minute)
    (hsecond : SpellsAfter ':' 0 60 w.second second) (hfraction : SpellsFraction w.nano fraction)
    (hoffset : Spaced (SpellsOffset w.offset) offset) (hend : AllBlank gap) :
    Spells w (year ++ month ++ day ++ separator :: hour ++ minute ++ second ++ fraction ++ offset ++
      gap)

/-! ## White space before a form -/

/-- There is a first character, and it is as described. -/
def Begins (P : Char → Prop) (cs : List Char) : Prop := ∃ c more, cs = c :: more ∧ P c

section Spaced
variable {Form : List Char → Prop} {P : Char → Prop}

/-- What is found after white space is found with white space before it. -/
theorem exists_spaced (h : ∃ ds, Form ds ∧ dropBlank cs = ds ++ rest) :
    ∃ ds, Spaced Form ds ∧ cs = ds ++ rest := by
  obtain ⟨ds, hds, hdrop⟩ := h
  obtain ⟨gap, hgap, hcs⟩ := exists_append_dropBlank cs
  refine ⟨gap ++ ds, ⟨gap, ds, hgap, hds, rfl⟩, ?_⟩
  rw [List.append_assoc, ← hdrop, ← hcs]

/-- What begins with something that is seen is left when the white space is taken off. -/
theorem Spaced.exists_dropBlank (h : Spaced Form cs)
    (hform : ∀ ds, Form ds → Begins (isBlank · = false) ds) (rest : List Char) :
    ∃ ds, Form ds ∧ dropBlank (cs ++ rest) = ds ++ rest := by
  obtain ⟨gap, ds, hgap, hds, rfl⟩ := h
  refine ⟨ds, hds, ?_⟩
  obtain ⟨c, more, rfl, hc⟩ := hform ds hds
  rw [List.append_assoc, dropBlank_append hgap, List.cons_append, dropBlank_cons hc]

/-- The first character is white space, or one that the form begins with. -/
theorem Spaced.head (h : Spaced Form cs) (hblank : ∀ c, isBlank c = true → P c)
    (hform : ∀ ds, Form ds → Begins P ds) : ∀ c ∈ (cs ++ rest).head?, P c := by
  obtain ⟨gap, ds, hgap, hds, rfl⟩ := h
  cases gap with
  | nil =>
    obtain ⟨c, more, rfl, hc⟩ := hform ds hds
    intro d hd
    exact Option.some.inj hd ▸ hc
  | cons b gap =>
    intro d hd
    exact Option.some.inj hd ▸ hblank b (hgap b List.mem_cons_self)

end Spaced

/-! ## Digits -/

/-- What follows does not go on with the digits before it. -/
def EndsDigits (rest : List Char) : Prop := ∀ c ∈ rest.head?, c.isDigit = false

theorem endsDigits_dropWhile (cs : List Char) : EndsDigits (cs.dropWhile Char.isDigit) := by
  intro c hc
  have hnot := List.head?_dropWhile_not Char.isDigit cs
  rw [Option.mem_def] at hc
  rw [hc] at hnot
  simpa using hnot

theorem dropWhile_eq_self (h : EndsDigits cs) : cs.dropWhile Char.isDigit = cs := by
  cases cs with
  | nil => rfl
  | cons c cs => exact List.dropWhile_cons_of_neg (by simp [h c rfl])

theorem ofDigitChars_lt (hds : ∀ c ∈ ds, c.isDigit = true) (m : Nat) :
    Nat.ofDigitChars 10 ds m < (m + 1) * 10 ^ ds.length := by
  induction ds generalizing m with
  | nil =>
    rw [List.length_nil, Nat.pow_zero, Nat.mul_one]
    exact Nat.lt_succ_self m
  | cons c ds ih =>
    obtain ⟨hc, hds⟩ := List.forall_mem_cons.mp hds
    have hdigit : c.toNat - '0'.toNat ≤ 9 := Nat.sub_le_of_le_add (toNat_digit hc).2
    rw [Nat.ofDigitChars_cons, List.length_cons, Nat.pow_succ']
    calc Nat.ofDigitChars 10 ds (10 * m + (c.toNat - '0'.toNat))
        < (10 * m + (c.toNat - '0'.toNat) + 1) * 10 ^ ds.length := ih hds _
      _ ≤ (m + 1) * 10 * 10 ^ ds.length := Nat.mul_le_mul_right _ (by omega)
      _ = (m + 1) * (10 * 10 ^ ds.length) := Nat.mul_assoc _ _ _

/-- So many digits write a number below that power of ten. -/
theorem ofDigitChars_lt_pow (hds : ∀ c ∈ ds, c.isDigit = true) {k : Nat} (hlength : ds.length ≤ k) :
    Nat.ofDigitChars 10 ds 0 < 10 ^ k := by
  have hlt := ofDigitChars_lt hds 0
  rw [Nat.zero_add, Nat.one_mul] at hlt
  exact Nat.lt_of_lt_of_le hlt (Nat.pow_le_pow_right (by decide) hlength)

theorem begins_digits (h : IsDigits ds) : Begins (·.isDigit = true) ds := by
  obtain ⟨c, more, rfl⟩ := List.exists_cons_of_ne_nil h.1
  exact ⟨c, more, rfl, h.2 c List.mem_cons_self⟩

theorem visible_digits (h : IsDigits ds) : Begins (isBlank · = false) ds := by
  obtain ⟨c, more, rfl, hc⟩ := begins_digits h
  exact ⟨c, more, rfl, isBlank_of_isDigit hc⟩

theorem exists_digits_of_readNumber (h : readNumber most cs = .ok (n, rest)) :
    ∃ ds, IsDigits ds ∧ ds.length ≤ most ∧ Nat.ofDigitChars 10 ds 0 = n ∧ cs = ds ++ rest := by
  unfold readNumber at h
  split at h
  · cases h
  simp only at h
  split at h
  · cases h
  next hne =>
  split at h
  · cases h
    have hprefix : leadingDigits most cs <+: cs :=
      (List.takeWhile_prefix _).trans (List.take_prefix _ _)
    refine ⟨leadingDigits most cs, ⟨?_, fun c hc => List.mem_takeWhile_imp hc⟩, ?_, rfl,
      (List.prefix_iff_eq_append.mp hprefix).symm⟩
    · simpa using hne
    · exact (List.takeWhile_prefix _).length_le.trans (List.length_take_le _ _)
  · cases h

theorem readNumber_digits (h : IsDigits ds) (hlength : ds.length ≤ most) (hend : EndsDigits rest)
    (hn : Nat.ofDigitChars 10 ds 0 < 0x8000000000000000) :
    readNumber most (ds ++ rest) = .ok (Nat.ofDigitChars 10 ds 0, rest) :=
  readNumber_append h.1 (leadingDigits_append h.2 hlength fun _ => hend) hn

/-! ## Numbers between bounds -/

theorem exists_number_of_readBetween (h : readBetween least greatest cs = .ok (n, rest)) :
    ∃ ds, Spaced (SpellsNumber least greatest n) ds ∧ cs = ds ++ rest := by
  obtain ⟨⟨m, more⟩, hnumber, h⟩ := bind_eq_ok_iff.mp h
  simp only at h
  split at h
  · next hbounds =>
    cases h
    obtain ⟨ds, hds, hlength, hvalue, hdrop⟩ := exists_digits_of_readNumber hnumber
    exact exists_spaced ⟨ds, ⟨hds, hlength, hvalue, hbounds⟩, hdrop⟩
  · cases h

theorem readBetween_number (h : Spaced (SpellsNumber least greatest n) ds)
    (hend : EndsDigits rest) : readBetween least greatest (ds ++ rest) = .ok (n, rest) := by
  obtain ⟨ds, ⟨hds, hlength, hvalue, hbounds⟩, hdrop⟩ :=
    h.exists_dropBlank (fun ds hds => visible_digits hds.digits) rest
  have hlt : Nat.ofDigitChars 10 ds 0 < 0x8000000000000000 :=
    Nat.lt_trans (ofDigitChars_lt_pow hds.2 hlength) (by decide)
  rw [readBetween, hdrop, readNumber_digits hds hlength hend hlt, ok_bind, hvalue]
  exact if_pos hbounds

/-- A mark and a number after it have been read. -/
theorem exists_after_of_expect {more : List Char} (h : expect mark (dropBlank cs) = .ok more)
    (hnumber : readBetween least greatest more = .ok (n, rest)) :
    ∃ ds, SpellsAfter mark least greatest n ds ∧ cs = ds ++ rest := by
  obtain ⟨ds, hds, rfl⟩ := exists_number_of_readBetween hnumber
  unfold expect at h
  split at h
  · cases h
  next c more hdrop =>
  split at h
  · next hc =>
    cases h
    exact exists_spaced ⟨mark :: ds, ⟨ds, hds, rfl⟩, hc ▸ hdrop⟩
  · cases h

theorem readAfter (hmark : isBlank mark = false) (h : SpellsAfter mark least greatest n ds)
    (hend : EndsDigits rest) :
    ∃ cs, expect mark (dropBlank (ds ++ rest)) = .ok cs ∧
      readBetween least greatest cs = .ok (n, rest) := by
  have hform (cs : List Char) (hcs : ∃ ds, Spaced (SpellsNumber least greatest n) ds ∧
      cs = mark :: ds) : Begins (isBlank · = false) cs := by
    obtain ⟨ds, -, rfl⟩ := hcs
    exact ⟨mark, ds, rfl, hmark⟩
  obtain ⟨_, ⟨ds, hds, rfl⟩, hdrop⟩ := h.exists_dropBlank hform rest
  exact ⟨ds ++ rest, hdrop ▸ if_pos rfl, readBetween_number hds hend⟩

theorem isDigit_of_isBlank {c : Char} (h : isBlank c = true) : c.isDigit = false := by
  refine Bool.eq_false_iff.mpr fun hdigit => ?_
  rw [isBlank_of_isDigit hdigit] at h
  cases h

theorem endsDigits_after (hmark : mark.isDigit = false)
    (h : SpellsAfter mark least greatest n ds) : EndsDigits (ds ++ rest) := by
  refine h.head (fun c => isDigit_of_isBlank) ?_
  rintro _ ⟨ds, -, rfl⟩
  exact ⟨mark, ds, rfl, hmark⟩

/-! ## Years -/

/-- Digits have been read as a year, with a sign or without. -/
theorem exists_digits_of_word (sign : Nat → Int) {year : Int}
    (h : ((readNumber most cs).map fun p => (sign p.1, p.2)) >>= (fun p =>
      if -0x80000000 ≤ p.1 ∧ p.1 < 0x80000000 then pure (p.1, p.2)
      else throw Refused.outOfRange) = .ok (year, rest)) :
    (∃ ds, IsDigits ds ∧ ds.length ≤ most ∧ sign (Nat.ofDigitChars 10 ds 0) = year ∧
      cs = ds ++ rest) ∧ -0x80000000 ≤ year ∧ year < 0x80000000 := by
  obtain ⟨p, hnumber, hword⟩ := bind_eq_ok_iff.mp h
  obtain ⟨⟨n, more⟩, hdigits, rfl⟩ := map_eq_ok_iff.mp hnumber
  split at hword
  · next hbounds =>
    cases hword
    obtain ⟨ds, hds, hlength, rfl, rfl⟩ := exists_digits_of_readNumber hdigits
    exact ⟨⟨ds, hds, hlength, rfl, rfl⟩, hbounds⟩
  · cases hword

theorem exists_year_of_readYear {year : Int} (h : readYear cs = .ok (year, rest)) :
    (∃ ds, Spaced (SpellsYear year) ds ∧ cs = ds ++ rest) ∧
      -0x80000000 ≤ year ∧ year < 0x80000000 := by
  unfold readYear at h
  simp only at h
  split at h
  · next more hdrop =>
    obtain ⟨⟨ds, hds, -, rfl, rfl⟩, hword⟩ := exists_digits_of_word (fun n => -(n : Int)) h
    exact ⟨exists_spaced ⟨_, .negative hds, hdrop⟩, hword⟩
  · next more hdrop =>
    obtain ⟨⟨ds, hds, -, rfl, rfl⟩, hword⟩ := exists_digits_of_word _ h
    exact ⟨exists_spaced ⟨_, .positive hds, hdrop⟩, hword⟩
  · obtain ⟨⟨ds, hds, hlength, rfl, hdrop⟩, hword⟩ := exists_digits_of_word _ h
    exact ⟨exists_spaced ⟨_, .plain hds hlength, hdrop⟩, hword⟩

theorem SpellsYear.visible {year : Int} (h : SpellsYear year ds) :
    Begins (isBlank · = false) ds := by
  cases h with
  | plain h hlength => exact visible_digits h
  | positive h => exact ⟨_, _, rfl, by decide⟩
  | negative h => exact ⟨_, _, rfl, by decide⟩

theorem lt_of_word {n : Nat} {year : Int} (hword : -0x80000000 ≤ year ∧ year < 0x80000000)
    (h : year.natAbs = n) : n < 0x8000000000000000 := by
  omega

/-- Digits begin with no mark. -/
theorem ne_cons_of_digits (h : IsDigits ds) (hmark : mark.isDigit = false) (more : List Char) :
    ds ++ rest ≠ mark :: more := by
  obtain ⟨d, digits, rfl, hd⟩ := begins_digits h
  intro heq
  obtain ⟨rfl, -⟩ := List.cons.inj heq
  rw [hd] at hmark
  cases hmark

theorem readYear_year {year : Int} (h : Spaced (SpellsYear year) ds)
    (hword : -0x80000000 ≤ year ∧ year < 0x80000000) (hend : EndsDigits rest) :
    readYear (ds ++ rest) = .ok (year, rest) := by
  obtain ⟨_, hyear, hdrop⟩ := h.exists_dropBlank (fun _ hds => hds.visible) rest
  rw [readYear, hdrop]
  cases hyear with
  | plain hds hlength =>
    have hread := readNumber_digits hds hlength hend (lt_of_word hword (Int.natAbs_natCast _))
    split
    · next heq => exact absurd heq (ne_cons_of_digits hds (by decide) _)
    · next heq => exact absurd heq (ne_cons_of_digits hds (by decide) _)
    · rw [hread, Except.map, ok_bind]
      exact if_pos hword
  | @positive ds hds =>
    have hlt := lt_of_word hword (Int.natAbs_natCast _)
    have hread : readNumber (ds ++ rest).length (ds ++ rest) = _ :=
      readNumber_digits hds (by simp) hend hlt
    rw [List.cons_append]
    simp only
    rw [hread, Except.map, ok_bind]
    exact if_pos hword
  | @negative ds hds =>
    have hlt := lt_of_word hword (by rw [Int.natAbs_neg, Int.natAbs_natCast])
    have hread : readNumber (ds ++ rest).length (ds ++ rest) = _ :=
      readNumber_digits hds (by simp) hend hlt
    rw [List.cons_append]
    simp only
    rw [hread, Except.map, ok_bind]
    exact if_pos hword

/-! ## Separators and fractions -/

theorem readSeparator_eq_ok_iff : readSeparator cs = .ok rest ↔
    ∃ c, (c = 'T' ∨ c = 't' ∨ c = ' ') ∧ cs = c :: rest := by
  constructor
  · intro h
    unfold readSeparator at h
    split at h
    · cases h
    next c more =>
    split at h
    · next hc =>
      cases h
      exact ⟨c, hc, rfl⟩
    · cases h
  · rintro ⟨c, hc, rfl⟩
    exact if_pos hc

/-- The first nine digits are read, and the others are skipped. -/
theorem readFraction_digits (h : IsDigits ds) (hend : EndsDigits rest) :
    readFraction ('.' :: ds ++ rest) =
      .ok (Nat.ofDigitChars 10 (ds.take 9) 0 * 10 ^ (9 - ds.length), rest) := by
  have hall : ∀ c ∈ ds.take 9, c.isDigit = true := fun c hc => h.2 c (List.mem_of_mem_take hc)
  have hlength : (ds.take 9).length ≤ 9 := List.length_take_le 9 ds
  have hstop : (ds.take 9).length < 9 → EndsDigits (ds.drop 9 ++ rest) := by
    intro hlt
    rw [List.length_take] at hlt
    rw [List.drop_of_length_le (by omega)]
    exact hend
  have hread : readNumber 9 (ds.take 9 ++ (ds.drop 9 ++ rest)) =
      .ok (Nat.ofDigitChars 10 (ds.take 9) 0, ds.drop 9 ++ rest) :=
    readNumber_append (by simp [h.1]) (leadingDigits_append hall hlength hstop)
      (Nat.lt_trans (ofDigitChars_lt_pow hall hlength) (by decide))
  rw [← List.append_assoc, List.take_append_drop] at hread
  have hwidth : 9 - ((ds ++ rest).length - (ds.drop 9 ++ rest).length) = 9 - ds.length := by
    simp only [List.length_append, List.length_drop]
    omega
  have hskip : (ds.drop 9 ++ rest).dropWhile Char.isDigit = rest := by
    rw [List.dropWhile_append_of_pos fun c hc => h.2 c (List.mem_of_mem_drop hc)]
    exact dropWhile_eq_self hend
  simp only [List.cons_append, readFraction, hread, ok_bind, hwidth, hskip]
  rfl

theorem readFraction_fraction (h : SpellsFraction n ds)
    (hend : ∀ c ∈ rest.head?, c.isDigit = false ∧ c ≠ '.') :
    readFraction (ds ++ rest) = .ok (n, rest) := by
  cases h with
  | none =>
    unfold readFraction
    split
    · next heq =>
      rw [List.nil_append] at heq
      exact absurd rfl (hend '.' (by rw [heq]; rfl)).2
    · rfl
  | digits h => exact readFraction_digits h fun c hc => (hend c hc).1

theorem endsDigits_fraction (h : SpellsFraction n ds)
    (hend : ∀ c ∈ rest.head?, c.isDigit = false ∧ c ≠ '.') : EndsDigits (ds ++ rest) := by
  cases h with
  | none => exact fun c hc => (hend c hc).1
  | digits h => exact fun c hc => Option.some.inj hc ▸ rfl

theorem exists_fraction_of_readFraction (h : readFraction cs = .ok (n, rest)) :
    ∃ ds, SpellsFraction n ds ∧ cs = ds ++ rest := by
  have hread := h
  unfold readFraction at h
  split at h
  · next more =>
    -- the digits that follow the point are there, and so they are all read
    obtain ⟨_, hnumber, -⟩ := bind_eq_ok_iff.mp h
    obtain ⟨first, hfirst, -, -, hmore⟩ := exists_digits_of_readNumber hnumber
    have hdigits : IsDigits (more.takeWhile Char.isDigit) := by
      refine ⟨?_, fun c hc => List.mem_takeWhile_imp hc⟩
      rw [hmore, List.takeWhile_append_of_pos hfirst.2]
      exact List.append_ne_nil_of_left_ne_nil hfirst.1 _
    have hall := readFraction_digits hdigits (endsDigits_dropWhile more)
    rw [List.cons_append, List.takeWhile_append_dropWhile, hread] at hall
    cases hall
    exact ⟨_, .digits hdigits, by rw [List.cons_append, List.takeWhile_append_dropWhile]⟩
  · cases h
    exact ⟨[], .none, rfl⟩

/-! ## Offsets -/

theorem twoDigits_eq_ok_iff {a b : Nat} : twoDigits cs = .ok (a, b, rest) ↔
    ∃ x y, x.isDigit = true ∧ y.isDigit = true ∧ x.toNat - '0'.toNat = a ∧
      y.toNat - '0'.toNat = b ∧ cs = x :: y :: rest := by
  constructor
  · intro h
    unfold twoDigits at h
    split at h
    · cases h
    · split at h <;> cases h
    · next x y more =>
      split at h
      · next hdigits =>
        cases h
        exact ⟨x, y, hdigits.1, hdigits.2, rfl, rfl, rfl⟩
      · cases h
  · rintro ⟨x, y, hx, hy, rfl, rfl, rfl⟩
    exact if_pos ⟨hx, hy⟩

theorem ofDigitChars_pair (x y : Char) : Nat.ofDigitChars 10 [x, y] 0 =
    (x.toNat - '0'.toNat) * 10 + (y.toNat - '0'.toNat) := by
  rw [Nat.ofDigitChars_cons, Nat.ofDigitChars_cons, Nat.ofDigitChars_nil, Nat.mul_zero,
    Nat.zero_add, Nat.mul_comm]

/-- Two digits are a number, and its tens are the first of them. -/
theorem spellsNumber_pair {x y : Char} (hx : x.isDigit = true) (hy : y.isDigit = true)
    (h : (x.toNat - '0'.toNat) * 10 + (y.toNat - '0'.toNat) ≤ greatest) :
    SpellsNumber 0 greatest ((x.toNat - '0'.toNat) * 10 + (y.toNat - '0'.toNat)) [x, y] where
  digits := ⟨List.cons_ne_nil _ _, by simp [hx, hy]⟩
  length_le := Nat.le_refl 2
  value := ofDigitChars_pair x y
  bounds := ⟨Nat.zero_le _, h⟩

theorem exists_hours_of_readHoursAndMinutes (h : readHoursAndMinutes cs = .ok (n, rest)) :
    ∃ ds, SpellsHours n ds ∧ cs = ds ++ rest := by
  obtain ⟨⟨a, b, more⟩, hhours, h⟩ := bind_eq_ok_iff.mp h
  obtain ⟨⟨c, d, more'⟩, hminutes, h⟩ := bind_eq_ok_iff.mp h
  obtain ⟨x, y, hx, hy, rfl, rfl, rfl⟩ := twoDigits_eq_ok_iff.mp hhours
  obtain ⟨x', y', hx', hy', rfl, rfl, hdrop⟩ := twoDigits_eq_ok_iff.mp hminutes
  simp only at h
  split at h
  · cases h
  next hsix =>
  cases h
  obtain ⟨gap, hgap, rfl⟩ :
      ∃ gap, (∀ c ∈ gap, c = ':' ∨ isBlank c = true) ∧ more = gap ++ x' :: y' :: rest := by
    refine ⟨_, fun c hc => ?_, hdrop ▸ List.takeWhile_append_dropWhile.symm⟩
    simpa using List.mem_takeWhile_imp hc
  have hzero : '0'.toNat = 48 := rfl
  have htens := toNat_digit hx
  have hones := toNat_digit hy
  have hones' := toNat_digit hy'
  exact ⟨_, .parts (spellsNumber_pair hx hy (by omega)) rfl hgap
    (spellsNumber_pair hx' hy' (by omega)) rfl, by simp⟩

theorem readHoursAndMinutes_hours (h : SpellsHours n ds) (rest : List Char) :
    readHoursAndMinutes (ds ++ rest) = .ok (n, rest) := by
  cases h with
  | @parts hours minutes hs gap ms hhours hlength hgap hminutes hlength' =>
    obtain ⟨x, y, rfl⟩ := List.length_eq_two.mp hlength
    obtain ⟨x', y', rfl⟩ := List.length_eq_two.mp hlength'
    obtain ⟨⟨-, hdigits⟩, -, hvalue, -⟩ := hhours
    obtain ⟨⟨-, hdigits'⟩, -, hvalue', hbounds⟩ := hminutes
    have hx' := hdigits' x' (by simp)
    have htens := toNat_digit hx'
    have hzero : '0'.toNat = 48 := rfl
    rw [ofDigitChars_pair] at hvalue hvalue'
    have hread : twoDigits ([x, y] ++ gap ++ [x', y'] ++ rest) =
        .ok (x.toNat - '0'.toNat, y.toNat - '0'.toNat, gap ++ x' :: y' :: rest) :=
      twoDigits_eq_ok_iff.mpr ⟨x, y, hdigits x (by simp), hdigits y (by simp), rfl, rfl, by simp⟩
    have hread' : twoDigits (x' :: y' :: rest) =
        .ok (x'.toNat - '0'.toNat, y'.toNat - '0'.toNat, rest) :=
      twoDigits_eq_ok_iff.mpr ⟨x', y', hx', hdigits' y' (by simp), rfl, rfl, rfl⟩
    have hskip : (gap ++ x' :: y' :: rest).dropWhile (fun c => c == ':' || isBlank c) =
        x' :: y' :: rest := by
      have hcolon : x' ≠ ':' := by
        rintro rfl
        exact absurd hx' (by decide)
      rw [List.dropWhile_append_of_pos fun c hc => by simpa using hgap c hc]
      exact List.dropWhile_cons_of_neg (by simp [hcolon, isBlank_of_isDigit hx'])
    have hsix : ¬ 6 ≤ x'.toNat - '0'.toNat := by omega
    simp only [readHoursAndMinutes, hread, ok_bind, hskip, hread', if_neg hsix, hvalue, hvalue']
    rfl

theorem eq_of_toUpper {c : Char} (h : c.toUpper = 'U') : c = 'U' ∨ c = 'u' := by
  unfold Char.toUpper at h
  split at h
  · have hU : 'U'.val = 'u'.val + ('A'.val - 'a'.val) := by decide
    have hval := congrArg Char.val h
    simp only at hval
    rw [hU] at hval
    exact .inr (Char.ext ((UInt32.add_left_inj _).mp hval))
  · exact .inl h

/-- An offset begins with a letter or a sign. -/
theorem SpellsOffset.begins {offset : Int} (h : SpellsOffset offset ds) :
    Begins (fun c => isBlank c = false ∧ c.isDigit = false ∧ c ≠ '.') ds := by
  cases h with
  | named h =>
    obtain ⟨c, more, rfl, hc, -⟩ := List.map_eq_cons_iff.mp h
    obtain rfl | rfl := eq_of_toUpper hc
    · exact ⟨_, _, rfl, by decide⟩
    · exact ⟨_, _, rfl, by decide⟩
  | zero h =>
    obtain rfl | rfl := h
    · exact ⟨_, _, rfl, by decide⟩
    · exact ⟨_, _, rfl, by decide⟩
  | ahead h => exact ⟨_, _, rfl, by decide⟩
  | behind hsign h =>
    obtain rfl | rfl := hsign
    · exact ⟨_, _, rfl, by decide⟩
    · exact ⟨_, _, rfl, by decide⟩

theorem exists_offset_of_readOffset {offset : Int} (h : readOffset cs = .ok (offset, rest)) :
    ∃ ds, SpellsOffset offset ds ∧ cs = ds ++ rest := by
  unfold readOffset at h
  split at h
  · cases h
  next c more =>
  split at h
  · next hutc =>
    cases h
    exact ⟨_, .named hutc, (List.take_append_drop 3 _).symm⟩
  split at h
  · next hc =>
    cases h
    exact ⟨[c], .zero hc, rfl⟩
  split at h
  · next hc =>
    obtain ⟨⟨n, _⟩, hhours, heq⟩ := map_eq_ok_iff.mp h
    cases heq
    obtain ⟨ds, hds, rfl⟩ := exists_hours_of_readHoursAndMinutes hhours
    exact ⟨_, .ahead hds, by rw [hc, List.cons_append]⟩
  split at h
  · next hc =>
    obtain ⟨⟨n, _⟩, hhours, heq⟩ := map_eq_ok_iff.mp h
    cases heq
    obtain ⟨ds, hds, rfl⟩ := exists_hours_of_readHoursAndMinutes hhours
    exact ⟨_, .behind hc hds, rfl⟩
  · cases h

theorem ne_named {c : Char} (h : c.toUpper ≠ 'U') (more : List Char) :
    ((c :: more).take 3).map Char.toUpper ≠ ['U', 'T', 'C'] := by
  rw [List.take_succ_cons, List.map_cons]
  exact fun heq => h (List.cons.inj heq).1

theorem readOffset_offset {offset : Int} (h : SpellsOffset offset ds) (rest : List Char) :
    readOffset (ds ++ rest) = .ok (offset, rest) := by
  cases h with
  | named h =>
    obtain ⟨a, more, rfl, ha, hmore⟩ := List.map_eq_cons_iff.mp h
    obtain ⟨b, more, rfl, hb, hmore⟩ := List.map_eq_cons_iff.mp hmore
    obtain ⟨c, more, rfl, hc, hmore⟩ := List.map_eq_cons_iff.mp hmore
    obtain rfl := List.map_eq_nil_iff.mp hmore
    exact if_pos (by simp [ha, hb, hc])
  | @zero c h =>
    have hc : c.toUpper ≠ 'U' := by
      obtain rfl | rfl := h
      · decide
      · decide
    exact (if_neg (ne_named hc rest)).trans (if_pos h)
  | @ahead n ds h =>
    rw [List.cons_append, readOffset, if_neg (ne_named (by decide) _), if_neg (by decide),
      if_pos rfl, readHoursAndMinutes_hours h]
    rfl
  | @behind n ds c hsign h =>
    have hc : c.toUpper ≠ 'U' ∧ ¬ (c = 'Z' ∨ c = 'z') ∧ c ≠ '+' := by
      obtain rfl | rfl := hsign
      · decide
      · decide
    rw [List.cons_append, readOffset, if_neg (ne_named hc.1 _), if_neg hc.2.1, if_neg hc.2.2,
      if_pos hsign, readHoursAndMinutes_hours h]
    rfl

theorem ends_offset {offset : Int} (h : Spaced (SpellsOffset offset) ds) :
    ∀ c ∈ (ds ++ rest).head?, c.isDigit = false ∧ c ≠ '.' := by
  refine h.head (fun c hc => ⟨isDigit_of_isBlank hc, ?_⟩) fun ds hds => ?_
  · rintro rfl
    exact absurd hc (by decide)
  · obtain ⟨c, more, hcons, -, hc⟩ := hds.begins
    exact ⟨c, more, hcons, hc⟩

theorem readOffset_spaced {offset : Int} (h : Spaced (SpellsOffset offset) ds)
    (rest : List Char) : readOffset (dropBlank (ds ++ rest)) = .ok (offset, rest) := by
  have hform (ds : List Char) (hds : SpellsOffset offset ds) : Begins (isBlank · = false) ds := by
    obtain ⟨c, more, hcons, hc, -⟩ := hds.begins
    exact ⟨c, more, hcons, hc⟩
  obtain ⟨_, hoffset, hdrop⟩ := h.exists_dropBlank hform rest
  rw [hdrop]
  exact readOffset_offset hoffset rest

/-! ## Whole timestamps -/

variable {w : Written}

/-- **What has been read is spelled by the text.** -/
theorem spells_of_readParts (h : readParts cs = .ok w) : Spells w cs := by
  simp only [readParts, bind_eq_ok_iff, Prod.exists] at h
  obtain ⟨year, _, hyear, _, hdash, month, _, hmonth, _, hdash', day, _, hday, _, hseparator,
    hour, _, hhour, _, hcolon, minute, _, hminute, _, hcolon', second, _, hsecond, nano, _,
    hfraction, offset, last, hoffset, hend⟩ := h
  split at hend
  · next hblank =>
    cases hend
    obtain ⟨⟨_, hys, rfl⟩, hword⟩ := exists_year_of_readYear hyear
    obtain ⟨_, hms, rfl⟩ := exists_after_of_expect hdash hmonth
    obtain ⟨_, hds, rfl⟩ := exists_after_of_expect hdash' hday
    obtain ⟨c, hc, rfl⟩ := readSeparator_eq_ok_iff.mp hseparator
    obtain ⟨_, hhs, rfl⟩ := exists_number_of_readBetween hhour
    obtain ⟨_, hms', rfl⟩ := exists_after_of_expect hcolon hminute
    obtain ⟨_, hss, rfl⟩ := exists_after_of_expect hcolon' hsecond
    obtain ⟨_, hfs, rfl⟩ := exists_fraction_of_readFraction hfraction
    obtain ⟨_, hos, rfl⟩ := exists_spaced (exists_offset_of_readOffset hoffset)
    have hgap : AllBlank last := (dropBlank_eq_nil_iff last).mp (List.isEmpty_iff.mp hblank)
    have hspells := Spells.parts (w := ⟨⟨year, month, day⟩, hour, minute, second, nano, offset⟩)
      hys hword hms hds hc hhs hms' hss hfs hos hgap
    simpa only [List.append_assoc, List.cons_append] using hspells
  · cases hend

/-- **What a text spells is read from it.** -/
theorem readParts_of_spells (h : Spells w cs) : readParts cs = .ok w := by
  cases h with
  | @parts ys ms ds hs ms' ss fs os gap c hys hword hms hds hc hhs hms' hss hfs hos hgap =>
    have hzone : ∀ c ∈ (os ++ gap).head?, c.isDigit = false ∧ c ≠ '.' := ends_offset hos
    have hend := endsDigits_fraction hfs hzone
    have hend' (rest : List Char) : EndsDigits (c :: rest) := by
      intro d hd
      obtain rfl := Option.some.inj hd
      obtain rfl | rfl | rfl := hc <;> rfl
    obtain ⟨_, hdash, hmonth⟩ := readAfter (by decide) hms (endsDigits_after (by decide) hds)
    obtain ⟨_, hdash', hday⟩ := readAfter (by decide) hds (hend' _)
    obtain ⟨_, hcolon, hminute⟩ := readAfter (by decide) hms' (endsDigits_after (by decide) hss)
    obtain ⟨_, hcolon', hsecond⟩ := readAfter (by decide) hss hend
    simp only [readParts, bind_eq_ok_iff, Prod.exists, List.append_assoc, List.cons_append]
    refine ⟨_, _, readYear_year hys hword (endsDigits_after (by decide) hms), _, hdash,
      _, _, hmonth, _, hdash', _, _, hday, _, readSeparator_eq_ok_iff.mpr ⟨c, hc, rfl⟩,
      _, _, readBetween_number hhs (endsDigits_after (by decide) hms'), _, hcolon,
      _, _, hminute, _, hcolon', _, _, hsecond, _, _, readFraction_fraction hfs hzone,
      _, _, readOffset_spaced hos gap, ?_⟩
    rw [if_pos (List.isEmpty_iff.mpr ((dropBlank_eq_nil_iff gap).mpr hgap))]
    rfl

/-- **The texts that are read are those that spell something**, and what is read is what they
spell. -/
theorem readParts_eq_ok_iff : readParts cs = .ok w ↔ Spells w cs :=
  ⟨spells_of_readParts, readParts_of_spells⟩

/-- A text spells one date, time of day and offset. -/
theorem Spells.unique {w' : Written} (h : Spells w cs) (h' : Spells w' cs) : w = w' :=
  Except.ok.inj ((readParts_of_spells h).symm.trans (readParts_of_spells h'))

/-! ## Bounds -/

theorem SpellsAfter.le_greatest (h : SpellsAfter mark least greatest n ds) : n ≤ greatest := by
  obtain ⟨_, _, -, ⟨_, ⟨_, _, -, hnumber, -⟩, -⟩, -⟩ := h
  exact hnumber.bounds.2

/-- A fraction is less than a second. -/
theorem SpellsFraction.lt_second (h : SpellsFraction n ds) : n < 1000000000 := by
  cases h with
  | none => decide
  | @digits ds hds =>
    have hlength : (ds.take 9).length ≤ min 9 ds.length := List.length_take ▸ Nat.le_refl _
    have hlt := ofDigitChars_lt_pow (fun c hc => hds.2 c (List.mem_of_mem_take hc)) hlength
    calc Nat.ofDigitChars 10 (ds.take 9) 0 * 10 ^ (9 - ds.length)
        < 10 ^ min 9 ds.length * 10 ^ (9 - ds.length) :=
          Nat.mul_lt_mul_of_pos_right hlt (Nat.pow_pos (by decide))
      _ = 10 ^ (min 9 ds.length + (9 - ds.length)) := (Nat.pow_add 10 _ _).symm
      _ = 10 ^ 9 := by rw [show min 9 ds.length + (9 - ds.length) = 9 by omega]

theorem Spells.bounds (h : Spells w cs) : w.second ≤ 60 ∧ w.nano < 1000000000 := by
  cases h with
  | parts _ _ _ _ _ _ _ hsecond hfraction => exact ⟨hsecond.le_greatest, hfraction.lt_second⟩

/-! ## Whole minutes -/

theorem SpellsHours.wholeMinutes (h : SpellsHours n ds) : n % 60 = 0 := by
  cases h
  omega

theorem SpellsOffset.wholeMinutes {offset : Int} (h : SpellsOffset offset ds) :
    offset % 60 = 0 := by
  cases h with
  | named _ => rfl
  | zero _ => rfl
  | ahead hhours =>
    have := hhours.wholeMinutes
    omega
  | behind _ hhours =>
    have := hhours.wholeMinutes
    omega

theorem Spells.wholeMinutes (h : Spells w cs) : w.offset % 60 = 0 := by
  cases h with
  | parts _ _ _ _ _ _ _ _ _ hoffset _ =>
    obtain ⟨_, _, -, hzone, -⟩ := hoffset
    exact hzone.wholeMinutes

theorem toTimestamp_eq_ok {t : Timestamp} (h : w.toTimestamp = .ok t) :
    w.date.isValid = true ∧ t.second = w.instantSecond ∧ t.nano = w.instantNano := by
  unfold Written.toTimestamp at h
  split at h
  · next hdate =>
    split at h
    · next t' ht =>
      cases h
      unfold ofParts? at ht
      split at ht
      · cases ht
        exact ⟨hdate.1, rfl, rfl⟩
      · cases ht
    · cases h
  · cases h

/-- **No text has a stray leap second**: the second 60 ends a minute, which is a whole number of
minutes from universal time. -/
theorem not_isStray_of_ofChars {t : Timestamp} (h : ofChars cs = .ok t) : ¬ t.IsStray := by
  rintro ⟨hleap, hminute⟩
  obtain ⟨w, hread, htime⟩ := bind_eq_ok_iff.mp h
  obtain ⟨-, hsecond, hnano⟩ := toTimestamp_eq_ok htime
  have hspells := spells_of_readParts hread
  have hfraction := hspells.bounds.2
  have hoffset := hspells.wholeMinutes
  have hsixty : w.second = 60 := by
    by_contra hne
    rw [Written.instantNano, if_neg hne] at hnano
    omega
  rw [Written.instantSecond, Written.localSecond, hsixty, secondsPerDay] at hsecond
  omega

end IntentSelect.Timestamp
