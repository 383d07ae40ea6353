import IntentSelect.Proofs.JsonGrammar
import IntentSelect.Proofs.ReadingResults

/-! # Reading what has been written

The text of a value is read back from its first character to its last, whatever follows it:
strings character by character (`scanString_spellsText`), arrays element by element
(`ReadsText.list`), objects entry by entry (`ReadsText.record`).  `ReadsText r d v x` says that
`r` reads the text of `v` as `x` if no more than `d` arrays and objects lie within each other,
and refuses it otherwise; there is one lemma for each way of putting readings together.  The
bounds of the loops are never reached, since every round consumes a character.
-/
namespace IntentSelect.Json

/-! ## Strings -/

theorem scanString_quote (cs : List Char) : scanString ('"' :: cs) = .ok ([], cs) := by
  rw [scanString.eq_def]
  rfl

theorem scanString_short {e x : Char} (h : shortEscape? e = some x) (cs : List Char) :
    scanString ('\\' :: e :: cs) = consRead x (scanString cs) := by
  rw [scanString.eq_def]
  simp [h]

theorem scanString_plain {c : Char} (hquote : c ≠ '"') (hbackslash : c ≠ '\\')
    (hcontrol : ¬ c.toNat < 0x20) (cs : List Char) :
    scanString (c :: cs) = consRead c (scanString cs) := by
  rw [scanString.eq_def]
  simp [hquote, hbackslash, hcontrol]

theorem scanString_hex {a b c d : Char} {n : Nat} (h : hexFour? a b c d = some n)
    (hlow : isLowSurrogate n = false) (hhigh : isHighSurrogate n = false) (cs : List Char) :
    scanString ('\\' :: 'u' :: a :: b :: c :: d :: cs) =
      consRead (Char.ofNat n) (scanString cs) := by
  rw [scanString.eq_def]
  simp [shortEscape?, h, hlow, hhigh]

theorem scanString_pair {a b c d a' b' c' d' : Char} {high low : Nat}
    (hhigh : hexFour? a b c d = some high) (hlow : hexFour? a' b' c' d' = some low)
    (hisHigh : isHighSurrogate high = true) (hisLow : isLowSurrogate low = true) (cs : List Char) :
    scanString ('\\' :: 'u' :: a :: b :: c :: d :: '\\' :: 'u' :: a' :: b' :: c' :: d' :: cs) =
      consRead (pairedChar high low) (scanString cs) := by
  have hnotLow : isLowSurrogate high = false := by
    simp only [isHighSurrogate, Bool.and_eq_true, decide_eq_true_eq] at hisHigh
    simp only [isLowSurrogate, Bool.and_eq_false_iff, decide_eq_false_iff_not]
    omega
  rw [scanString.eq_def]
  simp [shortEscape?, hhigh, hlow, hisHigh, hisLow, hnotLow]

/-- No character is a surrogate. -/
theorem isSurrogate_eq_false (c : Char) :
    isLowSurrogate c.toNat = false ∧ isHighSurrogate c.toNat = false := by
  have hvalid : c.toNat.isValidChar := c.valid
  simp only [Nat.isValidChar] at hvalid
  simp only [isLowSurrogate, isHighSurrogate, Bool.and_eq_false_iff, decide_eq_false_iff_not]
  omega

/-- A character is read from whatever spells it. -/
theorem scanString_spellsChar {c : Char} {ds : List Char} (h : SpellsChar c ds) (cs : List Char) :
    scanString (ds ++ cs) = consRead c (scanString cs) := by
  cases h with
  | plain hquote hbackslash hcontrol => exact scanString_plain hquote hbackslash hcontrol cs
  | short h => exact scanString_short h cs
  | hex h =>
    obtain ⟨hlow, hhigh⟩ := isSurrogate_eq_false c
    have hread := scanString_hex h hlow hhigh cs
    rwa [Char.ofNat_toNat] at hread
  | pair hhigh hlow hisHigh hisLow => exact scanString_pair hhigh hlow hisHigh hisLow cs

/-- **A string is read from whatever spells it.** -/
theorem scanString_spellsText {s ds : List Char} (h : SpellsText s ds) (rest : List Char) :
    scanString (ds ++ '"' :: rest) = .ok (s, rest) := by
  induction h with
  | nil => exact scanString_quote rest
  | cons hc _ ih =>
    rw [List.append_assoc, scanString_spellsChar hc, ih]
    rfl

/-- A string that has been written is read back. -/
theorem scanString_escaped (s rest : List Char) :
    scanString (s.flatMap escapedChar ++ '"' :: rest) = .ok (s, rest) :=
  scanString_spellsText (spellsText_escaped s) rest

/-! ## White space and punctuation -/

section
variable {v : Value} {c : Char} {gap separator cs rest : List Char} {first : Bool}

theorem skipSpace_cons (h : isSpace c = false) (cs : List Char) :
    skipSpace (c :: cs) = c :: cs := by
  simp [skipSpace, h]

theorem skipSpace_append (h : Blank gap) (cs : List Char) : skipSpace (gap ++ cs) = skipSpace cs :=
  List.dropWhile_append_of_pos h

/-- No white space begins with a character that is looked for. -/
theorem skipSpace_append_cons (h : Blank gap) (hc : isSpace c = false) (cs : List Char) :
    skipSpace (gap ++ c :: cs) = c :: cs := by
  rw [skipSpace_append h, skipSpace_cons hc]

theorem ne_char_of_startsNumber (hc : c = '-' ∨ c.isDigit = true) {x : Char}
    (hx : ¬ (x = '-' ∨ x.isDigit = true)) : c ≠ x := by
  rintro rfl
  exact hx hc

/-- What begins a number is not what something else is told by. -/
theorem ne_of_startsNumber (hc : c = '-' ∨ c.isDigit = true) :
    isSpace c = false ∧ c ≠ ']' ∧ c ≠ 'n' ∧ c ≠ 't' ∧ c ≠ 'f' := by
  have hne (x : Char) (hx : ¬ (x = '-' ∨ x.isDigit = true)) : c ≠ x :=
    ne_char_of_startsNumber hc hx
  refine ⟨?_, hne ']' (by decide), hne 'n' (by decide), hne 't' (by decide), hne 'f' (by decide)⟩
  simp [isSpace, hne ' ' (by decide), hne '\n' (by decide), hne '\t' (by decide),
    hne '\r' (by decide)]

/-- A text begins neither with white space nor with what ends an array. -/
theorem Spells.exists_cons (h : Spells v cs) :
    ∃ c rest, cs = c :: rest ∧ isSpace c = false ∧ c ≠ ']' := by
  cases h with
  | null => exact ⟨_, _, rfl, by decide⟩
  | bool b => cases b <;> exact ⟨_, _, rfl, by decide⟩
  | number hn =>
    obtain ⟨c, rest, hcs, hc⟩ := hn.exists_cons
    obtain ⟨hspace, hbracket, -⟩ := ne_of_startsNumber hc
    exact ⟨c, rest, hcs, hspace, hbracket⟩
  | notFinite _ => exact ⟨_, _, rfl, by decide⟩
  | string _ => exact ⟨_, _, rfl, by decide⟩
  | array _ => exact ⟨_, _, rfl, by decide⟩
  | object _ => exact ⟨_, _, rfl, by decide⟩

/-- Values whose text begins with a quote, a bracket or a letter: all but numbers and `null`. -/
def Value.isPlain : Value → Bool
  | .null | .number _ => false
  | _ => true

/-- The text of such a value does not begin as `null` does. -/
theorem Value.chars_eq_cons (h : v.isPlain = true) :
    ∃ c cs, v.chars = c :: cs ∧ isSpace c = false ∧ c ≠ 'n' := by
  cases v with
  | null => cases h
  | number n => cases h
  | bool b => cases b <;> exact ⟨_, _, rfl, by decide⟩
  | string s => exact ⟨_, _, rfl, by decide⟩
  | array items => cases items <;> exact ⟨_, _, rfl, by decide⟩
  | object fields =>
    cases fields with
    | nil => exact ⟨_, _, rfl, by decide⟩
    | cons e fields => exact ⟨_, _, rfl, by decide⟩

/-! ### Rounds -/

theorem nextItem_close (h : Blank gap) (rest : List Char) :
    nextItem first (gap ++ ']' :: rest) = .ok (.done rest) := by
  simp [nextItem, skipSpace_append_cons h (show isSpace ']' = false by decide)]

theorem nextItem_more (h : Separates first separator) (hv : Spells v cs) (rest : List Char) :
    nextItem first (separator ++ (cs ++ rest)) = .ok (.more (cs ++ rest)) := by
  obtain ⟨c, cs, rfl, hspace, hbracket⟩ := hv.exists_cons
  cases h with
  | first h => simp [nextItem, skipSpace_append_cons h hspace, hbracket]
  | comma hbefore hafter =>
    simp [nextItem, skipSpace_append_cons hbefore (show isSpace ',' = false by decide),
      skipSpace_append_cons hafter hspace, hbracket]

theorem nextKey_close (h : Blank gap) (rest : List Char) :
    nextKey first (gap ++ '}' :: rest) = .ok (.done rest) := by
  simp [nextKey, skipSpace_append_cons h (show isSpace '}' = false by decide)]

theorem nextKey_more (h : Separates first separator) (rest : List Char) :
    nextKey first (separator ++ '"' :: rest) = .ok (.more rest) := by
  have hquote : isSpace '"' = false := by decide
  cases h with
  | first h => simp [nextKey, skipSpace_append_cons h hquote]
  | comma hbefore hafter =>
    simp [nextKey, skipSpace_append_cons hbefore (show isSpace ',' = false by decide),
      skipSpace_append_cons hafter hquote]

theorem scanColon_append (h : Blank gap) (rest : List Char) :
    scanColon (gap ++ ':' :: rest) = .ok rest := by
  simp [scanColon, skipSpace_append_cons h (show isSpace ':' = false by decide)]

end

/-! ### Lengths -/

theorem SpellsItems.length_lt {items : List Value} : ∀ {first : Bool} {cs : List Char},
    SpellsItems first items cs → items.length < cs.length := by
  induction items with
  | nil =>
    rintro first _ ⟨h⟩
    simp
  | cons v items ih =>
    rintro first _ (_ | ⟨-, hv, hrest⟩)
    obtain ⟨c, cs, rfl, -⟩ := hv.exists_cons
    have := ih hrest
    simp only [List.length_cons, List.length_append]
    omega

theorem SpellsFields.length_lt {fields : List (String × Value)} : ∀ {first : Bool}
    {cs : List Char}, SpellsFields first fields cs → fields.length < cs.length := by
  induction fields with
  | nil =>
    rintro first _ ⟨h⟩
    simp
  | cons e fields ih =>
    rintro first _ (_ | ⟨-, -, -, -, -, hrest⟩)
    have := ih hrest
    simp only [List.length_cons, List.length_append]
    omega

/-! ## Reading the text of a value -/

namespace Reading
variable {α β σ : Type} {r : Reading α} {d : Nat} {v : Value} {x : α} {items : List Value}
  {xs : List α}

/-- The text of a value is read as `x` if its depth is at most `d`, and is refused otherwise. -/
def ReadsText (r : Reading α) (d : Nat) (v : Value) (x : α) : Prop :=
  ∀ rest, (r.ofText d (v.chars ++ rest)).toOption = if v.depth ≤ d then some (x, rest) else none

theorem ReadsText.map (f : α → β) (h : r.ReadsText d v x) : (r.map f).ReadsText d v (f x) := by
  intro rest
  rw [Reading.map, toOption_map, h]
  split <;> rfl

theorem ReadsText.nullable (h : r.ReadsText d v x) (hplain : v.isPlain = true) :
    r.nullable.ReadsText d v (some x) := by
  intro rest
  obtain ⟨c, cs, hchars, hspace, hletter⟩ := Value.chars_eq_cons hplain
  have hread := h rest
  rw [hchars, List.cons_append] at hread ⊢
  unfold Reading.nullable
  simp only [skipSpace_cons hspace]
  split
  · next heq => exact absurd (List.cons.inj heq).1 hletter
  · rw [toOption_map, hread]
    split <;> rfl

theorem chars_string_append (s : String) (rest : List Char) :
    (Value.string s).chars ++ rest = '"' :: (s.toList.flatMap escapedChar ++ '"' :: rest) := by
  simp [Value.chars, stringChars]

theorem readsText_text (d : Nat) (s : String) : text.ReadsText d (.string s) s := by
  intro rest
  rw [chars_string_append, if_pos (show (Value.string s).depth ≤ d from Nat.zero_le d)]
  simp only [text, converted, skipSpace_cons (show isSpace '"' = false by decide),
    scanString_escaped, ok_bind]
  simp [Except.mapError, bind, Except.bind, pure, Except.pure, Except.toOption]

theorem readsText_any (d : Nat) (s : String) : any.ReadsText d (.string s) (.string s) := by
  intro rest
  rw [chars_string_append, if_pos (show (Value.string s).depth ≤ d from Nat.zero_le d)]
  cases d <;>
    simp [any, scanValue, skipSpace_cons (show isSpace '"' = false by decide), scanString_escaped,
      Except.map, Except.toOption]

theorem readsText_flag (d : Nat) (b : Bool) : flag.ReadsText d (.bool b) b := by
  intro rest
  cases b <;> rfl

/-! ### Lists -/

/-- What lies in two parts lies no deeper than allowed if neither of them does. -/
theorem bind_within {γ δ : Type} {a b : Nat} {y : γ} {z : δ} {f : γ → Option δ}
    (h : f y = if b ≤ d then some z else none) :
    (if a ≤ d then some y else none).bind f = if max a b ≤ d then some z else none := by
  by_cases ha : a ≤ d
  · rw [if_pos ha, Option.bind_some, h]
    simp only [Nat.max_le, ha, true_and]
  · rw [if_neg ha, Option.bind_none, if_neg fun hmax => ha (Nat.max_le.mp hmax).1]

/-- One element and then the others. -/
theorem toOption_scanItemsWithin_cons {first : Bool} {cs rest : List Char} {n : Nat}
    (hcs : nextItem first cs = .ok (.more (v.chars ++ (itemsChars items ++ rest))))
    (hread : r.ReadsText d v x)
    (hrest : (scanItemsWithin (r.ofText d) n false (itemsChars items ++ rest)).toOption =
      if itemsDepth items ≤ d then some (xs, rest) else none) :
    (scanItemsWithin (r.ofText d) (n + 1) first cs).toOption =
      if itemsDepth (v :: items) ≤ d then some (x :: xs, rest) else none := by
  rw [scanItemsWithin, hcs, ok_bind]
  simp only [toOption_bind]
  rw [hread, itemsDepth]
  refine bind_within ?_
  simp only [hrest]
  split <;> rfl

theorem toOption_scanItemsWithin {bound : Nat}
    (h : List.Forall₂ (r.ReadsText d) items xs)
    (hbound : items.length < bound) (rest : List Char) :
    (scanItemsWithin (r.ofText d) bound false (itemsChars items ++ rest)).toOption =
      if itemsDepth items ≤ d then some (xs, rest) else none := by
  induction h generalizing bound with
  | nil =>
    obtain ⟨n, rfl⟩ := Nat.exists_eq_add_one_of_ne_zero (Nat.ne_of_gt hbound)
    rfl
  | @cons w y items xs hw _ ih =>
    obtain ⟨n, rfl⟩ := Nat.exists_eq_add_one_of_ne_zero (Nat.ne_of_gt (Nat.zero_lt_of_lt hbound))
    refine toOption_scanItemsWithin_cons ?_ hw (ih (Nat.lt_of_succ_lt_succ hbound))
    rw [itemsChars, List.cons_append, List.cons_append, List.append_assoc]
    exact nextItem_more (separates_comma blank_nil) (spells_chars w) _

/-- The elements of an array, after its opening bracket. -/
theorem toOption_scanItems
    (h : List.Forall₂ (r.ReadsText d) items xs)
    (rest : List Char) :
    (scanItems (r.ofText d) ((Value.array items).chars.tail ++ rest)).toOption =
      if itemsDepth items ≤ d then some (xs, rest) else none := by
  cases h with
  | nil => rfl
  | @cons w y items xs hw hitems =>
    have hchars : (Value.array (w :: items)).chars.tail ++ rest =
        w.chars ++ (itemsChars items ++ rest) := by
      simp [Value.chars]
    have hbound : items.length < (w.chars ++ (itemsChars items ++ rest)).length := by
      have := (spellsItems_itemsChars items).length_lt
      simp only [List.length_append]
      omega
    rw [hchars]
    have hfirst := nextItem_more (.first blank_nil) (spells_chars w) (itemsChars items ++ rest)
    exact toOption_scanItemsWithin_cons hfirst hw (toOption_scanItemsWithin hitems hbound rest)

/-- The text of an array is read element by element. -/
theorem ReadsText.list (h : ∀ d', d = d' + 1 →
    List.Forall₂ (r.ReadsText d') items xs) :
    (Reading.list r).ReadsText d (.array items) xs := by
  intro rest
  have hchars : (Value.array items).chars = '[' :: (Value.array items).chars.tail := by
    cases items <;> rfl
  rw [hchars]
  cases d with
  | zero => rfl
  | succ d =>
    have hdepth : (Value.array items).depth ≤ d + 1 ↔ itemsDepth items ≤ d :=
      Nat.add_le_add_iff_right
    simp only [hdepth]
    exact toOption_scanItems (h d rfl) rest

/-! ### Records -/

variable {slots : List (Slot σ)} {seen : List String} {s s' start : σ}
  {entries : List (String × Value)} {key : String}

/-- The entries have the names of different slots, and their texts are read by these as changes
that lead from `s` to `s'`. -/
inductive ReadsEntries (slots : List (Slot σ)) (d : Nat) :
    List String → σ → List (String × Value) → σ → Prop where
  | nil {seen : List String} {s : σ} : ReadsEntries slots d seen s [] s
  | cons {seen : List String} {s s' : σ} {key : String} {v : Value}
      {entries : List (String × Value)} {slot : Slot σ} {change : σ → σ}
      (hslot : (slots.find? fun slot => slot.name == key) = some slot) (hseen : key ∉ seen)
      (hread : slot.reading.ReadsText d v change)
      (hentries : ReadsEntries slots d (key :: seen) (change s) entries s') :
      ReadsEntries slots d seen s ((key, v) :: entries) s'

/-- What is read from the values of entries is read from their texts as well, if this holds of
each of them. -/
theorem ReadsEntries.of_fillByName {seen' : List String}
    (hentries : ∀ e ∈ entries, ∃ slot change,
      (slots.find? fun slot => slot.name == e.1) = some slot ∧
      slot.reading.ofValue e.2 = .ok change ∧ slot.reading.ReadsText d e.2 change)
    (h : fillByName slots entries seen s = .ok (s', seen')) :
    ReadsEntries slots d seen s entries s' := by
  induction entries generalizing seen s with
  | nil =>
    cases h
    exact .nil
  | cons e entries ih =>
    obtain ⟨key, v⟩ := e
    obtain ⟨⟨slot, change, hslot, hchange, hread⟩, hentries⟩ := List.forall_mem_cons.mp hentries
    simp only at hslot hchange hread
    simp only [fillByName, hslot, hchange, ok_bind] at h
    split at h
    · cases h
    · next hnew =>
      have hseen : key ∉ seen := fun hmem => hnew (List.contains_iff_mem.mpr hmem)
      exact .cons hslot hseen hread (ih hentries h)

theorem toOption_scanField {slot : Slot σ} {change : σ → σ}
    (hslot : (slots.find? fun slot => slot.name == key) = some slot) (hseen : key ∉ seen)
    (hread : slot.reading.ReadsText d v change) (rest : List Char) :
    (scanField slots d (s, seen) key (':' :: (v.chars ++ rest))).toOption =
      if v.depth ≤ d then some ((change s, key :: seen), rest) else none := by
  have hnew : ¬ seen.contains key = true := fun h => hseen (List.contains_iff_mem.mp h)
  have hcolon : scanColon (':' :: (v.chars ++ rest)) = .ok (v.chars ++ rest) :=
    scanColon_append blank_nil _
  simp only [scanField, hslot, if_neg hnew, hcolon, ok_bind, toOption_bind]
  rw [hread]
  split <;> rfl

/-- One entry and then the others. -/
theorem toOption_scanEntriesWithin_cons {slot : Slot σ} {change : σ → σ} {first : Bool} {n : Nat}
    {cs rest : List Char}
    (hcs : nextKey first cs = .ok (.more (key.toList.flatMap escapedChar ++ '"' :: ':' ::
      (v.chars ++ (fieldsChars entries ++ rest)))))
    (hslot : (slots.find? fun slot => slot.name == key) = some slot) (hseen : key ∉ seen)
    (hread : slot.reading.ReadsText d v change)
    (hrest : ((scanEntriesWithin (scanField slots d) n false (change s, key :: seen)
        (fieldsChars entries ++ rest)).toOption.map fun r => (r.1.1, r.2)) =
      if fieldsDepth entries ≤ d then some (s', rest) else none) :
    ((scanEntriesWithin (scanField slots d) (n + 1) first (s, seen) cs).toOption.map
      fun r => (r.1.1, r.2)) =
      if fieldsDepth ((key, v) :: entries) ≤ d then some (s', rest) else none := by
  rw [scanEntriesWithin, hcs, ok_bind]
  simp only [scanString_escaped, ok_bind, String.ofList_toList, toOption_bind]
  rw [toOption_scanField hslot hseen hread, fieldsDepth, Option.map_bind]
  exact bind_within hrest

theorem toOption_scanEntriesWithin {bound : Nat} (h : ReadsEntries slots d seen s entries s')
    (hbound : entries.length < bound) (rest : List Char) :
    ((scanEntriesWithin (scanField slots d) bound false (s, seen)
      (fieldsChars entries ++ rest)).toOption.map fun r => (r.1.1, r.2)) =
      if fieldsDepth entries ≤ d then some (s', rest) else none := by
  induction h generalizing bound with
  | nil =>
    obtain ⟨n, rfl⟩ := Nat.exists_eq_add_one_of_ne_zero (Nat.ne_of_gt hbound)
    rfl
  | cons hslot hseen hread _ ih =>
    obtain ⟨n, rfl⟩ := Nat.exists_eq_add_one_of_ne_zero (Nat.ne_of_gt (Nat.zero_lt_of_lt hbound))
    refine toOption_scanEntriesWithin_cons ?_ hslot hseen hread
      (ih (Nat.lt_of_succ_lt_succ hbound))
    simp only [fieldsChars, stringChars, List.cons_append, List.append_assoc]
    exact nextKey_more (separates_comma blank_nil) _

/-- The entries of an object, after its opening brace. -/
theorem toOption_scanEntries (h : ReadsEntries slots d [] start entries s) (rest : List Char) :
    ((scanEntries (scanField slots d) (start, [])
      ((Value.object entries).chars.tail ++ rest)).toOption.map fun r => (r.1.1, r.2)) =
      if fieldsDepth entries ≤ d then some (s, rest) else none := by
  cases h with
  | nil => rfl
  | @cons _ _ _ key v entries _ _ hslot hseen hread hentries =>
    have hchars : (Value.object ((key, v) :: entries)).chars.tail ++ rest =
        '"' :: (key.toList.flatMap escapedChar ++ '"' :: ':' ::
          (v.chars ++ (fieldsChars entries ++ rest))) := by
      simp [Value.chars, stringChars]
    rw [hchars]
    refine toOption_scanEntriesWithin_cons (nextKey_more (.first blank_nil) _) hslot hseen hread
      (toOption_scanEntriesWithin hentries ?_ rest)
    have := (spellsFields_fieldsChars entries).length_lt
    simp only [List.length_append, List.length_cons]
    omega

/-- **The text of an object is read entry by entry**, if none of the slots has to be given. -/
theorem ReadsText.record {name : String} (hoptional : ∀ slot ∈ slots, slot.required = false)
    (h : ∀ d', d = d' + 1 → ReadsEntries slots d' [] start entries s) :
    (Reading.record name slots start).ReadsText d (.object entries) s := by
  intro rest
  have hchars : (Value.object entries).chars = '{' :: (Value.object entries).chars.tail := by
    cases entries <;> rfl
  rw [hchars]
  cases d with
  | zero => rfl
  | succ d =>
    have hdepth : (Value.object entries).depth ≤ d + 1 ↔ fieldsDepth entries ≤ d :=
      Nat.add_le_add_iff_right
    have hmissing (seen : List String) : missing? slots seen = none :=
      missing?_eq_none_iff.mpr fun slot hmem h => by simp [hoptional slot hmem] at h
    simp only [hdepth]
    rw [← toOption_scanEntries (h d rfl) rest]
    simp only [Reading.record, List.cons_append,
      skipSpace_cons (show isSpace '{' = false by decide),
      Char.reduceEq, ↓reduceIte, toOption_bind, hmissing]
    cases scanEntries (scanField slots d) (start, []) ((Value.object entries).chars.tail ++ rest)
    · rfl
    · rfl

/-! ### Whole documents -/

/-- **A document is read from its text**, or refused if it nests too deep. -/
theorem ReadsText.parse (h : r.ReadsText depthLimit v x) :
    (r.parse v.compact).toOption = if v.depth ≤ depthLimit then some x else none := by
  have hread := h []
  rw [List.append_nil] at hread
  unfold Reading.parse Value.compact
  rw [String.toList_ofList, toOption_mapError, toEnd, toOption_bind, hread]
  split <;> rfl

end Reading

end IntentSelect.Json
