import IntentSelect.Proofs.OrderedValues
import IntentSelect.Proofs.WrittenTexts

/-! # Reading the texts of values

Every text of a value in which no number is a double is read as that value, its objects as maps in
ascending order of their keys, if it lies within the depth that is allowed
(`Spells.scanValue_eq`).  So no text is a text of two such values, and printing loses nothing
(`compact_inj`).  Of doubles nothing is said: what their texts are read as is a matter of
floating-point arithmetic.
-/
namespace IntentSelect.Json

open Reading

/-! ## Values without doubles -/

mutual
/-- True if no number in the value is a double. -/
def Value.isFloatFree (v : Value) : Bool :=
  match v with
  | .number (.float _) => false
  | .array items => itemsFloatFree items
  | .object fields => fieldsFloatFree fields
  | _ => true
termination_by structural v

/-- True if no number in the values is a double. -/
def itemsFloatFree (items : List Value) : Bool :=
  match items with
  | [] => true
  | v :: items => v.isFloatFree && itemsFloatFree items
termination_by structural items

/-- True if no number in the values of the fields is a double. -/
def fieldsFloatFree (fields : List (String × Value)) : Bool :=
  match fields with
  | [] => true
  | (_, v) :: fields => v.isFloatFree && fieldsFloatFree fields
termination_by structural fields
end

theorem itemsFloatFree_eq (items : List Value) :
    itemsFloatFree items = items.all Value.isFloatFree := by
  induction items with
  | nil => rfl
  | cons v items ih => rw [itemsFloatFree, ih, List.all_cons]

theorem fieldsFloatFree_eq (fields : List (String × Value)) :
    fieldsFloatFree fields = fields.all fun e => e.2.isFloatFree := by
  induction fields with
  | nil => rfl
  | cons e fields ih => rw [fieldsFloatFree, ih, List.all_cons]

/-! ## What ends a number -/

section
variable {c : Char} {gap separator cs rest : List Char} {d : Nat}

theorem endsNumber_of_isSpace (h : isSpace c = true) :
    c.isDigit = false ∧ c ≠ '.' ∧ isExponentMark c = false := by
  have hspace : c = ' ' ∨ c = '\n' ∨ c = '\t' ∨ c = '\r' := by simpa [isSpace, or_assoc] using h
  rcases hspace with rfl | rfl | rfl | rfl <;> decide

/-- What stands after a value in an array, an object or a document ends a number. -/
theorem endsNumber_append (h : Blank gap) (hrest : EndsNumber rest) : EndsNumber (gap ++ rest) := by
  cases gap with
  | nil => exact hrest
  | cons c gap =>
    rintro _ ⟨⟩
    exact endsNumber_of_isSpace (h c List.mem_cons_self)

theorem endsNumber_cons (hc : c = ',' ∨ c = ']' ∨ c = '}') : EndsNumber (c :: rest) := by
  rintro _ ⟨⟩
  rcases hc with rfl | rfl | rfl <;> decide

theorem Separates.endsNumber (h : Separates false separator) (rest : List Char) :
    EndsNumber (separator ++ rest) := by
  cases h with
  | comma hbefore hafter =>
    rw [List.append_assoc]
    exact endsNumber_append hbefore (endsNumber_cons (.inl rfl))

theorem SpellsItems.endsNumber {items : List Value} (h : SpellsItems false items cs)
    (rest : List Char) : EndsNumber (cs ++ rest) := by
  cases h with
  | close h =>
    rw [List.append_assoc]
    exact endsNumber_append h (endsNumber_cons (.inr (.inl rfl)))
  | more hseparator _ _ =>
    rw [List.append_assoc, List.append_assoc]
    exact hseparator.endsNumber _

theorem SpellsFields.endsNumber {fields : List (String × Value)}
    (h : SpellsFields false fields cs) (rest : List Char) : EndsNumber (cs ++ rest) := by
  cases h with
  | close h =>
    rw [List.append_assoc]
    exact endsNumber_append h (endsNumber_cons (.inr (.inr rfl)))
  | more hseparator _ _ _ _ _ =>
    simp only [List.append_assoc]
    exact hseparator.endsNumber _

/-! ## Values after white space -/

theorem scanValue_append (h : Blank gap) (cs : List Char) :
    scanValue d (gap ++ cs) = scanValue d cs := by
  rw [scanValue.eq_def, scanValue.eq_def, skipSpace_append h]

theorem scanValue_number (hc : c = '-' ∨ c.isDigit = true) (cs : List Char) :
    scanValue d (c :: cs) = (scanNumber (c :: cs)).map fun p => (.number p.1, p.2) := by
  obtain ⟨hspace, -, hn, ht, hf⟩ := ne_of_startsNumber hc
  rw [scanValue.eq_def]
  simp [skipSpace_cons hspace, hn, ht, hf, hc]

theorem scanValue_quote (cs : List Char) :
    scanValue d ('"' :: cs) = (scanString cs).map fun p => (.string (String.ofList p.1), p.2) := by
  rw [scanValue.eq_def]
  rfl

theorem scanValue_bracket (cs : List Char) :
    scanValue (d + 1) ('[' :: cs) =
      (scanItems (scanValue d) cs).map fun p => (.array p.1, p.2) := by
  rw [scanValue.eq_def]
  rfl

theorem scanValue_brace (cs : List Char) :
    scanValue (d + 1) ('{' :: cs) =
      (scanEntries (scanPut d) [] cs).map fun p => (.object p.1, p.2) := by
  rw [scanValue.eq_def]
  rfl

end

/-! ## Reading back -/

mutual
/-- **Every text of a value without doubles is read as that value**, whatever comes after it that
does not go on with a number, if it nests no deeper than allowed. -/
theorem Spells.scanValue_eq {v : Value} {cs rest : List Char} {d : Nat} (h : Spells v cs)
    (hfloat : v.isFloatFree = true) (hdepth : v.depth ≤ d) (hrest : EndsNumber rest) :
    scanValue d (cs ++ rest) = .ok (v.canonical, rest) := by
  cases h with
  | null => rw [scanValue.eq_def]; rfl
  | bool b =>
    rw [scanValue.eq_def]
    cases b <;> rfl
  | @number n hn =>
    cases n with
    | float bits => cases hfloat
    | whole w =>
      obtain ⟨c, cs, hcs, hc⟩ := hn.exists_cons
      have hread := scanNumber_wholeChars w hrest
      rw [Number.chars] at hcs ⊢
      rw [hcs, List.cons_append] at hread ⊢
      rw [scanValue_number hc, hread]
      rfl
  | notFinite _ => cases hfloat
  | @string s cs hs =>
    have happend : '"' :: cs ++ ['"'] ++ rest = '"' :: (cs ++ '"' :: rest) := by simp
    rw [happend, scanValue_quote, scanString_spellsText hs]
    simp [Except.map, Value.canonical]
  | @array items cs hitems =>
    obtain ⟨d, rfl⟩ : ∃ d', d = d' + 1 := ⟨d - 1, by simp only [Value.depth] at hdepth; omega⟩
    rw [List.cons_append, scanValue_bracket, scanItems,
      hitems.scanItemsWithin_eq hfloat (Nat.le_of_succ_le_succ hdepth) ?_]
    · rfl
    · have := hitems.length_lt
      simp only [List.length_append]
      omega
  | @object fields cs hfields =>
    obtain ⟨d, rfl⟩ : ∃ d', d = d' + 1 := ⟨d - 1, by simp only [Value.depth] at hdepth; omega⟩
    rw [List.cons_append, scanValue_brace, scanEntries,
      hfields.scanEntriesWithin_eq hfloat (Nat.le_of_succ_le_succ hdepth) ?_]
    · rfl
    · have := hfields.length_lt
      simp only [List.length_append]
      omega

theorem SpellsItems.scanItemsWithin_eq {first : Bool} {items : List Value} {cs rest : List Char}
    {d bound : Nat} (h : SpellsItems first items cs) (hfloat : itemsFloatFree items = true)
    (hdepth : itemsDepth items ≤ d) (hbound : items.length < bound) :
    scanItemsWithin (scanValue d) bound first (cs ++ rest) = .ok (canonicalItems items, rest) := by
  obtain ⟨n, rfl⟩ : ∃ n, bound = n + 1 := ⟨bound - 1, by omega⟩
  cases h with
  | close h =>
    rw [List.append_assoc, List.singleton_append, scanItemsWithin, nextItem_close h]
    rfl
  | more hseparator hv hrest =>
    obtain ⟨hfloat, hfloats⟩ := Bool.and_eq_true_iff.mp hfloat
    obtain ⟨hdepth, hdepths⟩ := Nat.max_le.mp hdepth
    rw [List.append_assoc, List.append_assoc, scanItemsWithin, nextItem_more hseparator hv, ok_bind]
    simp only [hv.scanValue_eq hfloat hdepth (hrest.endsNumber rest), ok_bind,
      hrest.scanItemsWithin_eq hfloats hdepths (Nat.lt_of_succ_lt_succ hbound)]
    rfl

theorem SpellsFields.scanEntriesWithin_eq {first : Bool} {fields acc : List (String × Value)}
    {cs rest : List Char} {d bound : Nat} (h : SpellsFields first fields cs)
    (hfloat : fieldsFloatFree fields = true) (hdepth : fieldsDepth fields ≤ d)
    (hbound : fields.length < bound) :
    scanEntriesWithin (scanPut d) bound first acc (cs ++ rest) =
      .ok (Fields.putAll (canonicalFields fields) acc, rest) := by
  obtain ⟨n, rfl⟩ : ∃ n, bound = n + 1 := ⟨bound - 1, by omega⟩
  cases h with
  | close h =>
    rw [List.append_assoc, List.singleton_append, scanEntriesWithin, nextKey_close h]
    rfl
  | @more _ key v fields separator ks before after cs more hseparator hkey hbefore hafter hv
      hrest =>
    obtain ⟨hfloat, hfloats⟩ := Bool.and_eq_true_iff.mp hfloat
    obtain ⟨hdepth, hdepths⟩ := Nat.max_le.mp hdepth
    have happend : separator ++ '"' :: ks ++ '"' :: before ++ ':' :: after ++ cs ++ more ++ rest =
        separator ++ '"' ::
          (ks ++ '"' :: (before ++ ':' :: (after ++ (cs ++ (more ++ rest))))) := by
      simp
    rw [happend, scanEntriesWithin, nextKey_more hseparator, ok_bind]
    simp only [scanString_spellsText hkey, ok_bind, scanPut, scanColon_append hbefore,
      scanValue_append hafter, hv.scanValue_eq hfloat hdepth (hrest.endsNumber rest),
      String.ofList_toList]
    exact hrest.scanEntriesWithin_eq hfloats hdepths (Nat.lt_of_succ_lt_succ hbound)
end

/-! ## Whole texts -/

section
variable {v w : Value} {text : String} {cs : List Char}

/-- **A document is read as the value whose text it is**, if that has no doubles and nests no deeper
than a document may. -/
theorem IsDocument.parse (h : IsDocument v text) (hfloat : v.isFloatFree = true)
    (hdepth : v.depth ≤ depthLimit) : Value.parse text = .ok v.canonical := by
  obtain ⟨before, cs, after, hbefore, hv, hafter, htext⟩ := h
  have hends : EndsNumber after := by
    have happend := endsNumber_append hafter endsNumber_nil
    rwa [List.append_nil] at happend
  have hread : scanValue depthLimit text.toList = .ok (v.canonical, after) := by
    rw [htext, List.append_assoc, scanValue_append hbefore, hv.scanValue_eq hfloat hdepth hends]
  refine mapError_eq_ok_iff.mpr (toEnd_eq_ok_iff.mpr ⟨after, hread, ?_⟩)
  have hskip := skipSpace_append hafter []
  rwa [List.append_nil] at hskip

/-- No text is a text of two values. -/
theorem Spells.canonical_eq (hv : Spells v cs) (hw : Spells w cs) (hvfloat : v.isFloatFree = true)
    (hwfloat : w.isFloatFree = true) : v.canonical = w.canonical := by
  have hfirst := hv.scanValue_eq hvfloat (Nat.le_max_left v.depth w.depth) endsNumber_nil
  have hsecond := hw.scanValue_eq hwfloat (Nat.le_max_right v.depth w.depth) endsNumber_nil
  rw [hfirst] at hsecond
  exact (Prod.mk.inj (Except.ok.inj hsecond)).1

/-- **Printing without white space is injective** on values whose objects are maps. -/
theorem compact_inj (hv : v.Ordered) (hw : w.Ordered) (hvfloat : v.isFloatFree = true)
    (hwfloat : w.isFloatFree = true) : v.compact = w.compact ↔ v = w := by
  refine ⟨fun h => ?_, fun h => h ▸ rfl⟩
  have hchars : v.chars = w.chars := by
    have htext := congrArg String.toList h
    rwa [Value.compact, Value.compact, String.toList_ofList, String.toList_ofList] at htext
  have hsame := (spells_chars v).canonical_eq (hchars ▸ spells_chars w) hvfloat hwfloat
  rwa [hv, hw] at hsame

end

end IntentSelect.Json
