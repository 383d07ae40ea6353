import IntentSelect.Proofs.RecordAcceptance
import IntentSelect.Proofs.SkippedValues
import Mathlib.Data.List.Basic
import Mathlib.Data.List.Pairwise

/-! # Reading without a value in between

A reading reads alike if in every text that repeats no key it reads directly what it reads from the
value of the text, and takes as much of the text (`Reading.ReadsAlike`).  Which refusal it gives is
left open.  Each way of putting readings together keeps this, so there is one lemma for each.

The direct way is followed along the text as it is written.  An array is then read element by
element on both ways.  A record is read field by field, but from the text as the fields stand and
from the value in the order of their keys; what one field does commutes with what another does
(`FillStep.comm`), so the order makes no difference (`ofValue_record_perm`).
-/
namespace IntentSelect.Json.Reading
variable {α β σ : Type} {r : Reading α} {cs more rest : List Char} {d bound : Nat} {first : Bool}
  {slots : List (Slot σ)} {s s₁ start : σ} {name : String} {options : List (String × α)}

/-! ## Fields in another order -/

section Order
variable {entries entries' : List (String × Value)} {seen seen' seen₁ seen₂ : List String}
  {change change' : σ → σ} {e e' : String × Value}

/-- What one field of an object does: a key that no slot has is passed over, any other comes for the
first time and is seen from then on. -/
inductive FillStep (slots : List (Slot σ)) (seen : List String) :
    String × Value → (σ → σ) → List String → Prop where
  | unknown {e : String × Value} (hslot : (slots.find? fun slot => slot.name == e.1) = none) :
    FillStep slots seen e id seen
  | known {e : String × Value} {slot : Slot σ} {change : σ → σ}
    (hslot : (slots.find? fun slot => slot.name == e.1) = some slot) (hnew : e.1 ∉ seen)
    (hchange : slot.reading.ofValue e.2 = .ok change) : FillStep slots seen e change (e.1 :: seen)

theorem fillByName_cons_eq_ok_iff :
    fillByName slots (e :: entries) seen s = .ok (s₁, seen₁) ↔
      ∃ change seen', FillStep slots seen e change seen' ∧
        fillByName slots entries seen' (change s) = .ok (s₁, seen₁) := by
  obtain ⟨key, v⟩ := e
  rw [fillByName]
  constructor
  · intro h
    split at h
    · next hslot => exact ⟨id, seen, .unknown hslot, h⟩
    · next slot hslot =>
      split at h
      · cases h
      · next hseen =>
        obtain ⟨change, hchange, h⟩ := bind_eq_ok_iff.mp h
        have hnew : key ∉ seen := fun hmem => hseen (List.contains_iff_mem.mpr hmem)
        exact ⟨change, key :: seen, .known hslot hnew hchange, h⟩
  · rintro ⟨change, seen', hstep, h⟩
    cases hstep with
    | unknown hslot => rwa [hslot]
    | known hslot hnew hchange => simp [hslot, hnew, hchange, ok_bind, h]

/-- The order in which keys have been seen does not matter. -/
theorem FillStep.perm (hstep : FillStep slots seen e change seen₁) (hseen : seen.Perm seen') :
    ∃ seen₂, FillStep slots seen' e change seen₂ ∧ seen₁.Perm seen₂ := by
  cases hstep with
  | unknown hslot => exact ⟨seen', .unknown hslot, hseen⟩
  | known hslot hnew hchange =>
    refine ⟨e.1 :: seen', .known hslot ?_ hchange, hseen.cons e.1⟩
    rwa [← hseen.mem_iff]

instance : Std.Symm (@Slot.Independent σ) where
  symm _ _ h :=
    ⟨h.ne.symm, fun v w _ _ hchange hchange' s => (h.comm w v _ _ hchange' hchange s).symm⟩

/-- Two fields may change places. -/
theorem FillStep.comm (hslots : slots.Pairwise Slot.Independent)
    (hstep : FillStep slots seen e change seen₁) (hstep' : FillStep slots seen₁ e' change' seen₂) :
    ∃ seen₁' seen₂', FillStep slots seen e' change' seen₁' ∧ FillStep slots seen₁' e change seen₂' ∧
      seen₂.Perm seen₂' ∧ ∀ s, change (change' s) = change' (change s) := by
  cases hstep with
  | unknown hslot => exact ⟨seen₂, seen₂, hstep', .unknown hslot, .refl seen₂, fun _ => rfl⟩
  | @known slot _ hslot hnew hchange =>
    cases hstep' with
    | unknown hslot' =>
      exact ⟨seen, e.1 :: seen, .unknown hslot', .known hslot hnew hchange, .refl _, fun _ => rfl⟩
    | @known slot' _ hslot' hnew' hchange' =>
      rw [List.mem_cons, not_or] at hnew'
      obtain ⟨hmem, hname⟩ := find?_eq_some hslot
      obtain ⟨hmem', hname'⟩ := find?_eq_some hslot'
      have hne : slot ≠ slot' := by
        rintro rfl
        exact hnew'.1 (hname'.symm.trans hname)
      have hindependent : slot.Independent slot' := hslots.forall hmem hmem' hne
      have hnew : e.1 ∉ e'.1 :: seen := by
        rw [List.mem_cons, not_or]
        exact ⟨fun h => hnew'.1 h.symm, hnew⟩
      exact ⟨e'.1 :: seen, e.1 :: e'.1 :: seen, .known hslot' hnew'.2 hchange',
        .known hslot hnew hchange, .swap .., hindependent.comm _ _ _ _ hchange hchange'⟩

theorem fillByName_perm (hslots : slots.Pairwise Slot.Independent) (h : entries.Perm entries')
    (hseen : seen.Perm seen') (hfill : fillByName slots entries seen s = .ok (s₁, seen₁)) :
    ∃ seen₂, fillByName slots entries' seen' s = .ok (s₁, seen₂) ∧ seen₁.Perm seen₂ := by
  induction h using List.Perm.recOnSwap' generalizing seen seen' s seen₁ with
  | nil =>
    cases hfill
    exact ⟨seen', rfl, hseen⟩
  | cons e _ ih =>
    obtain ⟨change, _, hstep, hrest⟩ := fillByName_cons_eq_ok_iff.mp hfill
    obtain ⟨_, hstep, hseen⟩ := hstep.perm hseen
    obtain ⟨seen₂, hrest, hperm⟩ := ih hseen hrest
    exact ⟨seen₂, fillByName_cons_eq_ok_iff.mpr ⟨change, _, hstep, hrest⟩, hperm⟩
  | swap' e e' _ ih =>
    obtain ⟨change', _, hstep', hrest⟩ := fillByName_cons_eq_ok_iff.mp hfill
    obtain ⟨change, _, hstep, hrest⟩ := fillByName_cons_eq_ok_iff.mp hrest
    obtain ⟨_, _, hstep, hstep', hperm, hcomm⟩ := hstep'.comm hslots hstep
    obtain ⟨_, hstep, hseen⟩ := hstep.perm hseen
    obtain ⟨_, hstep', hseen⟩ := hstep'.perm hseen
    rw [← hcomm] at hrest
    obtain ⟨seen₂, hrest, hperm⟩ := ih (hperm.trans hseen) hrest
    refine ⟨seen₂, fillByName_cons_eq_ok_iff.mpr ⟨change, _, hstep, ?_⟩, hperm⟩
    exact fillByName_cons_eq_ok_iff.mpr ⟨change', _, hstep', hrest⟩
  | trans _ _ ih ih' =>
    obtain ⟨seen₂, hfill, hperm⟩ := ih hseen hfill
    obtain ⟨seen₃, hfill, hperm'⟩ := ih' (.refl _) hfill
    exact ⟨seen₃, hfill, hperm.trans hperm'⟩

/-- **The order of the fields does not matter**, whatever they are: if a record is refused in one
order, it is in all. -/
theorem ofValue_record_perm (hslots : slots.Pairwise Slot.Independent)
    (h : entries.Perm entries') : ((record name slots start).ofValue (.object entries)).toOption =
      ((record name slots start).ofValue (.object entries')).toOption := by
  have hmoved {entries entries' : List (String × Value)} {s : σ} (h : entries.Perm entries')
      (hread : (record name slots start).ofValue (.object entries) = .ok s) :
      (record name slots start).ofValue (.object entries') = .ok s := by
    obtain ⟨seen, hfill, hmissing⟩ := ofValue_object_eq_ok_iff.mp hread
    obtain ⟨seen', hfill', hseen⟩ := fillByName_perm hslots h (.refl _) hfill
    refine ofValue_object_eq_ok_iff.mpr ⟨seen', hfill', missing?_eq_none_iff.mpr ?_⟩
    intro slot hslot hrequired
    rw [← hseen.mem_iff]
    exact missing?_eq_none_iff.mp hmissing slot hslot hrequired
  exact toOption_eq_toOption_iff.mpr fun s => ⟨hmoved h, hmoved h.symm⟩

end Order

/-! ## Reading alike -/

/-- From a text that repeats no key the same is read directly as from its value, or nothing on
either way. -/
def ReadsAlike (r : Reading α) : Prop :=
  ∀ ⦃d cs w rest⦄, scanWritten d cs = .ok (w, rest) → w.hasDistinctKeys = true →
    (r.ofText d cs).toOption = (r.ofValue w.canonical).toOption.map fun x => (x, rest)

theorem ReadsAlike.map (h : r.ReadsAlike) (f : α → β) : (r.map f).ReadsAlike := by
  intro d cs w rest hscan hkeys
  simp only [Reading.map, toOption_map, h hscan hkeys, Option.map_map]
  rfl

theorem readsAlike_any : any.ReadsAlike := by
  intro d cs w rest hscan _
  exact congrArg Except.toOption (scanValue_of_scanWritten hscan)

/-! ### Single values

Each looks at the first character after white space.  If that is not what it waits for, it refuses
the text, and then the value is of another kind.
-/

theorem readsAlike_converted (expected : String) (convert : String → Except Cause α) :
    (converted expected convert).ReadsAlike := by
  intro d cs w rest hscan _
  have hform := form_of_scanWritten hscan
  unfold converted
  simp only
  generalize skipSpace cs = cs' at hform
  cases hform with
  | string hstring =>
    simp only [hstring, ok_bind, Value.canonical]
    cases convert _ <;> rfl
  | number hc _ =>
    split
    · next heq => cases heq; simp at hc
    · rfl
  | null _ => rfl
  | yes _ => rfl
  | no _ => rfl
  | array _ => rfl
  | object _ => rfl

theorem readsAlike_text : text.ReadsAlike := readsAlike_converted "a string" .ok

theorem readsAlike_flag : flag.ReadsAlike := by
  intro d cs w rest hscan _
  have hform := form_of_scanWritten hscan
  unfold flag
  simp only
  generalize skipSpace cs = cs' at hform
  cases hform with
  | yes hword => simp only [hword, Value.canonical]; rfl
  | no hword => simp only [hword, Value.canonical]; rfl
  | number hc _ =>
    split
    · next heq => cases heq; simp at hc
    · next heq => cases heq; simp at hc
    · rfl
  | null _ => rfl
  | string _ => rfl
  | array _ => rfl
  | object _ => rfl

theorem readsAlike_integer (expected : String) (lower upper : Int) :
    (integer expected lower upper).ReadsAlike := by
  intro d cs w rest hscan _
  have hform := form_of_scanWritten hscan
  unfold integer
  simp only
  generalize skipSpace cs = cs' at hform
  cases hform with
  | number hc hnumber =>
    simp only [if_pos hc, hnumber, ok_bind, Value.canonical]
    cases boundedInt expected lower upper _ <;> rfl
  | null _ => rfl
  | yes _ => rfl
  | no _ => rfl
  | string _ => rfl
  | array _ => rfl
  | object _ => rfl

theorem readsAlike_unit : unit.ReadsAlike := by
  intro d cs w rest hscan _
  have hform := form_of_scanWritten hscan
  unfold unit
  simp only
  generalize skipSpace cs = cs' at hform
  cases hform with
  | null hword => simp only [hword, Value.canonical]; rfl
  | number hc _ =>
    split
    · next heq => cases heq; simp at hc
    · rfl
  | yes _ => rfl
  | no _ => rfl
  | string _ => rfl
  | array _ => rfl
  | object _ => rfl

/-! ### Lists, tables and optional parts -/

theorem ReadsAlike.nullable (h : r.ReadsAlike) : r.nullable.ReadsAlike := by
  intro d cs w rest hscan hkeys
  have hform := form_of_scanWritten hscan
  have hsome : ((r.ofText d (skipSpace cs)).map fun p => (some p.1, p.2)).toOption =
      ((r.ofValue w.canonical).map some).toOption.map fun x => (x, rest) := by
    simp only [toOption_map, h ((scanWritten_skipSpace d cs).trans hscan) hkeys, Option.map_map]
    rfl
  unfold Reading.nullable
  simp only
  generalize skipSpace cs = cs' at hform hsome
  cases hform with
  | null hword => simp only [hword, Value.canonical]; rfl
  | number hc _ =>
    split
    · next heq => cases heq; simp at hc
    · exact hsome
  | yes _ => exact hsome
  | no _ => exact hsome
  | string _ => exact hsome
  | array _ => exact hsome
  | object _ => exact hsome

/-- An array is read element by element. -/
theorem toOption_scanItemsWithin_ofText {items : List Value} (hread : r.ReadsAlike)
    (h : scanItemsWithin (scanWritten d) bound first cs = .ok (items, rest))
    (hkeys : itemsDistinctKeys items = true) :
    (scanItemsWithin (r.ofText d) bound first cs).toOption =
      ((canonicalItems items).mapM r.ofValue).toOption.map fun xs => (xs, rest) := by
  induction bound generalizing first cs items with
  | zero => cases h
  | succ bound ih =>
    cases itemsForm_of_scanItemsWithin h with
    | done hnext =>
      rw [scanItemsWithin, hnext]
      rfl
    | @more before after _ v items hnext hv hrest =>
      rw [itemsDistinctKeys, Bool.and_eq_true] at hkeys
      rw [scanItemsWithin, hnext, ok_bind, canonicalItems, List.mapM_cons]
      simp only [toOption_bind, hread hv hkeys.1]
      cases (r.ofValue v.canonical).toOption with
      | none => rfl
      | some x =>
        simp only [Option.map_some, Option.bind_some, ih hrest hkeys.2]
        cases ((canonicalItems items).mapM r.ofValue).toOption <;> rfl

theorem ReadsAlike.list (h : r.ReadsAlike) : (Reading.list r).ReadsAlike := by
  intro d cs w rest hscan hkeys
  have hform := form_of_scanWritten hscan
  unfold Reading.list
  simp only
  generalize skipSpace cs = cs' at hform
  cases hform with
  | array hitems => exact toOption_scanItemsWithin_ofText h hitems hkeys
  | number hc _ =>
    split
    · next heq => cases heq; simp at hc
    · rfl
  | null _ => rfl
  | yes _ => rfl
  | no _ => rfl
  | string _ => rfl
  | object _ => rfl

theorem readsAlike_table : table.ReadsAlike := by
  intro d cs w rest hscan _
  have hform := form_of_scanWritten hscan
  unfold table
  simp only
  generalize skipSpace cs = cs' at hform
  cases hform with
  | @object d more _ _ hfields =>
    change (scanEntries (scanPut d) [] more).toOption = _
    rw [scanEntries_scanPut (scanValue_eq d), hfields]
    rfl
  | number hc _ =>
    split
    · next heq => cases heq; simp at hc
    · rfl
  | null _ => rfl
  | yes _ => rfl
  | no _ => rfl
  | string _ => rfl
  | array _ => rfl

/-! ### Choices -/

theorem skipSpace_of_nextKey_done (h : nextKey first cs = .ok (.done rest)) :
    skipSpace cs = '}' :: rest := by
  obtain ⟨gap, hgap, rfl⟩ := finds_of_nextKey h
  exact skipSpace_append_cons hgap (by decide) rest

theorem skipSpace_of_nextKey_first (h : nextKey true cs = .ok (.more rest)) :
    skipSpace cs = '"' :: rest := by
  obtain ⟨_, hseparator, rfl⟩ := finds_of_nextKey h
  cases hseparator with
  | first hgap =>
    rw [List.append_assoc]
    exact skipSpace_append_cons hgap (by decide) rest

theorem exists_comma_of_nextKey (h : nextKey false cs = .ok (.more rest)) :
    ∃ more, skipSpace cs = ',' :: more := by
  obtain ⟨_, hseparator, rfl⟩ := finds_of_nextKey h
  cases hseparator with
  | comma hgap _ =>
    rw [List.append_assoc, List.append_assoc, List.cons_append]
    exact ⟨_, skipSpace_append_cons hgap (show isSpace ',' = false by decide) _⟩

theorem ofText_converted_quote (expected : String) (convert : String → Except Cause α) (d : Nat)
    {key : List Char} (h : scanString cs = .ok (key, rest)) :
    (converted expected convert).ofText d ('"' :: cs) =
      ((convert (String.ofList key)).mapError fun cause => .here cause rest).map (·, rest) := by
  simp only [converted, skipSpace_cons (show isSpace '"' = false by decide), h, ok_bind]
  cases convert (String.ofList key) <;> rfl

/-- After the key of an object, which is the name of an option, `null` has to come, and then the end
of the object. -/
theorem toOption_ofText_choice {before key colon value : List Char}
    (hcs : skipSpace cs = '{' :: more) (hnext : nextKey true more = .ok (.more before))
    (hkey : scanString before = .ok (key, colon)) (hcolon : scanColon colon = .ok value) :
    ((choice options).ofText (d + 1) cs).toOption =
      (optionNamed options (String.ofList key)).toOption.bind fun x =>
        (unit.ofText d value).toOption.bind fun p =>
          if (skipSpace p.2).head? = some '}' then some (x, (skipSpace p.2).tail) else none := by
  have hstart : scanKeyStart more = .ok ('"' :: before) := by
    simp [scanKeyStart, skipSpace_of_nextKey_first hnext]
  simp only [choice, hcs, Char.reduceEq, ↓reduceIte, hstart, ok_bind,
    ofText_converted_quote _ _ _ hkey]
  cases optionNamed options (String.ofList key) with
  | error cause => rfl
  | ok x =>
    simp only [Except.mapError, Except.map, ok_bind, hcolon, Except.toOption, Option.bind_some]
    cases unit.ofText d value with
    | error fault => rfl
    | ok p =>
      simp only [ok_bind, Option.bind_some]
      cases skipSpace p.2 with
      | nil => rfl
      | cons c rest => by_cases hc : c = '}' <;> simp [hc] <;> rfl

theorem toOption_ofValue_choice_singleton {v : Value} :
    ((choice options).ofValue (.object [(name, v)])).toOption =
      (optionNamed options name).toOption.bind fun x =>
        (unit.ofValue v).toOption.map fun _ => x := by
  simp only [choice, toOption_bind]
  cases optionNamed options name <;> cases unit.ofValue v <;> rfl

theorem toOption_ofValue_choice_of_length {entries : List (String × Value)}
    (h : entries.length ≠ 1) : ((choice options).ofValue (.object entries)).toOption = none := by
  match entries with
  | [] => rfl
  | [_] => exact absurd rfl h
  | _ :: _ :: _ => rfl

/-- A choice that is written as an object. -/
theorem readsAlike_choice_object {fields : List (String × Value)}
    (hcs : skipSpace cs = '{' :: more) (h : scanEntries (scanAdd d) [] more = .ok (fields, rest))
    (hkeys : (Value.object fields).hasDistinctKeys = true) :
    ((choice options).ofText (d + 1) cs).toOption =
      ((choice options).ofValue (Value.object fields).canonical).toOption.map (·, rest) := by
  have hperm := Fields.ofList_canonicalFields_perm hkeys
  rw [Value.canonical]
  cases entriesForm_of_scanEntriesWithin h with
  | done hnext =>
    simp only [choice, hcs, Char.reduceEq, ↓reduceIte, scanKeyStart,
      skipSpace_of_nextKey_done hnext]
    rfl
  | @more before key colon value after _ v fields hnext hkey hcolon hv hothers =>
    have hkeys : v.hasDistinctKeys = true := by
      obtain ⟨-, hfields⟩ := Value.hasDistinctKeys_object_iff.mp hkeys
      exact (Bool.and_eq_true_iff.mp hfields).1
    rw [toOption_ofText_choice hcs hnext hkey hcolon, readsAlike_unit hv hkeys]
    generalize more.length = bound at hothers
    cases bound with
    | zero => cases hothers
    | succ bound =>
    cases entriesForm_of_scanEntriesWithin hothers with
    | done hend =>
      have hsingle : Fields.ofList (canonicalFields [(String.ofList key, v)]) =
        [(String.ofList key, v.canonical)] := rfl
      rw [hsingle, toOption_ofValue_choice_singleton]
      cases (optionNamed options (String.ofList key)).toOption with
      | none => rfl
      | some x =>
        cases (unit.ofValue v.canonical).toOption <;> simp [skipSpace_of_nextKey_done hend]
    | more hcomma _ _ _ _ =>
      obtain ⟨_, hcomma⟩ := exists_comma_of_nextKey hcomma
      rw [toOption_ofValue_choice_of_length (by rw [hperm.length_eq]; simp [canonicalFields])]
      simp [hcomma]

theorem readsAlike_choice (options : List (String × α)) : (choice options).ReadsAlike := by
  intro d cs w rest hscan hkeys
  have hform := form_of_scanWritten hscan
  generalize hcs : skipSpace cs = cs' at hform
  cases hform with
  | string hstring =>
    simp only [choice, hcs, ↓reduceIte, ofText_converted_quote _ _ _ hstring, toOption_map,
      toOption_mapError, Value.canonical]
  | object hfields => exact readsAlike_choice_object hcs hfields hkeys
  | @number _ c _ _ _ hc _ =>
    have hquote : c ≠ '"' := ne_char_of_startsNumber hc (by decide)
    have hbrace : c ≠ '{' := ne_char_of_startsNumber hc (by decide)
    simp only [choice, hcs, if_neg hquote, if_neg hbrace]
    rfl
  | null _ => simp only [choice, hcs]; rfl
  | yes _ => simp only [choice, hcs]; rfl
  | no _ => simp only [choice, hcs]; rfl
  | array _ => simp only [choice, hcs]; rfl

/-! ### Records -/

section Record
variable {items : List Value} {fields : List (String × Value)} {seen : List String}
  {total index : Nat}

/-- An array ends where no other element is found. -/
theorem scanArrayEnd_eq_ok_iff (first : Bool) :
    scanArrayEnd cs = .ok rest ↔ nextItem first cs = .ok (.done rest) := by
  unfold scanArrayEnd nextItem
  cases skipSpace cs with
  | nil => simp
  | cons c more =>
    by_cases hc : c = ']'
    · simp [hc]
    · grind

/-- Where the elements end, only a field that has to be given stands in the way. -/
theorem toOption_fillInOrder_nil :
    (fillInOrder name total slots index [] s).toOption =
      if (slots.findIdx? fun slot => slot.required).isSome then none else some (s, []) := by
  induction slots generalizing index with
  | nil => rfl
  | cons slot slots ih =>
    rw [fillInOrder, List.findIdx?_cons]
    cases slot.required with
    | true => rfl
    | false => simp [ih]

/-- The elements of an array fill the slots one after the other, and none may be left. -/
theorem toOption_scanInOrder (hread : ∀ slot ∈ slots, slot.reading.ReadsAlike)
    (h : scanItemsWithin (scanWritten d) bound first cs = .ok (items, rest))
    (hkeys : itemsDistinctKeys items = true) :
    (scanInOrder name total d slots index first s cs).toOption =
      (fillInOrder name total slots index (canonicalItems items) s).toOption.bind fun p =>
        if p.2.isEmpty then some (p.1, rest) else none := by
  induction slots generalizing bound first cs items index s with
  | nil =>
    rw [scanInOrder, fillInOrder]
    cases bound with
    | zero => cases h
    | succ bound =>
    cases itemsForm_of_scanItemsWithin h with
    | done hnext =>
      rw [(scanArrayEnd_eq_ok_iff first).mpr hnext]
      rfl
    | more hnext _ _ =>
      cases hend : scanArrayEnd cs with
      | error fault => rfl
      | ok after =>
        rw [(scanArrayEnd_eq_ok_iff first).mp hend] at hnext
        cases hnext
  | cons slot slots ih =>
    obtain ⟨hslot, hread⟩ := List.forall_mem_cons.mp hread
    cases bound with
    | zero => cases h
    | succ bound =>
    cases itemsForm_of_scanItemsWithin h with
    | done hnext =>
      rw [scanInOrder, hnext, canonicalItems, toOption_fillInOrder_nil]
      simp only [ok_bind]
      cases (slot :: slots).findIdx? fun slot => slot.required <;> rfl
    | @more _ _ _ v _ hnext hv hothers =>
      rw [itemsDistinctKeys, Bool.and_eq_true] at hkeys
      rw [scanInOrder, hnext, ok_bind, canonicalItems, fillInOrder]
      simp only [toOption_bind, hslot hv hkeys.1]
      cases slot.reading.ofValue v.canonical with
      | error cause => rfl
      | ok change => exact ih hread hothers hkeys.2

/-- The entries of an object fill the slots in the order in which they stand. -/
theorem toOption_scanEntriesWithin_scanField (hread : ∀ slot ∈ slots, slot.reading.ReadsAlike)
    (h : scanEntriesWithin (scanAdd d) bound first [] cs = .ok (fields, rest))
    (hkeys : fieldsDistinctKeys fields = true) :
    (scanEntriesWithin (scanField slots d) bound first (s, seen) cs).toOption =
      (fillByName slots (canonicalFields fields) seen s).toOption.map (·, rest) := by
  induction bound generalizing first cs fields s seen with
  | zero => cases h
  | succ bound ih =>
    cases entriesForm_of_scanEntriesWithin h with
    | done hnext =>
      rw [scanEntriesWithin, hnext]
      rfl
    | @more _ key _ _ _ _ v fields hnext hkey hcolon hv hothers =>
      rw [fieldsDistinctKeys, Bool.and_eq_true] at hkeys
      rw [scanEntriesWithin, hnext, ok_bind, canonicalFields, fillByName]
      simp only [hkey, ok_bind, scanField, hcolon]
      cases hslot : slots.find? fun slot => slot.name == String.ofList key with
      | none =>
        -- nobody looks at the value, but it is as long as it would be if it were read
        simp only [skipValue_of_scanWritten hv, ok_bind]
        exact ih hothers hkeys.2
      | some slot =>
        simp only
        split
        · rfl
        · simp only [toOption_bind, hread slot (find?_eq_some hslot).1 hv hkeys.1]
          cases slot.reading.ofValue v.canonical with
          | error cause => rfl
          | ok change => exact ih hothers hkeys.2

theorem ofText_record_array (h : skipSpace cs = '[' :: more) :
    (record name slots start).ofText (d + 1) cs =
      scanInOrder name slots.length d slots 0 true start more := by
  simp [record, h]

theorem ofText_record_object (h : skipSpace cs = '{' :: more) :
    (record name slots start).ofText (d + 1) cs =
      (scanEntries (scanField slots d) (start, []) more >>= fun p =>
        match missing? slots p.1.2 with
        | none => return (p.1.1, p.2)
        | some field => throw (.here (.missingField field) p.2)) := by
  simp only [record, h]
  rfl

/-- **A record reads alike** if its fields do and what they change is independent. -/
theorem readsAlike_record (hslots : slots.Pairwise Slot.Independent)
    (hread : slots.Forall fun slot => slot.reading.ReadsAlike) :
    (record name slots start).ReadsAlike := by
  intro d cs w rest hscan hkeys
  replace hread := List.forall_iff_forall_mem.mp hread
  have hform := form_of_scanWritten hscan
  generalize hcs : skipSpace cs = cs' at hform
  cases hform with
  | array hitems =>
    rw [ofText_record_array hcs, toOption_scanInOrder hread hitems hkeys, Value.canonical]
    simp only [record, toOption_bind]
    cases fillInOrder name slots.length slots 0 _ start with
    | error cause => rfl
    | ok p => obtain ⟨s, _ | _⟩ := p <;> rfl
  | @object d more _ fields hfields =>
    have hperm := Fields.ofList_canonicalFields_perm hkeys
    have hloop : (scanEntries (scanField slots d) (start, []) more).toOption = _ :=
      toOption_scanEntriesWithin_scanField hread hfields
        (Value.hasDistinctKeys_object_iff.mp hkeys).2
    rw [ofText_record_object hcs, toOption_bind, hloop, Value.canonical,
      ofValue_record_perm hslots hperm]
    simp only [record, toOption_bind]
    cases fillByName slots (canonicalFields fields) [] start with
    | error cause => rfl
    | ok p =>
      obtain ⟨s, seen⟩ := p
      simp only [Except.toOption, Option.map_some, Option.bind_some]
      cases missing? slots seen <;> rfl
  | @number _ c _ _ _ hc _ =>
    have hbracket : c ≠ '[' := ne_char_of_startsNumber hc (by decide)
    have hbrace : c ≠ '{' := ne_char_of_startsNumber hc (by decide)
    simp only [record, hcs, if_neg hbracket, if_neg hbrace]
    rfl
  | null _ => simp only [record, hcs]; rfl
  | yes _ => simp only [record, hcs]; rfl
  | no _ => simp only [record, hcs]; rfl
  | string _ => simp only [record, hcs]; rfl

end Record

end IntentSelect.Json.Reading
