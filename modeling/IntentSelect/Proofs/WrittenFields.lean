import IntentSelect.Proofs.AcceptedTexts
import Mathlib.Data.List.DropRight

/-! # Documents as they are written

A value that is read from a text has the fields of its objects in ascending order of their keys,
and of a key that is repeated it has only the last one.  To say what the text itself repeats, it is
read once more by a scanner that keeps every field where it stands (`scanWritten`).  The two
scanners agree on everything else: what the first reads is what the second reads, put in canonical
form (`scanValue_eq`).

`Form` tells from the first character after white space what has been read.  The entries of an
object are read one after the other, those before having no influence (`EntriesForm`), so what a
loop over them does can be followed field by field.
-/
namespace IntentSelect.Json

/-! ## Keys that are not repeated -/

mutual
/-- True if no object in the value has two fields of the same key. -/
def Value.hasDistinctKeys (v : Value) : Bool :=
  match v with
  | .array items => itemsDistinctKeys items
  | .object fields => decide (Fields.keys fields).Nodup && fieldsDistinctKeys fields
  | _ => true
termination_by structural v

/-- True if no object in the values has two fields of the same key. -/
def itemsDistinctKeys (items : List Value) : Bool :=
  match items with
  | [] => true
  | v :: items => v.hasDistinctKeys && itemsDistinctKeys items
termination_by structural items

/-- True if no object in the values of the fields has two fields of the same key. -/
def fieldsDistinctKeys (fields : List (String × Value)) : Bool :=
  match fields with
  | [] => true
  | (_, v) :: fields => v.hasDistinctKeys && fieldsDistinctKeys fields
termination_by structural fields
end

theorem Value.hasDistinctKeys_object_iff {fields : List (String × Value)} :
    (Value.object fields).hasDistinctKeys = true ↔
      (Fields.keys fields).Nodup ∧ fieldsDistinctKeys fields = true := by
  rw [hasDistinctKeys, Bool.and_eq_true, decide_eq_true_eq]

/-- Fields whose keys are distinct are only put in another order. -/
theorem Fields.ofList_canonicalFields_perm {fields : List (String × Value)}
    (h : (Value.object fields).hasDistinctKeys = true) :
    (Fields.ofList (canonicalFields fields)).Perm (canonicalFields fields) := by
  refine Fields.ofList_perm ?_
  rw [Fields.keys_canonicalFields]
  exact (Value.hasDistinctKeys_object_iff.mp h).1

/-! ## Reading all fields -/

namespace Reading
variable {α β σ τ : Type} {cs more rest : List Char} {d depth bound : Nat} {first : Bool}
  {w : Value}

/-- Reads any value, its objects with all fields as they stand. -/
def scanWritten (depth : Nat) (cs : List Char) : Except Fault (Value × List Char) :=
  match skipSpace cs with
  | [] => .error (.here .endOfValue [])
  | c :: rest =>
    if c = 'n' then (scanWord ['u', 'l', 'l'] rest).map fun rest => (.null, rest)
    else if c = 't' then (scanWord ['r', 'u', 'e'] rest).map fun rest => (.bool true, rest)
    else if c = 'f' then (scanWord ['a', 'l', 's', 'e'] rest).map fun rest => (.bool false, rest)
    else if c = '-' ∨ c.isDigit = true then
      (scanNumber (c :: rest)).map fun p => (.number p.1, p.2)
    else if c = '"' then (scanString rest).map fun p => (.string (String.ofList p.1), p.2)
    else if c = '[' then
      match depth with
      | 0 => .error (.next .tooDeep (c :: rest))
      | d + 1 => (scanItems (scanWritten d) rest).map fun p => (.array p.1, p.2)
    else if c = '{' then
      match depth with
      | 0 => .error (.next .tooDeep (c :: rest))
      | d + 1 =>
        let entry := fun (fields : List (String × Value)) (key : String) (cs : List Char) => do
          let rest ← scanColon cs
          let (v, rest) ← scanWritten d rest
          return (fields ++ [(key, v)], rest)
        (scanEntries entry [] rest).map fun p => (.object p.1, p.2)
    else .error (.next .expectedValue (c :: rest))
termination_by structural depth

/-- Any value, its objects with all fields as they stand. -/
def written : Reading Value where
  ofValue := .ok
  ofText := scanWritten

/-- Reads the value of a field and adds the field behind the others. -/
def scanAdd (d : Nat) (fields : List (String × Value)) (key : String) (cs : List Char) :
    Except Fault (List (String × Value) × List Char) := do
  let rest ← scanColon cs
  let (v, rest) ← scanWritten d rest
  return (fields ++ [(key, v)], rest)

/-! ### Loops that run alike -/

theorem scanItemsWithin_map {f : α → β} {element : List Char → Except Fault (α × List Char)}
    {element' : List Char → Except Fault (β × List Char)}
    (h : ∀ cs, element' cs = (element cs).map fun p => (f p.1, p.2)) :
    scanItemsWithin element' bound first cs =
      (scanItemsWithin element bound first cs).map fun p => (p.1.map f, p.2) := by
  induction bound generalizing first cs with
  | zero => rfl
  | succ bound ih =>
    simp only [scanItemsWithin, h, ih]
    cases nextItem first cs with
    | error fault => rfl
    | ok round =>
      cases round with
      | done rest => rfl
      | more cs =>
        simp only [ok_bind]
        cases element cs with
        | error fault => rfl
        | ok p =>
          simp only [Except.map, ok_bind]
          cases scanItemsWithin element bound false p.2 <;> rfl

theorem scanEntriesWithin_map {f : σ → τ} {s : σ}
    {entry : σ → String → List Char → Except Fault (σ × List Char)}
    {entry' : τ → String → List Char → Except Fault (τ × List Char)}
    (h : ∀ s key cs, entry' (f s) key cs = (entry s key cs).map fun p => (f p.1, p.2)) :
    scanEntriesWithin entry' bound first (f s) cs =
      (scanEntriesWithin entry bound first s cs).map fun p => (f p.1, p.2) := by
  induction bound generalizing first s cs with
  | zero => rfl
  | succ bound ih =>
    simp only [scanEntriesWithin]
    cases nextKey first cs with
    | error fault => rfl
    | ok round =>
      cases round with
      | done rest => rfl
      | more cs =>
        simp only [ok_bind]
        cases scanString cs with
        | error fault => rfl
        | ok p =>
          simp only [ok_bind, h]
          cases entry s (String.ofList p.1) p.2 with
          | error fault => rfl
          | ok q => exact ih

theorem map_map_except {ε γ : Type} (f : α → β) (g : β → γ) (x : Except ε α) :
    (x.map f).map g = x.map fun a => g (f a) := by
  cases x <;> rfl

/-- Adding a field behind the others and setting it come to the same in canonical form. -/
theorem ofList_canonicalFields_concat (fields : List (String × Value)) (key : String) (v : Value) :
    Fields.ofList (canonicalFields (fields ++ [(key, v)])) =
      Fields.put key v.canonical (Fields.ofList (canonicalFields fields)) := by
  have happend : canonicalFields (fields ++ [(key, v)]) =
      canonicalFields fields ++ [(key, v.canonical)] := by
    induction fields with
    | nil => rfl
    | cons e fields ih => rw [List.cons_append, canonicalFields, canonicalFields, ih]; rfl
  rw [Fields.ofList, Fields.putAll, happend, List.foldl_append]
  rfl

theorem scanPut_eq (ih : ∀ cs, scanValue d cs =
      (scanWritten d cs).map fun p => (p.1.canonical, p.2))
    (fields : List (String × Value)) (key : String) (cs : List Char) :
    scanPut d (Fields.ofList (canonicalFields fields)) key cs =
      (scanAdd d fields key cs).map fun p => (Fields.ofList (canonicalFields p.1), p.2) := by
  unfold scanPut scanAdd
  cases scanColon cs with
  | error fault => rfl
  | ok cs =>
    simp only [ok_bind, ih]
    cases scanWritten d cs with
    | error fault => rfl
    | ok p =>
      simp only [Except.map, ok_bind, ← ofList_canonicalFields_concat]
      rfl

/-- The entries of an object, put together or as they stand. -/
theorem scanEntries_scanPut (ih : ∀ cs, scanValue d cs =
      (scanWritten d cs).map fun p => (p.1.canonical, p.2)) (cs : List Char) :
    scanEntries (scanPut d) [] cs = (scanEntries (scanAdd d) [] cs).map
      fun p => (Fields.ofList (canonicalFields p.1), p.2) :=
  scanEntriesWithin_map (s := []) (scanPut_eq ih)

/-- Choosing between two mapped results is mapping the chosen one. -/
theorem ite_eq_map {ε : Type} {p : Prop} [Decidable p] {x y : Except ε β} {x' y' : Except ε α}
    {f : α → β} (hpos : x = x'.map f) (hneg : y = y'.map f) :
    (if p then x else y) = (if p then x' else y').map f := by
  split
  · exact hpos
  · exact hneg

/-- **Reading a value is reading it as it is written** and putting its objects in order. -/
theorem scanValue_eq (d : Nat) (cs : List Char) :
    scanValue d cs = (scanWritten d cs).map fun p => (p.1.canonical, p.2) := by
  induction d using Nat.strongRecOn generalizing cs with
  | ind d ih =>
    rw [scanValue.eq_def, scanWritten.eq_def]
    cases skipSpace cs with
    | nil => rfl
    | cons c more =>
      -- words, numbers and strings are in canonical form already
      iterate 5
        refine ite_eq_map (by rw [map_map_except]; rfl) ?_
      refine ite_eq_map ?array (ite_eq_map ?object rfl)
      case array =>
        cases d with
        | zero => rfl
        | succ d =>
          simp only [scanItems, scanItemsWithin_map (ih d (Nat.lt_succ_self d)), map_map_except,
            Value.canonical, canonicalItems_eq]
      case object =>
        cases d with
        | zero => rfl
        | succ d =>
          change (scanEntries (scanPut d) [] more).map _ =
            ((scanEntries (scanAdd d) [] more).map _).map _
          simp only [scanEntries_scanPut (ih d (Nat.lt_succ_self d)), map_map_except,
            Value.canonical]

theorem scanValue_of_scanWritten (h : scanWritten d cs = .ok (w, rest)) :
    scanValue d cs = .ok (w.canonical, rest) := by
  rw [scanValue_eq, h]
  rfl

/-- White space before a value does not matter. -/
theorem scanWritten_skipSpace (d : Nat) (cs : List Char) :
    scanWritten d (skipSpace cs) = scanWritten d cs := by
  have hskip : skipSpace (skipSpace cs) = skipSpace cs := List.dropWhile_idempotent ..
  rw [scanWritten.eq_def, scanWritten.eq_def d cs, hskip]

/-! ### What has been read -/

/-- What stands at the front of characters, which begin with no white space, and what is left. -/
inductive Form : (depth : Nat) → List Char → Value → List Char → Prop where
  | null {depth : Nat} {more rest : List Char} (h : scanWord ['u', 'l', 'l'] more = .ok rest) :
    Form depth ('n' :: more) .null rest
  | yes {depth : Nat} {more rest : List Char} (h : scanWord ['r', 'u', 'e'] more = .ok rest) :
    Form depth ('t' :: more) (.bool true) rest
  | no {depth : Nat} {more rest : List Char} (h : scanWord ['a', 'l', 's', 'e'] more = .ok rest) :
    Form depth ('f' :: more) (.bool false) rest
  | number {depth : Nat} {c : Char} {more rest : List Char} {n : Number}
    (hc : c = '-' ∨ c.isDigit = true) (h : scanNumber (c :: more) = .ok (n, rest)) :
    Form depth (c :: more) (.number n) rest
  | string {depth : Nat} {more rest s : List Char} (h : scanString more = .ok (s, rest)) :
    Form depth ('"' :: more) (.string (String.ofList s)) rest
  | array {d : Nat} {more rest : List Char} {items : List Value}
    (h : scanItems (scanWritten d) more = .ok (items, rest)) :
    Form (d + 1) ('[' :: more) (.array items) rest
  | object {d : Nat} {more rest : List Char} {fields : List (String × Value)}
    (h : scanEntries (scanAdd d) [] more = .ok (fields, rest)) :
    Form (d + 1) ('{' :: more) (.object fields) rest

theorem form_of_scanWritten (h : scanWritten depth cs = .ok (w, rest)) :
    Form depth (skipSpace cs) w rest := by
  rw [scanWritten.eq_def] at h
  split at h
  · cases h
  next c more hskip =>
  rw [hskip]
  split at h
  · next hc =>
    obtain ⟨_, hword, heq⟩ := map_eq_ok_iff.mp h
    cases heq
    exact hc ▸ .null hword
  split at h
  · next hc =>
    obtain ⟨_, hword, heq⟩ := map_eq_ok_iff.mp h
    cases heq
    exact hc ▸ .yes hword
  split at h
  · next hc =>
    obtain ⟨_, hword, heq⟩ := map_eq_ok_iff.mp h
    cases heq
    exact hc ▸ .no hword
  split at h
  · next hc =>
    obtain ⟨_, hnumber, heq⟩ := map_eq_ok_iff.mp h
    cases heq
    exact .number hc hnumber
  split at h
  · next hc =>
    obtain ⟨_, hstring, heq⟩ := map_eq_ok_iff.mp h
    cases heq
    exact hc ▸ .string hstring
  split at h
  · next hc =>
    cases depth with
    | zero => cases h
    | succ d =>
      obtain ⟨_, hitems, heq⟩ := map_eq_ok_iff.mp h
      cases heq
      exact hc ▸ .array hitems
  split at h
  · next hc =>
    cases depth with
    | zero => cases h
    | succ d =>
      obtain ⟨_, hfields, heq⟩ := map_eq_ok_iff.mp h
      cases heq
      exact hc ▸ .object hfields
  · cases h

/-- What one round of a loop over an array has read: nothing but the end, or an element. -/
inductive ItemsForm (d bound : Nat) (first : Bool) (cs : List Char) :
    List Value → List Char → Prop where
  | done {rest : List Char} (h : nextItem first cs = .ok (.done rest)) :
    ItemsForm d bound first cs [] rest
  | more {before after rest : List Char} {v : Value} {items : List Value}
    (hnext : nextItem first cs = .ok (.more before)) (hv : scanWritten d before = .ok (v, after))
    (hrest : scanItemsWithin (scanWritten d) bound false after = .ok (items, rest)) :
    ItemsForm d bound first cs (v :: items) rest

theorem itemsForm_of_scanItemsWithin {items : List Value}
    (h : scanItemsWithin (scanWritten d) (bound + 1) first cs = .ok (items, rest)) :
    ItemsForm d bound first cs items rest := by
  obtain ⟨round, hround, h⟩ := bind_eq_ok_iff.mp h
  cases round with
  | done more =>
    cases h
    exact .done hround
  | more more =>
    obtain ⟨⟨v, after⟩, hv, h⟩ := bind_eq_ok_iff.mp h
    obtain ⟨⟨items, _⟩, hitems, heq⟩ := bind_eq_ok_iff.mp h
    cases heq
    exact .more hround hv hitems

/-- What one round of a loop over an object has read: nothing but the end, or a field. -/
inductive EntriesForm (d bound : Nat) (first : Bool) (cs : List Char) :
    List (String × Value) → List Char → Prop where
  | done {rest : List Char} (h : nextKey first cs = .ok (.done rest)) :
    EntriesForm d bound first cs [] rest
  | more {before key colon value after rest : List Char} {v : Value}
    {fields : List (String × Value)} (hnext : nextKey first cs = .ok (.more before))
    (hkey : scanString before = .ok (key, colon)) (hcolon : scanColon colon = .ok value)
    (hv : scanWritten d value = .ok (v, after))
    (hrest : scanEntriesWithin (scanAdd d) bound false [] after = .ok (fields, rest)) :
    EntriesForm d bound first cs ((String.ofList key, v) :: fields) rest

/-- Fields that have been read before do not matter. -/
theorem scanEntriesWithin_scanAdd (before : List (String × Value)) :
    scanEntriesWithin (scanAdd d) bound first before cs =
      (scanEntriesWithin (scanAdd d) bound first [] cs).map fun p => (before ++ p.1, p.2) := by
  have hadd (fields : List (String × Value)) (key : String) (cs : List Char) :
      scanAdd d (before ++ fields) key cs =
        (scanAdd d fields key cs).map fun p => (before ++ p.1, p.2) := by
    unfold scanAdd
    cases scanColon cs with
    | error fault => rfl
    | ok cs =>
      simp only [ok_bind]
      cases scanWritten d cs with
      | error fault => rfl
      | ok p =>
        simp only [ok_bind, List.append_assoc]
        rfl
  have hloop : scanEntriesWithin (scanAdd d) bound first (before ++ []) cs = _ :=
    scanEntriesWithin_map hadd
  rwa [List.append_nil] at hloop

theorem entriesForm_of_scanEntriesWithin {fields : List (String × Value)}
    (h : scanEntriesWithin (scanAdd d) (bound + 1) first [] cs = .ok (fields, rest)) :
    EntriesForm d bound first cs fields rest := by
  obtain ⟨round, hround, h⟩ := bind_eq_ok_iff.mp h
  cases round with
  | done more =>
    cases h
    exact .done hround
  | more more =>
    obtain ⟨⟨key, colon⟩, hkey, h⟩ := bind_eq_ok_iff.mp h
    obtain ⟨⟨read, after⟩, hentry, h⟩ := bind_eq_ok_iff.mp h
    obtain ⟨value, hcolon, hentry⟩ := bind_eq_ok_iff.mp hentry
    obtain ⟨⟨v, _⟩, hv, heq⟩ := bind_eq_ok_iff.mp hentry
    cases heq
    simp only at h
    rw [scanEntriesWithin_scanAdd] at h
    obtain ⟨⟨fields, _⟩, hrest, heq⟩ := map_eq_ok_iff.mp h
    cases heq
    exact .more hround hkey hcolon hv hrest

end Reading

/-! ## Whole texts -/

theorem Reading.toEnd_map {α β : Type} {r : Reading α} {r' : Reading β} {f : α → β}
    (h : ∀ cs, r'.ofText depthLimit cs = (r.ofText depthLimit cs).map fun p => (f p.1, p.2))
    (cs : List Char) : r'.toEnd cs = (r.toEnd cs).map f := by
  rw [toEnd, toEnd, h]
  cases r.ofText depthLimit cs with
  | error fault => rfl
  | ok p =>
    simp only [Except.map, ok_bind]
    cases skipSpace p.2 <;> rfl

/-- The value of a text is what is written there, in canonical form. -/
theorem parse_eq_map_written (text : String) :
    Value.parse text = (Reading.written.parse text).map Value.canonical := by
  have hend : Reading.any.toEnd text.toList =
      (Reading.written.toEnd text.toList).map Value.canonical :=
    Reading.toEnd_map (Reading.scanValue_eq depthLimit) text.toList
  rw [Value.parse, Reading.parse, Reading.parse, hend]
  cases Reading.written.toEnd text.toList <;> rfl

/-- No object in a text repeats a key. -/
def RepeatsNoKey (text : String) : Prop :=
  ∃ w, Reading.written.parse text = .ok w ∧ w.hasDistinctKeys = true

theorem repeatsNoKey_iff {text : String} :
    RepeatsNoKey text ↔
      (Reading.written.parse text).toOption.any Value.hasDistinctKeys = true := by
  simp only [RepeatsNoKey, Option.any_eq_true, toOption_eq_some_iff]

instance (text : String) : Decidable (RepeatsNoKey text) := decidable_of_iff _ repeatsNoKey_iff.symm

end IntentSelect.Json
