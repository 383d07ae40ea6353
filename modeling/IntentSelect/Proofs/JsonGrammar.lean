import IntentSelect.Proofs.Numerals

/-! # The grammar of JSON

What it is for characters to be a text of a value (`Spells`).  A string is spelled character by
character, by itself or by one of the escapes; white space may stand around the brackets, commas and
colons; the fields of an object may come in any order and repeat a key, and what they spell are the
fields as they stand.  A double is spelled by its numeral, and by `null` if it is not finite.

Printing a value gives a text of it, whether without white space (`spells_chars`) or with one field
or element a line (`spells_prettyChars`).
-/
namespace IntentSelect.Json

/-! ## Strings and white space -/

/-- The characters are one character between quotes. -/
inductive SpellsChar : Char → List Char → Prop where
  | plain {c : Char} (hquote : c ≠ '"') (hbackslash : c ≠ '\\') (hcontrol : ¬ c.toNat < 0x20) :
    SpellsChar c [c]
  | short {c e : Char} (h : shortEscape? e = some c) : SpellsChar c ['\\', e]
  | hex {c p q r s : Char} (h : hexFour? p q r s = some c.toNat) :
    SpellsChar c ['\\', 'u', p, q, r, s]
  | pair {p q r s p' q' r' s' : Char} {high low : Nat} (hhigh : hexFour? p q r s = some high)
    (hlow : hexFour? p' q' r' s' = some low) (hisHigh : isHighSurrogate high = true)
    (hisLow : isLowSurrogate low = true) :
    SpellsChar (pairedChar high low) ['\\', 'u', p, q, r, s, '\\', 'u', p', q', r', s']

/-- The characters are a string between quotes. -/
inductive SpellsText : List Char → List Char → Prop where
  | nil : SpellsText [] []
  | cons {c : Char} {s cs ds : List Char} (hc : SpellsChar c cs) (hs : SpellsText s ds) :
    SpellsText (c :: s) (cs ++ ds)

/-- White space, or nothing. -/
def Blank (cs : List Char) : Prop := ∀ c ∈ cs, isSpace c = true

/-- What stands before an element or a field: a comma, unless it is the first. -/
inductive Separates : (first : Bool) → List Char → Prop where
  | first {gap : List Char} (h : Blank gap) : Separates true gap
  | comma {before after : List Char} (hbefore : Blank before) (hafter : Blank after) :
    Separates false (before ++ ',' :: after)

/-! ## Values -/

mutual
/-- The characters are a text of the value. -/
inductive Spells : Value → List Char → Prop where
  | null : Spells .null ['n', 'u', 'l', 'l']
  | bool (b : Bool) : Spells (.bool b) (boolChars b)
  | number {n : Number} (h : IsNumeral n.chars) : Spells (.number n) n.chars
  | notFinite {bits : UInt64} (h : floatLayout.writeDouble? bits = none) :
    Spells (.number (.float bits)) ['n', 'u', 'l', 'l']
  | string {s : String} {cs : List Char} (h : SpellsText s.toList cs) :
    Spells (.string s) ('"' :: cs ++ ['"'])
  | array {items : List Value} {cs : List Char} (h : SpellsItems true items cs) :
    Spells (.array items) ('[' :: cs)
  | object {fields : List (String × Value)} {cs : List Char} (h : SpellsFields true fields cs) :
    Spells (.object fields) ('{' :: cs)

/-- The characters are the elements of an array, of which the first needs no comma if that is the
case, and the closing bracket. -/
inductive SpellsItems : (first : Bool) → List Value → List Char → Prop where
  | close {first : Bool} {gap : List Char} (h : Blank gap) : SpellsItems first [] (gap ++ [']'])
  | more {first : Bool} {v : Value} {items : List Value} {separator cs rest : List Char}
    (hseparator : Separates first separator) (hv : Spells v cs)
    (hrest : SpellsItems false items rest) :
    SpellsItems first (v :: items) (separator ++ cs ++ rest)

/-- The characters are the fields of an object, as in an array, and the closing brace. -/
inductive SpellsFields : (first : Bool) → List (String × Value) → List Char → Prop where
  | close {first : Bool} {gap : List Char} (h : Blank gap) : SpellsFields first [] (gap ++ ['}'])
  | more {first : Bool} {key : String} {v : Value} {fields : List (String × Value)}
    {separator ks before after cs rest : List Char} (hseparator : Separates first separator)
    (hkey : SpellsText key.toList ks) (hbefore : Blank before) (hafter : Blank after)
    (hv : Spells v cs) (hrest : SpellsFields false fields rest) :
    SpellsFields first ((key, v) :: fields)
      (separator ++ '"' :: ks ++ '"' :: before ++ ':' :: after ++ cs ++ rest)
end

/-- The text is one document: a text of the value, with white space around it. -/
def IsDocument (v : Value) (text : String) : Prop :=
  ∃ before cs after, Blank before ∧ Spells v cs ∧ Blank after ∧
    text.toList = before ++ cs ++ after

/-! ## What is printed -/

section Printing
variable {v : Value} {fields : List (String × Value)} {gap cs rest : List Char}

theorem blank_nil : Blank [] := nofun

theorem blank_space : Blank [' '] := List.forall_mem_singleton.mpr rfl

theorem blank_newLine (level : Nat) : Blank (newLine level) := by
  refine List.forall_mem_cons.mpr ⟨rfl, fun c hc => ?_⟩
  rw [List.eq_of_mem_replicate hc]
  rfl

theorem hexFour?_control {n : Nat} (h : n < 0x20) :
    hexFour? '0' '0' (hexDigit (n / 16)) (hexDigit (n % 16)) = some n := by
  revert n
  decide

/-- What is written for a character spells it, whether it had to be escaped or not. -/
theorem spellsChar_escapedChar (c : Char) : SpellsChar c (escapedChar c) := by
  unfold escapedChar
  -- seven characters have an escape of one letter
  iterate 7
    split
    · next h =>
      subst h
      exact .short rfl
  split
  · next h => exact .hex (hexFour?_control h)
  · next hquote hbackslash _ _ _ _ _ hcontrol => exact .plain hquote hbackslash hcontrol

theorem spellsText_escaped (s : List Char) : SpellsText s (s.flatMap escapedChar) := by
  induction s with
  | nil => exact .nil
  | cons c s ih => exact .cons (spellsChar_escapedChar c) ih

/-- **The text of a number spells it.** -/
theorem spells_number (n : Number) : Spells (.number n) n.chars := by
  cases n with
  | whole w => exact .number (isNumeral_wholeChars w.val)
  | float bits =>
    cases h : floatLayout.writeDouble? bits with
    | none =>
      have hchars : (Number.float bits).chars = ['n', 'u', 'l', 'l'] := by simp [Number.chars, h]
      exact hchars ▸ .notFinite h
    | some cs =>
      have hchars : (Number.float bits).chars = cs := by simp [Number.chars, h]
      exact .number (hchars ▸ isNumeral_of_writeDouble? h)

theorem spells_string (s : String) : Spells (.string s) (stringChars s) :=
  .string (spellsText_escaped s.toList)

theorem separates_comma (h : Blank gap) : Separates false (',' :: gap) :=
  .comma blank_nil h

/-- One field and then the others, with white space only before the key and before the value. -/
theorem spellsFields_cons {first : Bool} {separator after : List Char} (key : String)
    (hseparator : Separates first separator) (hafter : Blank after) (hv : Spells v cs)
    (hrest : SpellsFields false fields rest) :
    SpellsFields first ((key, v) :: fields)
      (separator ++ stringChars key ++ ':' :: after ++ cs ++ rest) := by
  have hfield := SpellsFields.more hseparator (spellsText_escaped key.toList) blank_nil hafter
    hv hrest
  simpa [stringChars] using hfield

mutual
/-- **A value that is printed without white space is a text of it.** -/
theorem spells_chars (v : Value) : Spells v v.chars := by
  match v with
  | .null => exact .null
  | .bool b => exact .bool b
  | .number n => exact spells_number n
  | .string s => exact spells_string s
  | .array [] => exact .array (.close blank_nil)
  | .array (v :: items) =>
    exact .array (.more (.first blank_nil) (spells_chars v) (spellsItems_itemsChars items))
  | .object [] => exact .object (.close blank_nil)
  | .object ((key, v) :: fields) =>
    have hfields := spellsFields_cons key (.first blank_nil) blank_nil (spells_chars v)
      (spellsFields_fieldsChars fields)
    simpa [Value.chars] using Spells.object hfields
termination_by structural v

theorem spellsItems_itemsChars (items : List Value) :
    SpellsItems false items (itemsChars items) := by
  match items with
  | [] => exact .close blank_nil
  | v :: items =>
    exact .more (separates_comma blank_nil) (spells_chars v) (spellsItems_itemsChars items)
termination_by structural items

theorem spellsFields_fieldsChars (fields : List (String × Value)) :
    SpellsFields false fields (fieldsChars fields) := by
  match fields with
  | [] => exact .close blank_nil
  | (key, v) :: fields =>
    have hfields := spellsFields_cons key (separates_comma blank_nil) blank_nil
      (spells_chars v) (spellsFields_fieldsChars fields)
    simpa [fieldsChars] using hfields
termination_by structural fields
end

mutual
/-- **A value that is printed with one field or element a line is a text of it.** -/
theorem spells_prettyChars (level : Nat) (v : Value) : Spells v (v.prettyChars level) := by
  match v with
  | .null => exact .null
  | .bool b => exact .bool b
  | .number n => exact spells_number n
  | .string s => exact spells_string s
  | .array [] => exact .array (.close blank_nil)
  | .array (v :: items) =>
    exact .array (.more (.first (blank_newLine _)) (spells_prettyChars (level + 1) v)
      (spellsItems_itemsPretty level items))
  | .object [] => exact .object (.close blank_nil)
  | .object ((key, v) :: fields) =>
    have hfields := spellsFields_cons key (.first (blank_newLine (level + 1)))
      blank_space (spells_prettyChars (level + 1) v) (spellsFields_fieldsPretty level fields)
    simpa [Value.prettyChars] using Spells.object hfields
termination_by structural v

theorem spellsItems_itemsPretty (level : Nat) (items : List Value) :
    SpellsItems false items (itemsPretty level items) := by
  match items with
  | [] => exact .close (blank_newLine level)
  | v :: items =>
    exact .more (separates_comma (blank_newLine _)) (spells_prettyChars (level + 1) v)
      (spellsItems_itemsPretty level items)
termination_by structural items

theorem spellsFields_fieldsPretty (level : Nat) (fields : List (String × Value)) :
    SpellsFields false fields (fieldsPretty level fields) := by
  match fields with
  | [] => exact .close (blank_newLine level)
  | (key, v) :: fields =>
    have hfields := spellsFields_cons key (separates_comma (blank_newLine (level + 1)))
      blank_space (spells_prettyChars (level + 1) v) (spellsFields_fieldsPretty level fields)
    simpa [fieldsPretty] using hfields
termination_by structural fields
end

theorem isDocument_compact (v : Value) : IsDocument v v.compact := by
  refine ⟨[], v.chars, [], blank_nil, spells_chars v, blank_nil, ?_⟩
  simp [Value.compact]

/-- **A document that is printed is one document**, also with a line break at its end. -/
theorem isDocument_pretty (v : Value) : IsDocument v (v.pretty ++ "\n") := by
  refine ⟨[], v.prettyChars 0, ['\n'], blank_nil, spells_prettyChars 0 v, ?_, ?_⟩
  · exact List.forall_mem_singleton.mpr rfl
  · simp [Value.pretty]

end Printing

end IntentSelect.Json
