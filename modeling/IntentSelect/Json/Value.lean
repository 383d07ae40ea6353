/-!
# JSON values

A value is what a document denotes.  Numbers keep the kind in which they were written: an integer of
64 bits, with or without a sign, or a double.  The fields of an object are a list; where objects
stand for maps they are kept in ascending order of their keys, each key once (`Fields.put`,
`Value.canonical`), and the order of keys is that of their UTF-8 bytes, which is the order of
strings.
-/
namespace IntentSelect.Json

/-- An integer of 64 bits, with or without a sign. -/
structure Whole where
  val : Int
  lower : -0x8000000000000000 ≤ val
  upper : val < 0x10000000000000000
deriving DecidableEq

namespace Whole

theorem ext {a b : Whole} (h : a.val = b.val) : a = b := by
  cases a; cases b; simp_all

/-- The integer, if it has at most 64 bits. -/
def ofInt? (i : Int) : Option Whole :=
  if h : -0x8000000000000000 ≤ i ∧ i < 0x10000000000000000 then some ⟨i, h.1, h.2⟩ else none

theorem ofInt?_val (w : Whole) : ofInt? w.val = some w := by
  exact dif_pos ⟨w.lower, w.upper⟩

end Whole

inductive Number where
  | whole (w : Whole)
  /-- A double, by its bits. -/
  | float (bits : UInt64)
deriving DecidableEq

inductive Value where
  | null
  | bool (b : Bool)
  | number (n : Number)
  | string (s : String)
  | array (items : List Value)
  | object (fields : List (String × Value))
deriving Inhabited

/-! ## Fields in order -/

namespace Fields
variable {α : Type}

/-- Sets a key, keeping ascending order of keys. -/
def put (key : String) (value : α) : List (String × α) → List (String × α)
  | [] => [(key, value)]
  | (k, v) :: rest =>
    if key < k then (key, value) :: (k, v) :: rest
    else if key = k then (key, value) :: rest
    else (k, v) :: put key value rest

/-- The value of a key; of several entries the first one counts. -/
def get? (key : String) : List (String × α) → Option α
  | [] => none
  | (k, v) :: rest => if k = key then some v else get? key rest

/-- Puts entries one after the other, so that the last of several for one key stays. -/
def putAll (entries : List (String × α)) (fields : List (String × α)) : List (String × α) :=
  entries.foldl (fun acc e => put e.1 e.2 acc) fields

/-- The entries as a map in ascending order of keys. -/
def ofList (entries : List (String × α)) : List (String × α) := putAll entries []

theorem get?_put (key k : String) (v : α) (fields : List (String × α)) :
    get? k (put key v fields) = if key = k then some v else get? k fields := by
  induction fields with
  | nil => simp [put, get?]
  | cons e rest ih =>
    obtain ⟨k', v'⟩ := e
    simp only [put]
    split
    · simp [get?]
    · split
      · next h => subst h; by_cases hk : key = k <;> simp [get?, hk]
      · next h =>
        by_cases hk : k' = k
        · subst hk; simp [get?, h]
        · simp [get?, hk, ih]

end Fields

/-! ## Depth and canonical form -/

mutual
/-- How many arrays and objects lie around the innermost part of a value. -/
def Value.depth (v : Value) : Nat :=
  match v with
  | .array items => itemsDepth items + 1
  | .object fields => fieldsDepth fields + 1
  | _ => 0
termination_by structural v

/-- The greatest depth among values. -/
def itemsDepth (items : List Value) : Nat :=
  match items with
  | [] => 0
  | v :: rest => max v.depth (itemsDepth rest)
termination_by structural items

/-- The greatest depth among the values of fields. -/
def fieldsDepth (fields : List (String × Value)) : Nat :=
  match fields with
  | [] => 0
  | (_, v) :: rest => max v.depth (fieldsDepth rest)
termination_by structural fields
end

mutual
/-- The value with all objects, at any depth, as maps in ascending order of keys. -/
def Value.canonical (v : Value) : Value :=
  match v with
  | .array items => .array (canonicalItems items)
  | .object fields => .object (Fields.ofList (canonicalFields fields))
  | v => v
termination_by structural v

/-- All values in canonical form. -/
def canonicalItems (items : List Value) : List Value :=
  match items with
  | [] => []
  | v :: rest => v.canonical :: canonicalItems rest
termination_by structural items

/-- All fields with their values in canonical form, in the order in which they stand. -/
def canonicalFields (fields : List (String × Value)) : List (String × Value) :=
  match fields with
  | [] => []
  | (k, v) :: rest => (k, v.canonical) :: canonicalFields rest
termination_by structural fields
end

/-- The name of a value's kind. -/
def Value.kind : Value → String
  | .null => "null"
  | .bool _ => "boolean"
  | .number _ => "number"
  | .string _ => "string"
  | .array _ => "array"
  | .object _ => "object"

end IntentSelect.Json
