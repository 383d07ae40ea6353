import IntentSelect.Unicode.Age
import IntentSelect.Unicode.Category
import IntentSelect.Unicode.CharSet
import IntentSelect.Unicode.Name
import IntentSelect.Unicode.Property
import IntentSelect.Unicode.Script
import IntentSelect.Unicode.Segmentation

/-!
# Looking up a set of characters by property

A query names a set of characters in one of two ways: by one name, which may be that of a binary
property, a general category or a script, tried in this order; or by a property and one of its
values.  Names are compared loosely (`looseName`).
-/
namespace IntentSelect.Unicode

/-- The set kept under a name in a packed table. -/
def packedSet? (table : List (String × String)) (name : String) : Option CharSet :=
  (table.lookup name).map CharSet.unpack

/-- The general categories that a category or group of categories stands for.  Surrogates are no
characters, so their category stands for nothing. -/
def categoryMembers (name : String) : List String :=
  if name = "LC" then ["Ll", "Lt", "Lu"]
  else if name = "Cs" then []
  else if name.length = 1 then (categories.map Prod.fst).filter fun n => n.startsWith name
  else [name]

/-- The union of the sets kept under several names. -/
def categoryUnion (names : List String) : CharSet :=
  CharSet.unions (names.filterMap (packedSet? categories))

/-- The characters of a general category or group, given the loose form of its name. -/
def categorySet? (loose : String) : Option CharSet :=
  if loose = "any" then some CharSet.all
  else if loose = "assigned" then some (categoryUnion ["Cn"]).complement
  else if loose = "ascii" then some ⟨[⟨0, 0x7F⟩]⟩
  else
    match categoryNames.lookup loose with
    | none => none
    | some name =>
      match categoryMembers name with
      | [] => none
      | members => some (categoryUnion members)

/-- The characters of a script, given the loose form of its name. -/
def scriptSet? (loose : String) : Option CharSet :=
  (scriptNames.lookup loose).bind (packedSet? scripts)

/-- The characters used with a script, given the loose form of its name. -/
def scriptExtensionSet? (loose : String) : Option CharSet :=
  (scriptNames.lookup loose).bind (packedSet? scriptExtensions)

/-- The characters that existed in a version of the standard, given the loose form of its name. -/
def ageSet? (loose : String) : Option CharSet :=
  match ageNames.lookup loose with
  | none => none
  | some version =>
    let upTo := ages.takeWhile (fun e => e.1 != version) ++ ages.filter fun e => e.1 == version
    some (CharSet.unions (upTo.map fun e => CharSet.unpack e.2))

/-- The loose form of a name, as a string. -/
def looseString (name : String) : String := String.ofList (looseName name.toList)

/-- Names that belong to a category although a property has the same abbreviation. -/
def categoryFirst : List String := ["cf", "sc", "lc"]

/-- The set that one name stands for. -/
def setNamed? (name : String) : Option CharSet :=
  let loose := looseString name
  let property := if categoryFirst.contains loose then none else binaryPropertyNames.lookup loose
  match property with
  | some p => packedSet? binaryProperties p
  | none =>
    match categorySet? loose with
    | some s => some s
    | none => scriptSet? loose

/-- The set of characters whose property has a value. -/
def setOfValue? (property value : String) : Option CharSet :=
  let value := looseString value
  match looseString property with
  | "gc" | "generalcategory" => categorySet? value
  | "sc" | "script" => scriptSet? value
  | "scx" | "scriptextensions" => scriptExtensionSet? value
  | "age" => ageSet? value
  | "gcb" | "graphemeclusterbreak" =>
    (graphemeClusterBreakNames.lookup value).bind (packedSet? graphemeClusterBreaks)
  | "wb" | "wordbreak" => (wordBreakNames.lookup value).bind (packedSet? wordBreaks)
  | "sb" | "sentencebreak" => (sentenceBreakNames.lookup value).bind (packedSet? sentenceBreaks)
  | _ => none

/-! ## Sets that have a name of their own -/

/-- Decimal digits. -/
def digitSet : CharSet := categoryUnion ["Nd"]

/-- White space. -/
def spaceSet : CharSet := (packedSet? binaryProperties "White_Space").getD CharSet.empty

/-- What a word is made of: letters, marks, decimal digits, connectors and joiners. -/
def wordSet : CharSet :=
  CharSet.unions (categoryUnion ["Mc", "Me", "Mn", "Nd", "Pc"] ::
    ["Alphabetic", "Join_Control"].filterMap (packedSet? binaryProperties))

end IntentSelect.Unicode
