/-
**Structured values.**

Settings, template contexts and the answers of the program are values in the sense of JSON.  An
object is a list of named fields in the order in which they were written; setting a field that is
already there keeps its place.

Main definitions:

* `Rulebook.Json`, `Rulebook.Json.Number` — values and their numbers, which are integers or
  binary floating-point numbers;
* `Rulebook.Fields` — the fields of an object, with `get?`, `set` and `keys`;
* `Rulebook.Json.UniqueKeys` — no object inside the value has two fields of one name.

Main statements:

* `Rulebook.Fields.get?_set` — looking up a field after setting one;
* `Rulebook.Fields.keys_set` — setting a field keeps the names, or adds the new one at the end.
-/

import Rulebook.Number.Binary64

set_option autoImplicit false

namespace Rulebook

/-- A number of a structured value. -/
inductive Json.Number where
  /-- An integer. -/
  | int (value : Int)
  /-- A number written with a fraction or an exponent, or an integer that is too large. -/
  | float (value : Binary64)
  deriving DecidableEq, Repr

/-- A structured value. -/
inductive Json where
  /-- The absent value. -/
  | null
  /-- A truth value. -/
  | bool (value : Bool)
  /-- A number. -/
  | number (value : Json.Number)
  /-- A text. -/
  | string (value : String)
  /-- A list of values. -/
  | array (items : List Json)
  /-- Named values, in the order in which they were written. -/
  | object (fields : List (String × Json))
  deriving Repr

/-- The named values of an object. -/
abbrev Fields := List (String × Json)

namespace Fields

/-- The value of the first field with the given name. -/
def get? (fields : Fields) (key : String) : Option Json := List.lookup key fields

/-- The names, in order. -/
def keys (fields : Fields) : List String := fields.map Prod.fst

/-- Gives a field a value: the first field of that name changes in its place, and a new name goes
to the end. -/
def set (key : String) (value : Json) : Fields → Fields
  | [] => [(key, value)]
  | field :: rest =>
    if field.1 = key then (key, value) :: rest else field :: set key value rest

/-- Gives several fields their values, in order. -/
def setAll (fields new : Fields) : Fields := new.foldl (fun acc f => set f.1 f.2 acc) fields

@[simp] theorem get?_nil (key : String) : get? [] key = none := rfl

theorem get?_cons (field : String × Json) (rest : Fields) (key : String) :
    get? (field :: rest) key = if field.1 = key then some field.2 else get? rest key := by
  rcases field with ⟨k, v⟩
  by_cases h : k = key
  · simp [get?, h]
  · have h' : (key == k) = false := by simpa using fun e => h e.symm
    simp [get?, List.lookup_cons, h, h']

theorem get?_append (fields more : Fields) (key : String) :
    get? (fields ++ more) key = (get? fields key).or (get? more key) :=
  List.lookup_append

/-- A field that was set has its new value; every other field is as before. -/
theorem get?_set (fields : Fields) (key other : String) (value : Json) :
    get? (set key value fields) other = if key = other then some value else get? fields other := by
  induction fields with
  | nil => simp [set, get?_cons]
  | cons field rest ih =>
    rw [set]
    by_cases h : field.1 = key
    · by_cases ho : key = other <;> simp [get?_cons, h, ho]
    · by_cases ho : key = other
      · subst ho
        simp [get?_cons, h, ih]
      · simp [get?_cons, h, ih, ho]

/-- Setting a field keeps the names if it is there, and adds its name at the end otherwise. -/
theorem keys_set (fields : Fields) (key : String) (value : Json) :
    keys (set key value fields) =
      if key ∈ keys fields then keys fields else keys fields ++ [key] := by
  induction fields with
  | nil => simp [set, keys]
  | cons field rest ih =>
    rw [set]
    by_cases h : field.1 = key
    · simp [keys, h]
    · have h' : ¬ key = field.1 := fun e => h e.symm
      simp only [h, if_false, keys, List.map_cons, List.mem_cons, h', false_or] at ih ⊢
      rw [ih]
      split <;> simp_all

end Fields

namespace Json

/-- The field of an object; none for any other value. -/
def get? : Json → String → Option Json
  | .object fields, key => Fields.get? fields key
  | _, _ => none

/-- Whether a value is an object. -/
def isObject : Json → Bool
  | .object _ => true
  | _ => false

/-- A value made of a natural number. -/
def ofNat (n : Nat) : Json := .number (.int n)

/-- A list of texts as a value. -/
def ofStrings (texts : List String) : Json := .array (texts.map .string)

mutual

/-- No object inside the value has two fields of one name. -/
def UniqueKeys : Json → Prop
  | .array items => UniqueKeysList items
  | .object fields => (Fields.keys fields).Nodup ∧ UniqueKeysFields fields
  | _ => True

/-- No object inside one of the values has two fields of one name. -/
def UniqueKeysList : List Json → Prop
  | [] => True
  | item :: rest => UniqueKeys item ∧ UniqueKeysList rest

/-- No object inside the value of one of the fields has two fields of one name. -/
def UniqueKeysFields : List (String × Json) → Prop
  | [] => True
  | (_, value) :: rest => UniqueKeys value ∧ UniqueKeysFields rest

end

end Json

end Rulebook
