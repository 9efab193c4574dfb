/-
**Laying one value over another.**

Settings come in layers.  Where both layers hold objects the upper one is merged field by field
into the lower one, which keeps its order and receives the new fields at its end; anywhere else the
upper value stands.

Main definitions:

* `Rulebook.Json.merge` — a value laid over another;
* `Rulebook.Json.atPath?` — the value at a path of field names.

Main statements:

* `Rulebook.Json.merge_of_not_isObject` — outside of two objects the upper value stands.
-/

import Rulebook.Json.Basic

set_option autoImplicit false

namespace Rulebook.Json

mutual

/-- The value `layer` laid over the value `base`. -/
def merge (base : Json) : Json → Json
  | .object layer =>
    match base with
    | .object fields => .object (mergeFields fields layer)
    | _ => .object layer
  | .null => .null
  | .bool b => .bool b
  | .number n => .number n
  | .string s => .string s
  | .array items => .array items

/-- The fields of an object after those of a layer were merged into it one by one. -/
def mergeFields (fields : List (String × Json)) : List (String × Json) → List (String × Json)
  | [] => fields
  | (key, value) :: rest =>
    let merged :=
      match Fields.get? fields key with
      | some old => merge old value
      | none => value
    mergeFields (Fields.set key merged fields) rest

end

/-- The value at a path of field names, looked up through objects only. -/
def atPath? (value : Json) : List String → Option Json
  | [] => some value
  | key :: rest => (value.get? key).bind fun inner => atPath? inner rest

@[simp] theorem atPath?_nil (value : Json) : value.atPath? [] = some value := rfl

@[simp] theorem merge_object_object (fields layer : Fields) :
    merge (.object fields) (.object layer) = .object (mergeFields fields layer) := by
  rw [merge]

/-- Unless both values are objects, the upper one stands. -/
theorem merge_of_not_isObject (base layer : Json)
    (h : base.isObject = false ∨ layer.isObject = false) : merge base layer = layer := by
  cases layer with
  | object fields => cases base <;> simp_all [merge, isObject]
  | _ => simp [merge]

end Rulebook.Json
