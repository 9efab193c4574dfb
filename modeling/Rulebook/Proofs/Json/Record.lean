/-
**Reading records.**

A record is read in two passes: first every known field is looked at in the order in which it was
written, and then the fields are taken up by name.  So whether a record is read depends on its known
fields only, one by one; and a record that was written field by field is read back if each field is.
A field that fits whatever its value is can be set and taken away without any effect on the others.

Main definitions:

* `Rulebook.Fields.without` — the fields but those of one name.

Main results:

* `Rulebook.exists_of_bind_eq_ok` — a step that succeeds has a first part that succeeds;
* `Rulebook.Json.checkFields_cons_eq_ok_iff` — fields fit exactly if each known one does;
* `Rulebook.Json.checkFields_set` — setting a field that fits in any case is no matter for the rest.
-/

import Rulebook.Json.Decode

set_option autoImplicit false

namespace Rulebook

/-- A step that succeeds has a first part that succeeds. -/
theorem exists_of_bind_eq_ok {ε α β : Type} {x : Except ε α} {f : α → Except ε β} {b : β}
    (h : x >>= f = .ok b) : ∃ a, x = .ok a ∧ f a = .ok b := by
  cases x with
  | error e => cases h
  | ok a => exact ⟨a, rfl, h⟩

/-! ### Taking a field away -/

/-- The fields but those of a name. -/
def Fields.without (fields : Fields) (name : String) : Fields :=
  fields.filter fun field => field.1 ≠ name

theorem Fields.without_cons (field : String × Json) (rest : Fields) (name : String) :
    without (field :: rest) name =
      if field.1 = name then without rest name else field :: without rest name := by
  by_cases h : field.1 = name <;> simp [without, h]

theorem Fields.get?_without (fields : Fields) (name other : String) :
    get? (fields.without name) other = if name = other then none else get? fields other := by
  induction fields with
  | nil => simp [without]
  | cons field rest ih =>
      rw [without_cons, get?_cons]
      by_cases hname : field.1 = name
      · rw [if_pos hname, ih, hname]
        split <;> rfl
      · rw [if_neg hname, get?_cons, ih]
        by_cases hother : field.1 = other
        · simp [hother, Ne.symm (hother ▸ hname)]
        · simp [hother]

namespace Json

variable {α : Type}

@[simp] theorem fits_eq_ok_iff {read : Decoder α} {value : Json} :
    fits read value = .ok () ↔ ∃ a, read value = .ok a := by
  rw [fits]
  cases read value <;> simp [Except.map]

/-! ### Fields -/

variable {known : List (String × Decoder Unit)}

@[simp] theorem checkFields_nil : checkFields known [] = .ok () := rfl

theorem checkFields_cons (field : String × Json) (rest : Fields) :
    checkFields known (field :: rest) =
      (((known.lookup field.1).elim (.ok ()) fun check => check field.2) >>= fun _ =>
        checkFields known rest) := by
  rw [checkFields, List.forM]
  cases known.lookup field.1 <;> rfl

/-- **Fields fit exactly if each known one does.** -/
@[simp] theorem checkFields_cons_eq_ok_iff {field : String × Json} {rest : Fields} :
    checkFields known (field :: rest) = .ok () ↔
      (∀ check, known.lookup field.1 = some check → check field.2 = .ok ()) ∧
        checkFields known rest = .ok () := by
  rw [checkFields_cons]
  cases known.lookup field.1 with
  | none => simp [bind, Except.bind]
  | some check => cases h : check field.2 <;> simp [h, bind, Except.bind]

/-- A field that fits in any case is passed over. -/
theorem checkFields_cons_of_fits (field : String × Json) (rest : Fields)
    (h : ∀ check, known.lookup field.1 = some check → ∀ value, check value = .ok ()) :
    checkFields known (field :: rest) = checkFields known rest := by
  rw [checkFields_cons]
  cases hlookup : known.lookup field.1 with
  | none => rfl
  | some check =>
      rw [Option.elim_some, h check hlookup]
      rfl

/-- **Setting a field that fits in any case is no matter for the rest**: it is as if the field were
not there. -/
theorem checkFields_set {name : String}
    (h : ∀ check, known.lookup name = some check → ∀ value, check value = .ok ())
    (value : Json) (fields : Fields) :
    checkFields known (Fields.set name value fields) =
      checkFields known (fields.without name) := by
  have hwithout (fields : Fields) :
      checkFields known (fields.without name) = checkFields known fields := by
    induction fields with
    | nil => rfl
    | cons field rest ih =>
        rw [Fields.without_cons]
        split
        · rename_i hname
          rw [ih, checkFields_cons_of_fits field rest (hname ▸ h)]
        · rw [checkFields_cons, checkFields_cons, ih]
  rw [hwithout]
  induction fields with
  | nil => exact checkFields_cons_of_fits (name, value) [] h
  | cons field rest ih =>
      rw [Fields.set]
      split
      · rename_i hname
        rw [checkFields_cons_of_fits (name, value) rest h,
          checkFields_cons_of_fits field rest (hname ▸ h)]
      · rw [checkFields_cons, checkFields_cons, ih]

end Json

end Rulebook
