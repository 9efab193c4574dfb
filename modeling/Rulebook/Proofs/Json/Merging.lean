/-
**Merging fields.**

A layer is merged field by field: each of its fields changes the field of its name in its place, or
goes to the end.  As long as no name is repeated the steps do not interfere, and the result can be
told at once: the fields that were there, each with what the layer says about it, and then the
fields that only the layer has.

Main definitions:

* `Rulebook.Json.overlaid` — a field with what a layer says about it.

Main results:

* `Rulebook.Json.get?_mergeFields` — a field after a layer was merged;
* `Rulebook.Json.mergeFields_eq` — **all fields after a layer was merged**, in order;
* `Rulebook.Json.mergeFields_of_disjoint` — a layer with other fields is put behind.
-/

import Rulebook.Json.Layer

set_option autoImplicit false

namespace Rulebook

/-! ### Names of fields -/

namespace Fields

variable {fields : Fields} {key : String}

theorem get?_eq_none_iff : get? fields key = none ↔ key ∉ keys fields := by
  induction fields with
  | nil => simp [keys]
  | cons field rest ih =>
      rw [get?_cons, keys, List.map_cons, List.mem_cons, not_or, ← keys]
      by_cases h : field.1 = key
      · simp [h]
      · simp [h, ih, Ne.symm h]

theorem get?_single_of_ne {field : String × Json} (h : field.1 ≠ key) :
    get? [field] key = none := by
  rw [get?_cons, if_neg h, get?_nil]

theorem get?_ne_none_of_mem {field : String × Json} (h : field ∈ fields) :
    get? fields field.1 ≠ none :=
  fun hnone => get?_eq_none_iff.mp hnone (List.mem_map_of_mem h)

theorem mem_of_get? {value : Json} (h : get? fields key = some value) : (key, value) ∈ fields := by
  induction fields with
  | nil => cases h
  | cons first rest ih =>
      rw [get?_cons] at h
      split at h
      · rename_i hkey
        obtain rfl := Option.some.inj h
        rw [← hkey]
        exact List.mem_cons_self
      · exact List.mem_cons_of_mem _ (ih h)

theorem get?_of_mem (h : (keys fields).Nodup) {field : String × Json} (hmem : field ∈ fields) :
    get? fields field.1 = some field.2 := by
  induction fields with
  | nil => cases hmem
  | cons first rest ih =>
      obtain ⟨hfirst, hrest⟩ := List.nodup_cons.mp h
      rw [get?_cons]
      cases hmem with
      | head => rw [if_pos rfl]
      | tail _ hmem =>
          have hne : first.1 ≠ field.1 := fun heq => hfirst (heq ▸ List.mem_map_of_mem hmem)
          rw [if_neg hne, ih hrest hmem]

/-- A new field goes to the end. -/
theorem set_of_not_mem (h : key ∉ keys fields) (value : Json) :
    set key value fields = fields ++ [(key, value)] := by
  induction fields with
  | nil => rfl
  | cons first rest ih =>
      obtain ⟨hfirst, hrest⟩ := not_or.mp (mt List.mem_cons.mpr h)
      rw [set, if_neg (Ne.symm hfirst), ih hrest, List.cons_append]

end Fields

namespace Json

theorem UniqueKeysFields.of_mem {fields : Fields} (h : UniqueKeysFields fields)
    {field : String × Json} (hmem : field ∈ fields) : UniqueKeys field.2 := by
  induction fields with
  | nil => cases hmem
  | cons first rest ih =>
      obtain ⟨hfirst, hrest⟩ := h
      cases hmem with
      | head => exact hfirst
      | tail _ hmem => exact ih hrest hmem

/-! ### One field after the other -/

variable {fields layer rest : Fields} {field other : String × Json}

theorem mergeFields_cons (fields : Fields) (field : String × Json) (rest : Fields) :
    mergeFields fields (field :: rest) =
      mergeFields (Fields.set field.1
        ((Fields.get? fields field.1).elim field.2 fun old => merge old field.2) fields) rest := by
  rw [mergeFields]
  cases Fields.get? fields field.1 <;> rfl

/-- **A field after a layer was merged.** -/
theorem get?_mergeFields (hlayer : (Fields.keys layer).Nodup) (key : String) :
    Fields.get? (mergeFields fields layer) key =
      (Fields.get? layer key).elim (Fields.get? fields key) fun value =>
        some ((Fields.get? fields key).elim value fun old => merge old value) := by
  induction layer generalizing fields with
  | nil => rw [mergeFields, Fields.get?_nil, Option.elim_none]
  | cons field rest ih =>
      obtain ⟨hfirst, hrest⟩ := List.nodup_cons.mp hlayer
      rw [mergeFields_cons, ih hrest, Fields.get?_set, Fields.get?_cons]
      by_cases h : field.1 = key
      · subst h
        have hnone : Fields.get? rest field.1 = none := Fields.get?_eq_none_iff.mpr hfirst
        simp [hnone]
      · simp [h]

/-! ### All fields at once -/

/-- A field with the value of a layer laid over its own. -/
def overlaid (layer : Fields) (field : String × Json) : String × Json :=
  (field.1, (Fields.get? layer field.1).elim field.2 (merge field.2))

theorem overlaid_of_none (h : Fields.get? layer field.1 = none) : overlaid layer field = field := by
  rw [overlaid, h, Option.elim_none]

theorem map_overlaid_of_none (h : ∀ field ∈ fields, Fields.get? layer field.1 = none) :
    fields.map (overlaid layer) = fields :=
  (List.map_congr_left fun field hfield => overlaid_of_none (h field hfield)).trans
    (List.map_id fields)

/-- If the first field of a layer has a name of its own, it is laid over a field before the rest. -/
theorem overlaid_cons (h : field.1 ∉ Fields.keys rest) (other : String × Json) :
    overlaid (field :: rest) other = overlaid rest (overlaid [field] other) := by
  by_cases hname : field.1 = other.1
  · have hnone : Fields.get? rest other.1 = none :=
      Fields.get?_eq_none_iff.mpr (hname ▸ h)
    simp [overlaid, Fields.get?_cons, hname, hnone]
  · simp [overlaid, Fields.get?_cons, hname]

@[simp] theorem keys_map_overlaid (fields layer : Fields) :
    Fields.keys (fields.map (overlaid layer)) = Fields.keys fields := by
  rw [Fields.keys, List.map_map]
  rfl

/-- A field that is there changes in its place. -/
theorem set_of_get? (hfields : (Fields.keys fields).Nodup) {old : Json}
    (hget : Fields.get? fields field.1 = some old) :
    Fields.set field.1 (merge old field.2) fields = fields.map (overlaid [field]) := by
  induction fields with
  | nil => cases hget
  | cons first rest ih =>
      obtain ⟨hfirst, hrest⟩ := List.nodup_cons.mp hfields
      rw [Fields.get?_cons] at hget
      rw [Fields.set, List.map_cons]
      by_cases h : first.1 = field.1
      · rw [if_pos h] at hget ⊢
        obtain rfl := Option.some.inj hget
        have hothers : ∀ other ∈ rest, Fields.get? [field] other.1 = none := fun other hother =>
          Fields.get?_single_of_ne fun heq => hfirst (h.trans heq ▸ List.mem_map_of_mem hother)
        rw [map_overlaid_of_none hothers]
        simp [overlaid, Fields.get?_cons, h]
      · rw [if_neg h] at hget ⊢
        rw [overlaid_of_none (Fields.get?_single_of_ne (Ne.symm h)), ih hrest hget]

/-- **All fields after a layer was merged**: those that were there, each with what the layer says
about it, and then those that only the layer has. -/
theorem mergeFields_eq (hfields : (Fields.keys fields).Nodup)
    (hlayer : (Fields.keys layer).Nodup) :
    mergeFields fields layer =
      fields.map (overlaid layer) ++ layer.filter fun field => field.1 ∉ Fields.keys fields := by
  induction layer generalizing fields with
  | nil =>
      rw [mergeFields, map_overlaid_of_none fun _ _ => rfl, List.filter_nil, List.append_nil]
  | cons field rest ih =>
      obtain ⟨hfirst, hrest⟩ := List.nodup_cons.mp hlayer
      have hmap : fields.map (overlaid (field :: rest)) =
          (fields.map (overlaid [field])).map (overlaid rest) := by
        rw [List.map_map]
        exact List.map_congr_left fun other _ => overlaid_cons hfirst other
      rw [mergeFields_cons, hmap]
      cases hget : Fields.get? fields field.1 with
      | some old =>
          have hmem : field.1 ∈ Fields.keys fields := by
            refine Decidable.by_contra fun hnot => ?_
            rw [Fields.get?_eq_none_iff.mpr hnot] at hget
            cases hget
          rw [Option.elim_some, set_of_get? hfields hget,
            ih (by rw [keys_map_overlaid]; exact hfields) hrest, keys_map_overlaid,
            List.filter_cons_of_neg (by simpa using hmem)]
      | none =>
          have hmem : field.1 ∉ Fields.keys fields := Fields.get?_eq_none_iff.mp hget
          have hkeys : Fields.keys (fields ++ [field]) = Fields.keys fields ++ [field.1] := by
            simp [Fields.keys]
          have hnodup : (Fields.keys (fields ++ [field])).Nodup := by
            rw [hkeys, List.nodup_append]
            refine ⟨hfields, by simp, ?_⟩
            rintro key hkey other hother rfl
            exact hmem (List.mem_singleton.mp hother ▸ hkey)
          have hold : ∀ other ∈ fields, Fields.get? [field] other.1 = none := fun other hother =>
            Fields.get?_single_of_ne fun heq => hmem (heq ▸ List.mem_map_of_mem hother)
          have hnew : rest.filter (fun other => other.1 ∉ Fields.keys fields ++ [field.1]) =
              rest.filter fun other => other.1 ∉ Fields.keys fields := by
            refine List.filter_congr fun other hother => ?_
            have hne : other.1 ≠ field.1 := fun heq => hfirst (heq ▸ List.mem_map_of_mem hother)
            simp [hne]
          rw [Option.elim_none, Fields.set_of_not_mem hmem, ih hnodup hrest, hkeys, hnew,
            map_overlaid_of_none hold, List.map_append, List.map_singleton,
            overlaid_of_none (Fields.get?_eq_none_iff.mpr hfirst),
            List.filter_cons_of_pos (by simpa using hmem), List.append_assoc,
            List.singleton_append]

/-- A layer with other fields is put behind. -/
theorem mergeFields_of_disjoint (hfields : (Fields.keys fields).Nodup)
    (hlayer : (Fields.keys layer).Nodup)
    (h : ∀ key, Fields.get? fields key = none ∨ Fields.get? layer key = none) :
    mergeFields fields layer = fields ++ layer := by
  have hold : fields.map (overlaid layer) = fields :=
    map_overlaid_of_none fun field hfield =>
      (h field.1).resolve_left (Fields.get?_ne_none_of_mem hfield)
  have hnew : layer.filter (fun field => field.1 ∉ Fields.keys fields) = layer := by
    refine List.filter_eq_self.mpr fun field hfield => decide_eq_true ?_
    exact Fields.get?_eq_none_iff.mp
      ((h field.1).resolve_right (Fields.get?_ne_none_of_mem hfield))
  rw [mergeFields_eq hfields hlayer, hold, hnew]

end Json

end Rulebook
