/-
**Layers upon layers.**

Settings are merged from several layers, and a layer may be read again.  Reading it twice in a row
changes nothing, nor does laying a value over itself.  Whether the upper two of three layers may be
merged first is another matter.  A value that is no object takes away what lies below it; if it
stands between two objects, then the upper one is laid over nothing, but it would be laid over the
lower one if it had been merged with the value before.  This is the only way in which the order of
merging can be noticed.

Main definitions:

* `Rulebook.Json.Alike` — two values have objects at the same places, as far as both have values.

Main results:

* `Rulebook.Json.merge_self`, `Rulebook.Json.merge_merge_self` — the same layer again;
* `Rulebook.Json.mergeFields_assoc` — three layers of fields, if their values may be regrouped;
* `Rulebook.Json.merge_assoc_iff` — **when three layers may be regrouped**;
* `Rulebook.Json.merge_laws` — the laws of layering.
-/

import Rulebook.Proofs.Json.Paths

set_option autoImplicit false

namespace Rulebook.Json

variable {fields middle layer : Fields}

/-! ### The same layer again -/

/-- A layer without names of its own that changes no value leaves the fields as they are. -/
theorem mergeFields_eq_self (hfields : (Fields.keys fields).Nodup)
    (hlayer : (Fields.keys layer).Nodup)
    (hnames : ∀ key ∈ Fields.keys layer, key ∈ Fields.keys fields)
    (hvalues : ∀ field ∈ fields, ∀ value, Fields.get? layer field.1 = some value →
      merge field.2 value = field.2) : mergeFields fields layer = fields := by
  have hold : fields.map (overlaid layer) = fields := by
    refine (List.map_congr_left fun field hfield => ?_).trans (List.map_id fields)
    cases hget : Fields.get? layer field.1 with
    | none => exact overlaid_of_none hget
    | some value => rw [overlaid, hget, Option.elim_some, hvalues field hfield value hget, id]
  have hnew : (layer.filter fun field => field.1 ∉ Fields.keys fields) = [] := by
    refine List.filter_eq_nil_iff.mpr fun field hfield hnot => ?_
    exact of_decide_eq_true hnot (hnames field.1 (List.mem_map_of_mem hfield))
  rw [mergeFields_eq hfields hlayer, hold, hnew, List.append_nil]

/-- A value laid over itself stays as it is. -/
theorem merge_self {value : Json} (h : value.UniqueKeys) : merge value value = value := by
  induction value using object_induction with
  | plain value hplain => exact merge_of_not_isObject value value (Or.inl hplain)
  | object fields ih =>
      obtain ⟨hfields, hvalues⟩ := uniqueKeys_object_iff.mp h
      rw [merge_object_object, mergeFields_eq_self hfields hfields fun _ hkey => hkey]
      intro field hfield value hget
      rw [Fields.get?_of_mem hfields hfield] at hget
      cases hget
      exact ih field hfield (hvalues field hfield)

/-- The same layer a second time changes nothing. -/
theorem merge_merge_self {base layer : Json} (hbase : base.UniqueKeys)
    (hlayer : layer.UniqueKeys) : merge (merge base layer) layer = merge base layer := by
  induction base using object_induction generalizing layer with
  | plain base hplain =>
      rw [merge_of_not_isObject base layer (Or.inl hplain), merge_self hlayer]
  | object fields ih =>
      by_cases hobject : layer.isObject = true
      · obtain ⟨new, rfl⟩ := exists_of_isObject hobject
        obtain ⟨hfields, hvalues⟩ := uniqueKeys_object_iff.mp hbase
        obtain ⟨hnew, hnewValues⟩ := uniqueKeys_object_iff.mp hlayer
        rw [merge_object_object, merge_object_object,
          mergeFields_eq_self (nodup_keys_mergeFields hfields hnew) hnew
            fun key hkey => (mem_keys_mergeFields hfields hnew key).mpr (Or.inr hkey)]
        intro field hfield value hget
        rw [mergeFields_eq hfields hnew, List.mem_append] at hfield
        rcases hfield with hold | honly
        · -- A field that was there had the value laid over it once before.
          obtain ⟨old, hmem, rfl⟩ := List.mem_map.mp hold
          have hvalue : Fields.get? new old.1 = some value := hget
          rw [overlaid, hvalue, Option.elim_some]
          exact ih old hmem (hvalues old hmem) (hlayer.of_get? hvalue)
        · have hmem := (List.mem_filter.mp honly).1
          rw [Fields.get?_of_mem hnew hmem] at hget
          cases hget
          exact merge_self (hnewValues field hmem)
      · have hplain := Bool.eq_false_iff.mpr hobject
        rw [merge_of_not_isObject _ layer (Or.inr hplain),
          merge_of_not_isObject _ layer (Or.inr hplain)]

/-! ### Three layers -/

/-- A field under three layers: what the upper two say may be put together first, if their values
for the field may. -/
theorem overlaid_overlaid (hlayer : (Fields.keys layer).Nodup) {field : String × Json}
    (h : ∀ between upper, Fields.get? middle field.1 = some between →
      Fields.get? layer field.1 = some upper →
        merge (merge field.2 between) upper = merge field.2 (merge between upper)) :
    overlaid layer (overlaid middle field) = overlaid (mergeFields middle layer) field := by
  rw [overlaid, overlaid, overlaid, get?_mergeFields hlayer]
  cases hupper : Fields.get? layer field.1 with
  | none => rfl
  | some upper =>
      cases hbetween : Fields.get? middle field.1 with
      | none => rfl
      | some between => simp only [Option.elim_some, h between upper hbetween hupper]

/-- **Three layers of fields**: the upper two may be merged first, if this can be done with their
values for each of the lower fields. -/
theorem mergeFields_assoc (hfields : (Fields.keys fields).Nodup)
    (hmiddle : (Fields.keys middle).Nodup) (hlayer : (Fields.keys layer).Nodup)
    (h : ∀ field ∈ fields, ∀ between upper, Fields.get? middle field.1 = some between →
      Fields.get? layer field.1 = some upper →
        merge (merge field.2 between) upper = merge field.2 (merge between upper)) :
    mergeFields (mergeFields fields middle) layer =
      mergeFields fields (mergeFields middle layer) := by
  have hlower : (fields.map (overlaid middle)).map (overlaid layer) =
      fields.map (overlaid (mergeFields middle layer)) := by
    rw [List.map_map]
    exact List.map_congr_left fun field hfield => overlaid_overlaid hlayer (h field hfield)
  have hbetween : (middle.filter fun field => field.1 ∉ Fields.keys fields).map (overlaid layer) =
      (middle.map (overlaid layer)).filter fun field => field.1 ∉ Fields.keys fields := by
    rw [List.filter_map]
    rfl
  have hupper : (layer.filter fun field => field.1 ∉ Fields.keys (mergeFields fields middle)) =
      (layer.filter fun field => field.1 ∉ Fields.keys middle).filter
        fun field => field.1 ∉ Fields.keys fields := by
    rw [List.filter_filter]
    refine List.filter_congr fun field _ => ?_
    rw [← Bool.decide_and, decide_eq_decide, mem_keys_mergeFields hfields hmiddle, not_or]
  calc mergeFields (mergeFields fields middle) layer
      = (mergeFields fields middle).map (overlaid layer) ++
          layer.filter fun field => field.1 ∉ Fields.keys (mergeFields fields middle) :=
        mergeFields_eq (nodup_keys_mergeFields hfields hmiddle) hlayer
    _ = fields.map (overlaid (mergeFields middle layer)) ++
          (mergeFields middle layer).filter fun field => field.1 ∉ Fields.keys fields := by
        rw [hupper, mergeFields_eq hfields hmiddle, List.map_append, hlower, hbetween,
          mergeFields_eq hmiddle hlayer, List.filter_append, List.append_assoc]
    _ = mergeFields fields (mergeFields middle layer) :=
        (mergeFields_eq hfields (nodup_keys_mergeFields hmiddle hlayer)).symm

/-- **Three layers may be regrouped exactly if no value that is not an object stands between two
objects** at any path, unless the upper object says all that the lower one does. -/
theorem merge_assoc_iff {a b c : Json} (ha : a.UniqueKeys) (hb : b.UniqueKeys)
    (hc : c.UniqueKeys) :
    merge (merge a b) c = merge a (merge b c) ↔
      ∀ path lower between upper, a.atPath? path = some (.object lower) →
        b.atPath? path = some between → between.isObject = false →
        c.atPath? path = some (.object upper) → mergeFields lower upper = upper := by
  constructor
  · intro hassoc path lower between upper hlower hbetween hplain hupper
    have hbc : (merge b c).atPath? path = some (.object upper) := by
      rw [atPath?_merge_of_not_blocks hc (not_blocks_of_atPath? hupper), hupper, hbetween,
        Option.elim_some, Option.elim_some, merge_of_not_isObject between _ (Or.inl hplain)]
    have hab : (merge a b).atPath? path = some between := by
      rw [atPath?_merge_of_not_blocks hb (not_blocks_of_atPath? hbetween), hbetween, hlower,
        Option.elim_some, Option.elim_some, merge_of_not_isObject _ between (Or.inr hplain)]
    have hleft : (merge (merge a b) c).atPath? path = some (.object upper) := by
      rw [atPath?_merge_of_not_blocks hc (not_blocks_of_atPath? hupper), hupper, hab,
        Option.elim_some, Option.elim_some, merge_of_not_isObject between _ (Or.inl hplain)]
    have hright : (merge a (merge b c)).atPath? path =
        some (.object (mergeFields lower upper)) := by
      rw [atPath?_merge_of_not_blocks (uniqueKeys_merge hb hc) (not_blocks_of_atPath? hbc), hbc,
        hlower, Option.elim_some, Option.elim_some, merge_object_object]
    rw [← hassoc, hleft] at hright
    exact (Json.object.inj (Option.some.inj hright)).symm
  · intro h
    induction a using object_induction generalizing b c with
    | plain a hplain =>
        rw [merge_of_not_isObject a b (Or.inl hplain), merge_of_not_isObject a _ (Or.inl hplain)]
    | object fields ih =>
        by_cases hupper : c.isObject = true
        · obtain ⟨layer, rfl⟩ := exists_of_isObject hupper
          by_cases hbetween : b.isObject = true
          · obtain ⟨middle, rfl⟩ := exists_of_isObject hbetween
            obtain ⟨hfields, hvalues⟩ := uniqueKeys_object_iff.mp ha
            simp only [merge_object_object]
            refine congrArg Json.object (mergeFields_assoc hfields
              (uniqueKeys_object_iff.mp hb).1 (uniqueKeys_object_iff.mp hc).1
              fun field hfield between upper hmiddle hlayer => ?_)
            refine ih field hfield (hvalues field hfield) (hb.of_get? hmiddle) (hc.of_get? hlayer)
              fun path => ?_
            -- What stands at a path below the field stands at the longer path below the object.
            have hpath := h (field.1 :: path)
            rwa [atPath?_object_cons, atPath?_object_cons, atPath?_object_cons,
              Fields.get?_of_mem hfields hfield, hmiddle, hlayer] at hpath
          · have hplain := Bool.eq_false_iff.mpr hbetween
            rw [merge_of_not_isObject _ b (Or.inr hplain),
              merge_of_not_isObject b _ (Or.inl hplain), merge_object_object,
              h [] fields b layer rfl rfl hplain rfl]
        · have hplain := Bool.eq_false_iff.mpr hupper
          simp only [merge_of_not_isObject _ c (Or.inr hplain)]

/-! ### The laws -/

/-- At no path does one of two values have an object where the other one has another value. -/
def Alike (a b : Json) : Prop :=
  ∀ path x y, a.atPath? path = some x → b.atPath? path = some y → x.isObject = y.isObject

theorem Alike.refl (a : Json) : a.Alike a := by
  intro path x y hx hy
  rw [hx] at hy
  rw [Option.some.inj hy]

theorem Alike.symm {a b : Json} (h : a.Alike b) : b.Alike a :=
  fun path x y hx hy => (h path y x hy hx).symm

theorem alike_of_not_isObject {a b : Json} (ha : a.isObject = false) (hb : b.isObject = false) :
    a.Alike b := by
  intro path x y hx hy
  cases path with
  | nil =>
      rw [← Option.some.inj hx, ← Option.some.inj hy, ha, hb]
  | cons key rest =>
      rw [atPath?_cons_of_not_isObject ha] at hx
      cases hx

/-- Objects are alike if their values are under each name that both have. -/
theorem alike_object (h : ∀ field ∈ fields, ∀ value, Fields.get? layer field.1 = some value →
    field.2.Alike value) : (Json.object fields).Alike (.object layer) := by
  intro path x y hx hy
  cases path with
  | nil => rw [← Option.some.inj hx, ← Option.some.inj hy, isObject, isObject]
  | cons key rest =>
      obtain ⟨a, ha, hx⟩ := Option.bind_eq_some_iff.mp hx
      obtain ⟨b, hb, hy⟩ := Option.bind_eq_some_iff.mp hy
      exact h (key, a) (Fields.mem_of_get? ha) b hb rest x y hx hy

/-- **The laws of layering.**  A layer that is merged twice in a row changes nothing the second
time, a value laid over itself stays as it is, and three layers may be merged in either grouping,
if no path leads to an object in one of them and to another value in another one. -/
theorem merge_laws {a b c : Json} (ha : a.UniqueKeys) (hb : b.UniqueKeys) (hc : c.UniqueKeys) :
    merge (merge a b) b = merge a b ∧ merge a a = a ∧
      ((∀ x ∈ [a, b, c], ∀ y ∈ [a, b, c], x.Alike y) →
        merge (merge a b) c = merge a (merge b c)) := by
  refine ⟨merge_merge_self ha hb, merge_self ha, fun halike => ?_⟩
  refine (merge_assoc_iff ha hb hc).mpr fun path lower between upper hlower hbetween hplain _ => ?_
  have hsame := halike a (by simp) b (by simp) path _ _ hlower hbetween
  rw [hplain] at hsame
  cases hsame

/-- A layer that adds a tool. -/
def addedTool : Json :=
  .object [("static_analysis", .object [("valgrind", .bool true)]), ("version", .string "2")]

/-- A layer that takes a tool away, and the categories. -/
def lessTools : Json :=
  .object [("version", .string "3"), ("static_analysis", .object [("clang_tidy", .bool false)]),
    ("categories", .null)]

/-- The laws for the settings of a project and two layers that fit them. -/
theorem projectSettings_layered :
    projectSettings.UniqueKeys ∧ addedTool.UniqueKeys ∧ lessTools.UniqueKeys ∧
      (∀ x ∈ [projectSettings, addedTool, lessTools],
        ∀ y ∈ [projectSettings, addedTool, lessTools], x.Alike y) ∧
      merge (merge projectSettings addedTool) addedTool = merge projectSettings addedTool ∧
      merge projectSettings projectSettings = projectSettings ∧
      merge (merge projectSettings addedTool) lessTools =
        merge projectSettings (merge addedTool lessTools) := by
  have hsettings : projectSettings.UniqueKeys := by
    simp only [projectSettings, UniqueKeys, UniqueKeysFields, UniqueKeysList]
    decide +kernel
  have hadded : addedTool.UniqueKeys := by
    simp only [addedTool, UniqueKeys, UniqueKeysFields]
    decide +kernel
  have hless : lessTools.UniqueKeys := by
    simp only [lessTools, UniqueKeys, UniqueKeysFields]
    decide +kernel
  have hfirst : projectSettings.Alike addedTool := by
    have htools : (object [("clang_tidy", bool true), ("cppcheck", bool false)]).Alike
        (object [("valgrind", bool true)]) := alike_object (by simp [Fields.get?_cons])
    exact alike_object (by simpa +contextual [Fields.get?_cons] using htools)
  have hsecond : projectSettings.Alike lessTools := by
    have htool : (bool true).Alike (bool false) := alike_of_not_isObject rfl rfl
    have htools : (object [("clang_tidy", bool true), ("cppcheck", bool false)]).Alike
        (object [("clang_tidy", bool false)]) := alike_object (by simp [Fields.get?_cons, htool])
    have hcategories : (array [string "systems"]).Alike null := alike_of_not_isObject rfl rfl
    exact alike_object (by simpa +contextual [Fields.get?_cons] using ⟨hcategories, htools⟩)
  have hthird : addedTool.Alike lessTools := by
    have htools : (object [("valgrind", bool true)]).Alike (object [("clang_tidy", bool false)]) :=
      alike_object (by simp [Fields.get?_cons])
    have hversion : (string "2").Alike (string "3") := alike_of_not_isObject rfl rfl
    exact alike_object (by simpa +contextual [Fields.get?_cons] using ⟨htools, hversion⟩)
  have halike : ∀ x ∈ [projectSettings, addedTool, lessTools],
      ∀ y ∈ [projectSettings, addedTool, lessTools], x.Alike y := by
    simp [Alike.refl, hfirst, hsecond, hthird, hfirst.symm, hsecond.symm, hthird.symm]
  obtain ⟨hagain, hself, hgrouped⟩ := merge_laws hsettings hadded hless
  exact ⟨hsettings, hadded, hless, halike, hagain, hself, hgrouped halike⟩

end Rulebook.Json
