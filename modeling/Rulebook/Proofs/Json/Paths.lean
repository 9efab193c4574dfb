/-
**Laying one value over another, path by path.**

A layer is merged into a value object by object, and what comes of it can be said for every path of
field names on its own.  If the layer has something other than an object on the way to a path, it
has put this in the place of all that was there, so that the path leads nowhere.  Otherwise the
layer has its say about the path, laid over what was there if it has anything to say, and what was
there stays if it has not.

Main definitions:

* `Rulebook.Json.Blocks` — a value ends before a path does.

Main results:

* `Rulebook.Json.object_induction` — induction on values through the fields of objects;
* `Rulebook.Json.keys_mergeFields` — the names of two merged objects, in order;
* `Rulebook.Json.atPath?_merge_of_not_blocks` — a layer that does not block a path is laid over
  what was there at the path;
* `Rulebook.Json.uniqueKeys_merge` — merging repeats no name;
* `Rulebook.Json.atPath?_merge_cases` — **what a merged value has at each path**.
-/

import Rulebook.Proofs.Json.Merging

set_option autoImplicit false

namespace Rulebook.Json

/-! ### Values with fields -/

/-- Induction on values: what holds of a value that is no object, and of an object whenever it holds
of the values of its fields, holds of every value. -/
theorem object_induction {motive : Json → Prop}
    (plain : ∀ value, value.isObject = false → motive value)
    (object : ∀ fields : Fields, (∀ field ∈ fields, motive field.2) → motive (.object fields)) :
    ∀ value, motive value
  | .object fields => object fields fun field _ => object_induction plain object field.2
  | .null => plain .null rfl
  | .bool b => plain (.bool b) rfl
  | .number n => plain (.number n) rfl
  | .string s => plain (.string s) rfl
  | .array items => plain (.array items) rfl
termination_by value => sizeOf value
decreasing_by
  rename_i hmem
  have hfield := List.sizeOf_lt_of_mem hmem
  have hvalue : sizeOf field.2 < sizeOf field := by
    obtain ⟨key, value⟩ := field
    simp only [Prod.mk.sizeOf_spec]
    omega
  simp only [Json.object.sizeOf_spec]
  omega

theorem exists_of_isObject {value : Json} (h : value.isObject = true) :
    ∃ fields, value = .object fields := by
  cases value with
  | object fields => exact ⟨fields, rfl⟩
  | _ => cases h

theorem uniqueKeysFields_iff {fields : Fields} :
    UniqueKeysFields fields ↔ ∀ field ∈ fields, UniqueKeys field.2 := by
  induction fields with
  | nil => simp [UniqueKeysFields]
  | cons first rest ih =>
      obtain ⟨key, value⟩ := first
      rw [UniqueKeysFields, ih, List.forall_mem_cons]

theorem uniqueKeys_object_iff {fields : Fields} :
    UniqueKeys (.object fields) ↔
      (Fields.keys fields).Nodup ∧ ∀ field ∈ fields, UniqueKeys field.2 := by
  rw [UniqueKeys, uniqueKeysFields_iff]

theorem UniqueKeys.of_get? {fields : Fields} (h : UniqueKeys (.object fields)) {key : String}
    {value : Json} (hget : Fields.get? fields key = some value) : UniqueKeys value :=
  (uniqueKeys_object_iff.mp h).2 (key, value) (Fields.mem_of_get? hget)

/-! ### Names of merged objects -/

section Fields

variable {fields layer : Fields}

theorem keys_filter (p : String → Bool) (fields : Fields) :
    Fields.keys (fields.filter fun field => p field.1) = (Fields.keys fields).filter p := by
  rw [Fields.keys, Fields.keys, List.filter_map]
  rfl

/-- **The names of two merged objects**: those that were there, and then those that only the layer
has. -/
theorem keys_mergeFields (hfields : (Fields.keys fields).Nodup)
    (hlayer : (Fields.keys layer).Nodup) :
    Fields.keys (mergeFields fields layer) =
      Fields.keys fields ++ (Fields.keys layer).filter fun key => key ∉ Fields.keys fields := by
  have happend (a b : Fields) : Fields.keys (a ++ b) = Fields.keys a ++ Fields.keys b :=
    List.map_append
  rw [mergeFields_eq hfields hlayer, happend, keys_map_overlaid,
    keys_filter (fun key => decide (key ∉ Fields.keys fields))]

theorem nodup_keys_mergeFields (hfields : (Fields.keys fields).Nodup)
    (hlayer : (Fields.keys layer).Nodup) : (Fields.keys (mergeFields fields layer)).Nodup := by
  rw [keys_mergeFields hfields hlayer, List.nodup_append]
  refine ⟨hfields, hlayer.filter _, ?_⟩
  rintro key hkey other hother rfl
  exact absurd hkey (by simpa using (List.mem_filter.mp hother).2)

theorem mem_keys_mergeFields (hfields : (Fields.keys fields).Nodup)
    (hlayer : (Fields.keys layer).Nodup) (key : String) :
    key ∈ Fields.keys (mergeFields fields layer) ↔
      key ∈ Fields.keys fields ∨ key ∈ Fields.keys layer := by
  rw [keys_mergeFields hfields hlayer, List.mem_append, List.mem_filter]
  by_cases h : key ∈ Fields.keys fields <;> simp [h]

end Fields

/-- **Merging repeats no name.** -/
theorem uniqueKeys_merge {base layer : Json} (hbase : base.UniqueKeys)
    (hlayer : layer.UniqueKeys) : (merge base layer).UniqueKeys := by
  induction base using object_induction generalizing layer with
  | plain base hplain =>
      rw [merge_of_not_isObject base layer (Or.inl hplain)]
      exact hlayer
  | object fields ih =>
      by_cases hobject : layer.isObject = true
      · obtain ⟨new, rfl⟩ := exists_of_isObject hobject
        obtain ⟨hfields, hvalues⟩ := uniqueKeys_object_iff.mp hbase
        obtain ⟨hnew, hnewValues⟩ := uniqueKeys_object_iff.mp hlayer
        rw [merge_object_object, uniqueKeys_object_iff]
        refine ⟨nodup_keys_mergeFields hfields hnew, fun field hfield => ?_⟩
        rw [mergeFields_eq hfields hnew, List.mem_append] at hfield
        rcases hfield with hold | honly
        · obtain ⟨old, hmem, rfl⟩ := List.mem_map.mp hold
          rw [overlaid]
          cases hget : Fields.get? new old.1 with
          | none => exact hvalues old hmem
          | some value => exact ih old hmem (hvalues old hmem) (hlayer.of_get? hget)
        · exact hnewValues field (List.mem_filter.mp honly).1
      · rw [merge_of_not_isObject _ layer (Or.inr (Bool.eq_false_iff.mpr hobject))]
        exact hlayer

/-! ### Paths that lead nowhere -/

/-- On the way to the end of a path, but before it, the value has something that is no object. -/
def Blocks (value : Json) (path : List String) : Prop :=
  ∃ before inner, before <+: path ∧ before ≠ path ∧
    value.atPath? before = some inner ∧ inner.isObject = false

theorem not_blocks_nil (value : Json) : ¬ value.Blocks [] := by
  rintro ⟨before, inner, hprefix, hne, -⟩
  exact hne (List.prefix_nil.mp hprefix)

theorem blocks_cons_of_not_isObject {value : Json} (h : value.isObject = false) (key : String)
    (rest : List String) : value.Blocks (key :: rest) :=
  ⟨[], value, List.nil_prefix, (List.cons_ne_nil key rest).symm, rfl, h⟩

theorem atPath?_object_cons (fields : Fields) (key : String) (rest : List String) :
    atPath? (.object fields) (key :: rest) =
      (Fields.get? fields key).bind fun inner => inner.atPath? rest := rfl

/-- An object blocks what the value of the next field blocks. -/
theorem blocks_object_cons_iff {fields : Fields} {key : String} {rest : List String} :
    (Json.object fields).Blocks (key :: rest) ↔
      ∃ inner, Fields.get? fields key = some inner ∧ inner.Blocks rest := by
  constructor
  · rintro ⟨before, found, hprefix, hne, hfound, hplain⟩
    cases before with
    | nil =>
        cases hfound
        cases hplain
    | cons first before =>
        obtain ⟨rfl, hbefore⟩ := List.cons_prefix_cons.mp hprefix
        rw [atPath?_object_cons] at hfound
        obtain ⟨inner, hinner, hat⟩ := Option.bind_eq_some_iff.mp hfound
        exact ⟨inner, hinner, before, found, hbefore, fun heq => hne (by rw [heq]), hat, hplain⟩
  · rintro ⟨inner, hinner, before, found, hprefix, hne, hfound, hplain⟩
    refine ⟨key :: before, found, List.cons_prefix_cons.mpr ⟨rfl, hprefix⟩,
      fun heq => hne (List.cons.inj heq).2, ?_, hplain⟩
    rw [atPath?_object_cons, hinner]
    exact hfound

/-- A path that is blocked leads nowhere. -/
theorem atPath?_eq_none_of_blocks {value : Json} {path : List String} (h : value.Blocks path) :
    value.atPath? path = none := by
  induction path generalizing value with
  | nil => exact absurd h (not_blocks_nil value)
  | cons key rest ih =>
      cases value with
      | object fields =>
          obtain ⟨inner, hinner, hblocks⟩ := blocks_object_cons_iff.mp h
          rw [atPath?_object_cons, hinner]
          exact ih hblocks
      | _ => rfl

theorem not_blocks_of_atPath? {value inner : Json} {path : List String}
    (h : value.atPath? path = some inner) : ¬ value.Blocks path := by
  intro hblocks
  rw [atPath?_eq_none_of_blocks hblocks] at h
  cases h

theorem UniqueKeys.of_atPath? {value inner : Json} (h : value.UniqueKeys) {path : List String}
    (hat : value.atPath? path = some inner) : inner.UniqueKeys := by
  induction path generalizing value with
  | nil =>
      cases hat
      exact h
  | cons key rest ih =>
      cases value with
      | object fields =>
          rw [atPath?_object_cons] at hat
          obtain ⟨next, hnext, hrest⟩ := Option.bind_eq_some_iff.mp hat
          exact ih (h.of_get? hnext) hrest
      | _ => cases hat

/-! ### Paths of merged values -/

theorem atPath?_cons_of_not_isObject {value : Json} (h : value.isObject = false) (key : String)
    (rest : List String) : value.atPath? (key :: rest) = none :=
  atPath?_eq_none_of_blocks (blocks_cons_of_not_isObject h key rest)

/-- Behind a name of two merged objects there is what both have there, one laid over the other. -/
theorem atPath?_mergeFields_cons {fields layer : Fields} (hlayer : (Fields.keys layer).Nodup)
    (key : String) (rest : List String) :
    atPath? (.object (mergeFields fields layer)) (key :: rest) =
      ((Fields.get? layer key).elim (Fields.get? fields key) fun value =>
        some ((Fields.get? fields key).elim value fun old => merge old value)).bind
          fun inner => inner.atPath? rest := by
  rw [atPath?_object_cons, get?_mergeFields hlayer]

/-- A path that is blocked by the layer leads nowhere in the merged value either. -/
theorem blocks_merge {base layer : Json} (hlayer : layer.UniqueKeys) {path : List String}
    (h : layer.Blocks path) : (merge base layer).Blocks path := by
  induction path generalizing base layer with
  | nil => exact absurd h (not_blocks_nil layer)
  | cons key rest ih =>
      by_cases hobjects : base.isObject = true ∧ layer.isObject = true
      · obtain ⟨fields, rfl⟩ := exists_of_isObject hobjects.1
        obtain ⟨new, rfl⟩ := exists_of_isObject hobjects.2
        obtain ⟨inner, hinner, hblocks⟩ := blocks_object_cons_iff.mp h
        rw [merge_object_object, blocks_object_cons_iff,
          get?_mergeFields (uniqueKeys_object_iff.mp hlayer).1, hinner, Option.elim_some]
        refine ⟨_, rfl, ?_⟩
        cases Fields.get? fields key with
        | none => exact hblocks
        | some old => exact ih (hlayer.of_get? hinner) hblocks
      · have hplain : base.isObject = false ∨ layer.isObject = false := by
          rwa [Decidable.not_and_iff_or_not, Bool.not_eq_true, Bool.not_eq_true] at hobjects
        rw [merge_of_not_isObject base layer hplain]
        exact h

/-- **A layer that does not block a path is laid over what was there at the path.** -/
theorem atPath?_merge_of_not_blocks {base layer : Json} (hlayer : layer.UniqueKeys)
    {path : List String} (h : ¬ layer.Blocks path) :
    (merge base layer).atPath? path =
      (layer.atPath? path).elim (base.atPath? path) fun upper =>
        some ((base.atPath? path).elim upper fun lower => merge lower upper) := by
  induction path generalizing base layer with
  | nil => rfl
  | cons key rest ih =>
      have hobject : layer.isObject = true := by
        refine Bool.of_not_eq_false fun hplain => ?_
        exact h (blocks_cons_of_not_isObject hplain key rest)
      obtain ⟨new, rfl⟩ := exists_of_isObject hobject
      -- Over nothing the layer stands as it is.
      have halone (found : Option Json) :
          found.elim none (fun upper => some ((none : Option Json).elim upper
            fun lower => merge lower upper)) = found := by
        cases found <;> rfl
      by_cases hbase : base.isObject = true
      · obtain ⟨fields, rfl⟩ := exists_of_isObject hbase
        rw [merge_object_object, atPath?_mergeFields_cons (uniqueKeys_object_iff.mp hlayer).1,
          atPath?_object_cons, atPath?_object_cons]
        cases hnew : Fields.get? new key with
        | none => rfl
        | some value =>
            rw [Option.elim_some, Option.bind_some, Option.bind_some]
            cases hold : Fields.get? fields key with
            | none => rw [Option.elim_none, Option.bind_none, halone]
            | some old =>
                have hvalue : ¬ value.Blocks rest := fun hblocks =>
                  h (blocks_object_cons_iff.mpr ⟨value, hnew, hblocks⟩)
                rw [Option.elim_some, Option.bind_some, ih (hlayer.of_get? hnew) hvalue]
      · have hplain := Bool.eq_false_iff.mpr hbase
        rw [merge_of_not_isObject base _ (Or.inl hplain), atPath?_cons_of_not_isObject hplain,
          halone]

/-- **What a merged value has at each path.**  If the layer ends before the path does, there is
nothing at the path, as in the layer.  Otherwise, where the layer has a value it stands, unless both
have objects there; then there is an object with the names of the lower one, in their order, and
behind them those that only the upper one has, in theirs.  Where the layer has no value there is
what was there before.  And no object of the merged value repeats a name. -/
theorem atPath?_merge_cases {base layer : Json} (hbase : base.UniqueKeys)
    (hlayer : layer.UniqueKeys) :
    (∀ path,
      (layer.Blocks path → (merge base layer).atPath? path = layer.atPath? path) ∧
      (¬ layer.Blocks path →
        (∀ upper, layer.atPath? path = some upper →
          (∀ old new, base.atPath? path = some (.object old) → upper = .object new →
            ∃ merged, (merge base layer).atPath? path = some (.object merged) ∧
              Fields.keys merged =
                Fields.keys old ++ (Fields.keys new).filter fun key => key ∉ Fields.keys old) ∧
          ((∀ old, base.atPath? path ≠ some (.object old)) ∨ upper.isObject = false →
            (merge base layer).atPath? path = some upper)) ∧
        (layer.atPath? path = none → (merge base layer).atPath? path = base.atPath? path))) ∧
      (merge base layer).UniqueKeys := by
  refine ⟨fun path => ⟨fun hblocks => ?_, fun hopen => ⟨fun upper hupper => ⟨?_, ?_⟩, ?_⟩⟩,
    uniqueKeys_merge hbase hlayer⟩
  · rw [atPath?_eq_none_of_blocks (blocks_merge hlayer hblocks),
      atPath?_eq_none_of_blocks hblocks]
  · rintro old new hold rfl
    refine ⟨mergeFields old new, ?_, keys_mergeFields ?_ ?_⟩
    · rw [atPath?_merge_of_not_blocks hlayer hopen, hupper, hold, Option.elim_some,
        Option.elim_some, merge_object_object]
    · exact (uniqueKeys_object_iff.mp (hbase.of_atPath? hold)).1
    · exact (uniqueKeys_object_iff.mp (hlayer.of_atPath? hupper)).1
  · intro hplain
    rw [atPath?_merge_of_not_blocks hlayer hopen, hupper, Option.elim_some]
    cases hlower : base.atPath? path with
    | none => rfl
    | some lower =>
        have hsides : lower.isObject = false ∨ upper.isObject = false := by
          refine hplain.imp_left fun hnone => Bool.eq_false_iff.mpr fun hobject => ?_
          obtain ⟨old, rfl⟩ := exists_of_isObject hobject
          exact hnone old hlower
        rw [Option.elim_some, merge_of_not_isObject lower upper hsides]
  · intro hnone
    rw [atPath?_merge_of_not_blocks hlayer hopen, hnone, Option.elim_none]

/-- The settings of a project. -/
def projectSettings : Json :=
  .object [("categories", .array [.string "systems"]),
    ("static_analysis", .object [("clang_tidy", .bool true), ("cppcheck", .bool false)]),
    ("universal_rules", .object [("naming", .string "warning")])]

/-- A layer that adds a tool and changes another one, and has nothing to say about rules. -/
def toolLayer : Json :=
  .object [("universal_rules", .null),
    ("static_analysis", .object [("valgrind", .bool true), ("cppcheck", .bool true)])]

/-- The layer of tools over the settings: where both have objects, where only the settings have a
value, where the layer has one, and where the layer has ended. -/
theorem toolLayer_at_paths :
    projectSettings.UniqueKeys ∧ toolLayer.UniqueKeys ∧
      (merge projectSettings toolLayer).UniqueKeys ∧
      (∃ merged, (merge projectSettings toolLayer).atPath? ["static_analysis"] =
          some (.object merged) ∧
        Fields.keys merged = ["clang_tidy", "cppcheck", "valgrind"]) ∧
      (merge projectSettings toolLayer).atPath? ["static_analysis", "clang_tidy"] =
        some (.bool true) ∧
      (merge projectSettings toolLayer).atPath? ["static_analysis", "cppcheck"] =
        some (.bool true) ∧
      toolLayer.Blocks ["universal_rules", "naming"] ∧
      (merge projectSettings toolLayer).atPath? ["universal_rules", "naming"] = none := by
  have hlower : projectSettings.UniqueKeys := by
    simp only [projectSettings, UniqueKeys, UniqueKeysFields, UniqueKeysList]
    decide +kernel
  have hupper : toolLayer.UniqueKeys := by
    simp only [toolLayer, UniqueKeys, UniqueKeysFields]
    decide +kernel
  obtain ⟨hpaths, hunique⟩ := atPath?_merge_cases hlower hupper
  have hrule : toolLayer.Blocks ["universal_rules", "naming"] :=
    ⟨["universal_rules"], .null, by decide, by decide, rfl, rfl⟩
  have htools : ¬ toolLayer.Blocks ["static_analysis"] := not_blocks_of_atPath? rfl
  have htidy : ¬ toolLayer.Blocks ["static_analysis", "clang_tidy"] := by
    rw [toolLayer, blocks_object_cons_iff]
    rintro ⟨inner, hinner, hblocks⟩
    cases hinner
    obtain ⟨inner, hinner, -⟩ := blocks_object_cons_iff.mp hblocks
    cases hinner
  have hcheck : ¬ toolLayer.Blocks ["static_analysis", "cppcheck"] := not_blocks_of_atPath? rfl
  obtain ⟨merged, hmerged, hkeys⟩ :=
    (((hpaths ["static_analysis"]).2 htools).1 _ rfl).1 _ _ rfl rfl
  refine ⟨hlower, hupper, hunique, ⟨merged, hmerged, hkeys.trans (by decide)⟩, ?_, ?_, hrule, ?_⟩
  · exact ((hpaths ["static_analysis", "clang_tidy"]).2 htidy).2 rfl
  · exact (((hpaths ["static_analysis", "cppcheck"]).2 hcheck).1 _ rfl).2 (Or.inr rfl)
  · exact (hpaths ["universal_rules", "naming"]).1 hrule

end Rulebook.Json
