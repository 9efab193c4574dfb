/-
**Overrides survive being written as settings.**

A collection is written as a part of a configuration by reducing each group to its net effect and
putting that down in one of four places: the state of a universal rule, the list of enabled rules,
the severities or the records of a section.  Reading the part back gives a collection with other
groups, but for every rule and every category it leaves the same net effect, and so it acts on
rules in the same way.

Since every group is read back in its normal form (`Rulebook.Override.normal`), which has the net
effect of the group, what the part says about a rule for a category is what the group of the two
leaves (`Rulebook.Overrides.tells_fragment`).  What remains is that the part, written as a value, is
read back as it was.

Main definitions:

* `Rulebook.Fragment.tells` — what a part of a configuration says.

Main results:

* `Rulebook.Fragment.ofJson_toJson` — a part of a configuration is read back;
* `Rulebook.Overrides.applyLayered_of_reread` — **a collection that is written and read back acts
  on every rule as before**.
-/

import Rulebook.Proofs.Configuration.Decoding
import Rulebook.Proofs.Override.Places

set_option autoImplicit false

namespace Rulebook

open Override (netEffect NetEffect)

/-! ### What a part says -/

namespace Fragment

/-- What a part says about a rule for a category. -/
def tells (f : Fragment) (ruleId : String) (c : Category) : NetEffect :=
  f.toConfiguration.tells ruleId c

end Fragment

/-- **What is written of a collection says what the collection leaves.** -/
theorem Overrides.tells_fragment {os : Overrides} (h : os.WellKept) (ruleId : String)
    (c : Category) : os.fragment.tells ruleId c = netEffect (os.get ruleId c) := by
  rw [Fragment.tells, ← netEffect_get_ofConfiguration, get_toConfiguration_fragment h,
    Override.netEffect_normal]

/-! ### Reading back -/

namespace Fragment

variable {f : Fragment} {fields : Fields}

/-- What the object of a part has under a name. -/
theorem get?_fields (hfields : f.toJson = .object fields) (name : String) :
    Fields.get? fields name =
      if f.universalRules.isEmpty = false ∧ "universal_rules" = name then
        some (Json.ofMap RuleState.toJson f.universalRules)
      else if f.sections.isEmpty = false ∧ "category_overrides" = name then
        some (Configuration.sectionsToJson f.sections)
      else none := by
  obtain rfl := Json.object.inj hfields
  rw [Json.get?_fieldUnless_append, ← List.append_nil (Json.fieldUnless _ _ _),
    Json.get?_fieldUnless_append, Fields.get?_nil]

theorem mem_fields (hfields : f.toJson = .object fields) {field : String × Json}
    (h : field ∈ fields) :
    field = ("universal_rules", Json.ofMap RuleState.toJson f.universalRules) ∨
      field = ("category_overrides", Configuration.sectionsToJson f.sections) := by
  obtain rfl := Json.object.inj hfields
  rcases List.mem_append.1 h with h | h
  · exact Or.inl (Json.mem_fieldUnless h)
  · exact Or.inr (Json.mem_fieldUnless h)

/-- The states of a part are read back. -/
theorem states_reread (f : Fragment) :
    Json.asMap RuleState.ofJson (Json.ofMap RuleState.toJson f.universalRules) =
      .ok f.universalRules :=
  Json.asMap_ofMap f.universalRules fun _ s _ => s.ofJson_toJson

/-- The sections of a part are read back. -/
theorem Plain.sections_reread (h : f.Plain) :
    Configuration.readSections (Configuration.sectionsToJson f.sections) = f.sections := by
  refine Configuration.readSections_sectionsToJson f.sections fun c s hget => ?_
  refine CategorySection.flagsApart_of_flags_eq_empty ?_
  have hplain := (h c).2
  rwa [sectionOf, hget] at hplain

/-- **A part of a configuration is read back**: what it does not mention is standard. -/
theorem ofJson_toJson (h : f.Plain) : Configuration.ofJson f.toJson = .ok f.toConfiguration := by
  obtain ⟨fields, hfields⟩ : ∃ fields, f.toJson = .object fields := ⟨_, rfl⟩
  have hnone {α : Type} (read : Json.Decoder α) (default : α) {name : String}
      (hstate : "universal_rules" ≠ name) (hcategory : "category_overrides" ≠ name) :
      Json.Record.optional ⟨fields, .missing⟩ name read default = .ok default :=
    Json.Record.optional_of_none (by simp [get?_fields hfields, hstate, hcategory])
  have huniversal : Json.Record.optional ⟨fields, .missing⟩ "universal_rules"
      (Json.asMap RuleState.ofJson) .empty = .ok f.universalRules :=
    Json.Record.optional_eq_ok (by simp [get?_fields hfields]) f.states_reread
      f.universalRules.isEmpty_iff.1
  have hoverrides : Json.Record.optional ⟨fields, .missing⟩ "category_overrides"
      (fun v => .ok (Configuration.readSections v)) .empty = .ok f.sections :=
    Json.Record.optional_eq_ok (by simp [get?_fields hfields])
      (congrArg Except.ok h.sections_reread) f.sections.isEmpty_iff.1
  rw [hfields, Configuration.ofJson, Json.Record.read_object]
  · simp only [bind, Except.bind]
    rw [hnone _ _ (by decide) (by decide), hnone _ _ (by decide) (by decide),
      hnone _ _ (by decide) (by decide), huniversal, hoverrides,
      hnone _ _ (by decide) (by decide), hnone _ _ (by decide) (by decide)]
    rfl
  · -- The two fields that may be there are of the right form, so reading finds no fault with them.
    refine Json.checkFields_eq_ok fun field hfield check hcheck => ?_
    obtain rfl | rfl := mem_fields hfields hfield
    · obtain rfl : Json.fits (Json.asMap RuleState.ofJson) = check := Option.some.inj hcheck
      rw [Json.fits, f.states_reread]
      rfl
    · obtain rfl : Json.fits Json.asAny = check := Option.some.inj hcheck
      rfl

end Fragment

namespace Overrides

/-- What is written of a collection, taken as a configuration, acts on a rule for a category as the
collection does. -/
theorem apply_toConfiguration {os : Overrides} (h : os.WellKept) (rule : Rule) (c : Category) :
    (ofConfiguration os.fragment.toConfiguration).apply rule c = os.apply rule c := by
  rw [apply_eq, apply_eq, netEffect_get_ofConfiguration, ← tells_fragment h]
  rfl

/-- **A collection that is written and read back acts on every rule as before**, whatever overrides
were added to those of whatever configuration: reading succeeds, and for every rule the collection
that is read has the effect of the one that was written, for any list of categories layered one on
the other and for any single category. -/
theorem applyLayered_of_reread (config : Configuration) (added : List Override) :
    ∃ settings : Configuration,
      Configuration.ofJson ((ofConfiguration config).addAll added).fragment.toJson =
        .ok settings ∧
      (∀ (rule : Rule) (categories : List Category),
        (ofConfiguration settings).applyLayered rule categories =
          ((ofConfiguration config).addAll added).applyLayered rule categories) ∧
      ∀ (rule : Rule) (c : Category),
        (ofConfiguration settings).apply rule c =
          ((ofConfiguration config).addAll added).apply rule c := by
  have hkept := (wellKept_ofConfiguration config).addAll added
  refine ⟨_, Fragment.ofJson_toJson (plain_fragment _), fun rule categories => ?_, fun rule c =>
    apply_toConfiguration hkept rule c⟩
  have happly : (ofConfiguration
      ((ofConfiguration config).addAll added).fragment.toConfiguration).apply =
        ((ofConfiguration config).addAll added).apply := by
    funext rule c
    exact apply_toConfiguration hkept rule c
  rw [applyLayered, applyLayered, happly]

end Overrides

end Rulebook
