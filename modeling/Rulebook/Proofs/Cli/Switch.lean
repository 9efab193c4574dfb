/-
**Switches.**

The options of a command come in any order, so a switch is understood wherever it stands, unless it
stands after two hyphens, where there are operands only.  It cannot be mistaken for the value of
another option: such a value does not begin with a hyphen.

Main results:

* `Rulebook.Cli.Arguments.has_of_mem_takeWhile` — **a switch is understood wherever it stands**;
* `Rulebook.Cli.withUser_eq_false` — so is the one that leaves out the settings of the user.
-/

import Rulebook.Cli.Command

set_option autoImplicit false

namespace Rulebook.Cli

/-! ### Arguments -/

theorem Argument.eq_of_ofText_eq_separator {text : String} (h : Argument.ofText text = .separator) :
    text = "--" := by
  unfold Argument.ofText at h
  split at h
  · rename_i heq
    rw [← String.ofList_toList (s := text), heq]
  · split at h <;> cases h
  · cases h
  · cases h

namespace Arguments

@[simp] theorem has_withOption (name value : String) (given : Arguments) (other : String) :
    (given.withOption name value).has other = (name == other || given.has other) := by
  cases h : name == other <;> simp [has, values, withOption, h]

@[simp] theorem has_withOperand (text : String) (given : Arguments) (other : String) :
    (given.withOperand text).has other = given.has other := rfl

theorem mem_of_mem_takeWhile_cons {p : String → Bool} {text first : String} {rest : List String}
    (h : text ∈ (first :: rest).takeWhile p) : text = first ∨ text ∈ rest.takeWhile p := by
  rw [List.takeWhile_cons] at h
  split at h
  · exact List.mem_cons.mp h
  · cases h

/-- **A switch is understood wherever it stands** in front of two hyphens. -/
theorem has_of_mem_takeWhile {parameters : List Parameter} {p : Parameter} {text : String}
    (htext : Argument.ofText text = .named p.name none)
    (hfind : (Argument.named p.name none).option? parameters = some (p, none))
    (hswitch : p.arity = .switch) {texts : List String} {given : Arguments}
    (hread : readAll? parameters texts = some given)
    (hmem : text ∈ texts.takeWhile (· ≠ "--")) : given.has p.name = true := by
  -- The induction follows the reading: the first argument ends the options, is an operand, or is an
  -- option whose value stands in it, is missing, or is the next argument.
  fun_induction readAll? parameters texts generalizing given with
  | case1 => cases hmem
  | case2 first rest hfirst =>
      rw [Argument.eq_of_ofText_eq_separator hfirst] at hmem
      cases hmem
  | case3 first rest hfirst ih =>
      obtain ⟨done, hdone, rfl⟩ := Option.map_eq_some_iff.mp hread
      rcases mem_of_mem_takeWhile_cons hmem with rfl | hmem
      · rw [htext] at hfirst
        cases hfirst
      · rw [has_withOperand]
        exact ih hdone hmem
  | case4 | case5 | case8 | case10 => cases hread
  | case6 first rest other value harity _ _ hfirst ih =>
      obtain ⟨done, hdone, rfl⟩ := Option.map_eq_some_iff.mp hread
      rcases mem_of_mem_takeWhile_cons hmem with rfl | hmem
      · rw [htext, hfind] at hfirst
        cases hfirst
      · rw [has_withOption, ih hdone hmem, Bool.or_true]
  | case7 first rest other harity _ _ hfirst ih =>
      obtain ⟨done, hdone, rfl⟩ := Option.map_eq_some_iff.mp hread
      rcases mem_of_mem_takeWhile_cons hmem with rfl | hmem
      · -- This is the switch.
        rw [htext, hfind] at hfirst
        cases hfirst
        rw [has_withOption, beq_self_eq_true, Bool.true_or]
      · rw [has_withOption, ih hdone hmem, Bool.or_true]
  | case9 first other harity value rest hvalue _ _ hfirst ih =>
      obtain ⟨done, hdone, rfl⟩ := Option.map_eq_some_iff.mp hread
      rcases mem_of_mem_takeWhile_cons hmem with rfl | hmem
      · rw [htext, hfind] at hfirst
        cases hfirst
        exact absurd hswitch harity
      · rcases mem_of_mem_takeWhile_cons hmem with rfl | hmem
        · -- The value of an option does not begin with a hyphen.
          rw [htext] at hvalue
          cases hvalue
        · rw [has_withOption, ih hdone hmem, Bool.or_true]

end Arguments

/-! ### The settings of the user -/

theorem option?_noUserConfig (name : String) :
    (Argument.named "no-user-config" none).option? (workspaceParameters ++ ownParameters name) =
      some (⟨"no-user-config", .switch, none⟩, none) := rfl

/-- **A command line with the switch leaves out the settings of the user.** -/
theorem withUser_eq_false {environment : List (String × String)} {line : List String}
    {invocation : Invocation} (hread : Invocation.read? environment line = some invocation)
    (hflag : "--no-user-config" ∈ line.takeWhile (· ≠ "--")) :
    invocation.workspace.withUser = false := by
  cases line with
  | nil => cases hread
  | cons name texts =>
      simp only [Invocation.read?, Option.bind_eq_bind, Option.bind_eq_some_iff] at hread
      obtain ⟨given, hgiven, command, hcommand, workspace, hworkspace, hinvocation⟩ := hread
      have hall : Arguments.readAll? (workspaceParameters ++ ownParameters name) texts =
          some given := (Option.filter_eq_some_iff.mp hgiven).1
      have hflag : "--no-user-config" ∈ texts.takeWhile (· ≠ "--") := by
        rcases Arguments.mem_of_mem_takeWhile_cons hflag with rfl | hflag
        · -- No command has this name.
          cases hcommand
        · exact hflag
      have hhas : given.has "no-user-config" = true :=
        Arguments.has_of_mem_takeWhile (p := ⟨"no-user-config", .switch, none⟩) (by decide)
          (option?_noUserConfig name) rfl hall hflag
      split at hinvocation
      · cases hinvocation
        simp only [Arguments.workspace?, Option.bind_eq_bind, Option.bind_eq_some_iff] at hworkspace
        obtain ⟨rules, -, templates, -, settings, -, hplaces⟩ := hworkspace
        cases hplaces
        simp only [hhas, Bool.not_true]
      · cases hinvocation

end Rulebook.Cli
