/-
**Variables.**

A variable is a path between braces: letters, digits, underscores and dots, not beginning with a
digit or a dot, perhaps after an `@`.  Any other text between braces is text.

Main definitions:

* `Rulebook.Template.Variable.read?` — the variable at the beginning of a text, with its length;
* `Rulebook.Template.substitute` — a text with the values of its variables in their places.

A value is put in with a stand-in for every opening brace, so that nothing in it is taken for a
variable or a tag later; the stand-ins become braces again when a template has been rendered.
-/

import Rulebook.Template.Scope
import Rulebook.Text.Pieces

set_option autoImplicit false

namespace Rulebook.Template

/-! ### Stand-ins for braces -/

/-- The character that stands for an opening brace of a value. -/
def standIn : Char := Char.ofNat 0xE000

/-- A text with stand-ins for its opening braces. -/
def mask (s : List Char) : List Char := s.map fun c => if c = '{' then standIn else c

/-- A text with opening braces for its stand-ins. -/
def unmask (s : List Char) : List Char := s.map fun c => if c = standIn then '{' else c

@[simp] theorem mask_nil : mask [] = [] := rfl

@[simp] theorem unmask_nil : unmask [] = [] := rfl

@[simp] theorem mask_append (s t : List Char) : mask (s ++ t) = mask s ++ mask t := by simp [mask]

@[simp] theorem unmask_append (s t : List Char) : unmask (s ++ t) = unmask s ++ unmask t := by
  simp [unmask]

/-- A masked text has no opening brace. -/
theorem brace_not_mem_mask (s : List Char) : '{' ∉ mask s := by
  intro h
  obtain ⟨c, -, hc⟩ := List.mem_map.1 h
  split at hc
  · exact absurd hc (by decide)
  · contradiction

/-- Unmasking undoes masking on a text without stand-ins. -/
theorem unmask_mask {s : List Char} (h : standIn ∉ s) : unmask (mask s) = s := by
  induction s with
  | nil => rfl
  | cons c s ih =>
    simp only [List.mem_cons, not_or] at h
    simp only [mask, unmask, List.map_cons, List.map_map, List.cons.injEq] at ih ⊢
    refine ⟨?_, ih h.2⟩
    by_cases hc : c = '{'
    · simp [hc]
    · have hs : c ≠ standIn := fun e => h.1 e.symm
      simp [hc, hs]

/-! ### Reading -/

/-- Whether a character can begin a name. -/
def isNameStart (c : Char) : Bool := c.isAlpha || c == '_'

/-- Whether a character can go on with a path. -/
def isPathChar (c : Char) : Bool := c.isAlphanum || c == '_' || c == '.'

/-- The path at the beginning of a text: a character that can begin a name, and all that can go on
with a path. -/
def readPath : List Char → List Char
  | [] => []
  | c :: rest => if isNameStart c then c :: rest.takeWhile isPathChar else []

/-- The path at the beginning of a text, perhaps after an `@`. -/
def readMarkedPath : List Char → List Char
  | '@' :: rest =>
    match readPath rest with
    | [] => []
    | path => '@' :: path
  | s => readPath s

/-- The path of the variable at the beginning of a text, and the length of the variable. -/
def Variable.read? : List Char → Option (List Char × Nat)
  | '{' :: rest =>
    match readMarkedPath rest with
    | [] => none
    | path =>
      match rest.drop path.length with
      | '}' :: _ => some (path, path.length + 2)
      | _ => none
  | _ => none

/-! ### Substitution -/

/-- A piece of a text, a variable being replaced by its value. -/
def substitutePiece (context : Json) : Text.Piece (List Char) → List Char
  | .plain c => [c]
  | .token path _ => mask (displayOption (lookUp context path))

/-- A text with the values of its variables in their places. -/
def substitute (context : Json) (text : List Char) : List Char :=
  (Text.pieces Variable.read? text).flatMap (substitutePiece context)

end Rulebook.Template
