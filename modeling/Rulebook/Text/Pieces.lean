/-
**Cutting a text into tokens.**

A reader says whether a text begins with a token, which token it is, and how long it is.  Going
through a text from its beginning, the token at the place reached is taken if there is one, and
otherwise a single character.  The pieces found in this way make up the text again.

Main definitions:

* `Rulebook.Text.Piece` — a token with its source, or a single character;
* `Rulebook.Text.pieces` — the pieces of a text;
* `Rulebook.Text.placedTokens` — the tokens of a text, each with the span of its source.

Main statements:

* `Rulebook.Text.sources_pieces` — the sources of the pieces make up the text.
-/

import Rulebook.Text.Span

set_option autoImplicit false

namespace Rulebook.Text

/-- A part of a text: a single character, or the source of a token. -/
inductive Piece (α : Type) where
  /-- A character at which no token begins. -/
  | plain (c : Char)
  /-- A token and the characters that it was read from. -/
  | token (value : α) (source : List Char)
  deriving Repr

variable {α : Type}

/-- The characters of a piece. -/
def Piece.source : Piece α → List Char
  | .plain c => [c]
  | .token _ source => source

/-- The pieces of a text.  `read` gives the token at the beginning of a text and its length, which
counts as at least one. -/
def pieces (read : List Char → Option (α × Nat)) : List Char → List (Piece α)
  | [] => []
  | c :: rest =>
    match read (c :: rest) with
    | some (value, length) =>
      .token value (c :: rest.take (length - 1)) :: pieces read (rest.drop (length - 1))
    | none => .plain c :: pieces read rest
termination_by s => s.length
decreasing_by all_goals simp only [List.length_drop, List.length_cons]; omega

/-- The characters of a list of pieces. -/
def sources (ps : List (Piece α)) : List Char := ps.flatMap Piece.source

@[simp] theorem sources_nil : sources ([] : List (Piece α)) = [] := rfl

@[simp] theorem sources_cons (p : Piece α) (ps : List (Piece α)) :
    sources (p :: ps) = p.source ++ sources ps := rfl

@[simp] theorem sources_append (ps qs : List (Piece α)) :
    sources (ps ++ qs) = sources ps ++ sources qs := by
  simp [sources]

/-- The sources of the pieces make up the text. -/
theorem sources_pieces (read : List Char → Option (α × Nat)) (s : List Char) :
    sources (pieces read s) = s := by
  fun_induction pieces read s with
  | case1 => rfl
  | case2 c rest value length h ih =>
    rw [sources_cons, ih]
    simp [Piece.source]
  | case3 c rest h ih =>
    rw [sources_cons, ih]
    simp [Piece.source]

/-- The tokens among pieces that begin at a place, each with the span of its source. -/
def placed (start : Nat) : List (Piece α) → List (α × Span)
  | [] => []
  | .plain _ :: rest => placed (start + 1) rest
  | .token value source :: rest =>
    (value, ⟨start, start + source.length⟩) :: placed (start + source.length) rest

/-- The tokens of a text, each with the span of its source. -/
def placedTokens (read : List Char → Option (α × Nat)) (s : List Char) : List (α × Span) :=
  placed 0 (pieces read s)

end Rulebook.Text
