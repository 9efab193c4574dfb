/-
**Upper and lower case.**

Names of categories, severities and metadata fields are compared after mapping the letters of
ASCII only; words of a rule's prose are looked for after mapping all letters to lower case.  The
words that are looked for are ASCII, so of the second mapping only its ASCII results matter: those
of the twenty-six capital letters, of the Kelvin sign and of the capital I with a dot above.

Main definitions:

* `Rulebook.Text.toLower`, `Rulebook.Text.toUpper` — the letters of ASCII in lower or upper case;
* `Rulebook.Text.folded` — a text in lower case, for a search for ASCII words.
-/

set_option autoImplicit false

namespace Rulebook.Text

/-- A text with its ASCII letters in lower case. -/
def toLower (s : List Char) : List Char := s.map Char.toLower

/-- A text with its ASCII letters in upper case. -/
def toUpper (s : List Char) : List Char := s.map Char.toUpper

/-- Whether two texts differ at most in the case of their ASCII letters. -/
def equalsIgnoringCase (s t : List Char) : Bool := toLower s == toLower t

/-- A character in lower case, if the result is ASCII; any other character stays. -/
def foldChar (c : Char) : List Char :=
  if c.toNat = 0x212A then ['k']
  else if c.toNat = 0x130 then ['i', Char.ofNat 0x307]
  else [c.toLower]

/-- A text in lower case, as far as a search for ASCII words can tell. -/
def folded (s : List Char) : List Char := s.flatMap foldChar

@[simp] theorem folded_nil : folded [] = [] := rfl

@[simp] theorem folded_append (s t : List Char) : folded (s ++ t) = folded s ++ folded t := by
  simp [folded]

@[simp] theorem length_toLower (s : List Char) : (toLower s).length = s.length := by
  simp [toLower]

end Rulebook.Text
