/-
**Texts as bytes.**

Positions in a template are reported as offsets in its UTF-8 form, and files hold bytes that need
not be a text at all.

Main definitions:

* `Rulebook.Text.byteLength` — the number of bytes of a text in UTF-8;
* `Rulebook.Text.byteOffset` — the number of bytes before a character of a text;
* `Rulebook.Text.charOffset` — the number of characters before a byte of a text.

Main statements:

* `Rulebook.Text.byteLength_append` — lengths add up.
-/

set_option autoImplicit false

namespace Rulebook.Text

/-- The number of bytes of a text in UTF-8. -/
def byteLength : List Char → Nat
  | [] => 0
  | c :: rest => c.utf8Size + byteLength rest

@[simp] theorem byteLength_nil : byteLength [] = 0 := rfl

@[simp] theorem byteLength_cons (c : Char) (s : List Char) :
    byteLength (c :: s) = c.utf8Size + byteLength s := rfl

@[simp] theorem byteLength_append (s t : List Char) :
    byteLength (s ++ t) = byteLength s + byteLength t := by
  induction s with
  | nil => simp
  | cons c s ih => simp [ih, Nat.add_assoc]

/-- The number of bytes before the character at a place, counted in characters. -/
def byteOffset (s : List Char) (place : Nat) : Nat := byteLength (s.take place)

/-- The number of characters that lie wholly within the first `bytes` bytes. -/
def charOffset : List Char → Nat → Nat
  | [], _ => 0
  | c :: rest, bytes => if bytes < c.utf8Size then 0 else 1 + charOffset rest (bytes - c.utf8Size)

end Rulebook.Text
