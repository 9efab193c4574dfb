/-
**Pages.**

A report is made of lines, each of which ends with a line feed.

Main definitions:

* `Rulebook.Text.page` — the text of a list of lines;
* `Rulebook.Text.commaList` — texts with commas between them;
* `Rulebook.Text.braced` — a text between braces.
-/

set_option autoImplicit false

namespace Rulebook.Text

/-- The text of a list of lines, each with a line feed after it. -/
def page : List String → String
  | [] => ""
  | line :: rest => line ++ "\n" ++ page rest

@[simp] theorem page_nil : page [] = "" := rfl

@[simp] theorem page_cons (line : String) (rest : List String) :
    page (line :: rest) = line ++ "\n" ++ page rest := rfl

/-- Texts with a comma and a space between them. -/
def commaList (texts : List String) : String := ", ".intercalate texts

/-- A text between braces. -/
def braced (inside : String) : String := String.ofList ('{' :: (inside.toList ++ ['}']))

end Rulebook.Text
