/-
**Values without a character.**

A character that is in no text of a value and in no name is not in the compact form of the value
either, if it is not one of the ASCII characters: all that writing adds is ASCII.  The renderer of
templates relies on this for the character that stands for a brace.  Braces themselves are added
around objects only; all else that writing adds comes before them in ASCII.  So in the compact form
of a value without braces every opening brace is followed by a quote or by the closing brace.

Main definitions:

* `Rulebook.Json.Lacks` — no text of the value and no name in it has the character;
* `Rulebook.Json.ObjectBraces` — the opening braces of a text are those of objects.

Main results:

* `Rulebook.Json.not_mem_compact` — the compact form does not have the character either;
* `Rulebook.Json.objectBraces_compact` — the braces of the compact form are those of objects.
-/

import Rulebook.Json.Writer
import Rulebook.Proofs.Text.Throughout

set_option autoImplicit false

namespace Rulebook

/-! ### ASCII texts -/

/-- Whether a text is made of ASCII characters that come before the braces. -/
def Text.BelowBraces (s : List Char) : Prop := ∀ c ∈ s, c.toNat < 123

namespace Text

theorem BelowBraces.not_mem {s : List Char} (h : BelowBraces s) {c : Char} (hc : 123 ≤ c.toNat) :
    c ∉ s :=
  fun hmem => absurd (h c hmem) (by omega)

theorem belowBraces_nil : BelowBraces [] := fun _ hc => absurd hc List.not_mem_nil

theorem belowBraces_append {s t : List Char} (hs : BelowBraces s) (ht : BelowBraces t) : BelowBraces (s ++ t) := by
  intro c hc
  obtain hc | hc := List.mem_append.mp hc
  · exact hs c hc
  · exact ht c hc

theorem belowBraces_cons {c : Char} {s : List Char} (hc : c.toNat < 123) (hs : BelowBraces s) :
    BelowBraces (c :: s) := by
  intro d hd
  obtain rfl | hd := List.mem_cons.mp hd
  · exact hc
  · exact hs d hd

-- Not by a search over the type `Char`, which is finite too.
instance (s : List Char) : Decidable (BelowBraces s) :=
  decidable_of_iff (s.all (·.toNat < 123) = true) (by simp [BelowBraces])

theorem belowBraces_toDigits (n : Nat) : BelowBraces (Nat.toDigits 10 n) := by
  intro c hc
  have hdigit := Nat.isDigit_of_mem_toDigits (by omega) (Nat.le_refl 10) hc
  rw [Char.isDigit, Bool.and_eq_true, decide_eq_true_eq, decide_eq_true_eq] at hdigit
  have hle : c.val.toNat ≤ 57 := UInt32.le_iff_toNat_le.mp hdigit.2
  exact Nat.lt_of_le_of_lt hle (by omega)

theorem belowBraces_replicate (n : Nat) {c : Char} (hc : c.toNat < 123) :
    BelowBraces (List.replicate n c) := by
  intro d hd
  rw [List.eq_of_mem_replicate hd]
  exact hc

end Text

/-! ### Numbers -/

namespace Binary64

open Text

theorem belowBraces_exponent (style : Style) (e : Int) : BelowBraces (style.exponent e) := by
  cases e with
  | ofNat n =>
      refine belowBraces_append ?_ (belowBraces_toDigits n)
      cases style.exponentPlus <;> intro c hc <;> simp_all
  | negSucc n => exact belowBraces_cons (by decide) (belowBraces_toDigits (n + 1))

/-- Digits with a point after the first one and an exponent. -/
theorem belowBraces_scientific (digits power : List Char) :
    BelowBraces digits → BelowBraces power →
      BelowBraces (match digits with
        | [d] => d :: 'e' :: power
        | d :: rest => d :: '.' :: rest ++ 'e' :: power
        | [] => []) := by
  intro h hpower
  have hend : BelowBraces ('e' :: power) := belowBraces_cons (by decide) hpower
  match digits, h with
  | [], h => exact h
  | [d], h => exact belowBraces_cons (h d List.mem_cons_self) hend
  | d :: d' :: rest, h =>
      have hrest : BelowBraces (d' :: rest) := fun c hc => h c (List.mem_cons_of_mem d hc)
      refine belowBraces_cons (h d List.mem_cons_self) (belowBraces_cons (by decide) ?_)
      exact belowBraces_append hrest hend

theorem belowBraces_layout (style : Style) {digits : List Char} (h : BelowBraces digits) (e : Int) :
    BelowBraces (layout style digits e) := by
  have htake (n : Nat) : BelowBraces (digits.take n) := fun c hc => h c (List.mem_of_mem_take hc)
  have hdrop (n : Nat) : BelowBraces (digits.drop n) := fun c hc => h c (List.mem_of_mem_drop hc)
  have hpoint : BelowBraces ['.', '0'] := by decide +kernel
  have hzero : BelowBraces ['0', '.'] := by decide +kernel
  simp only [layout]
  split
  · exact belowBraces_append (belowBraces_append h (belowBraces_replicate _ (by decide))) hpoint
  · split
    · exact belowBraces_append (htake _) (belowBraces_cons (by decide) (hdrop _))
    · split
      · exact belowBraces_append (belowBraces_append hzero (belowBraces_replicate _ (by decide))) h
      · exact belowBraces_scientific digits _ h (belowBraces_exponent style _)

theorem belowBraces_text (style : Style) (x : Binary64) : BelowBraces (x.text style) := by
  have hmagnitude : BelowBraces (if x.isZero then ['0', '.', '0']
      else layout style (Nat.toDigits 10 x.shortest.1) x.shortest.2) := by
    split
    · decide +kernel
    · exact belowBraces_layout style (belowBraces_toDigits _) _
  simp only [text]
  cases x.negative with
  | false => exact hmagnitude
  | true => exact belowBraces_cons (by decide) hmagnitude

end Binary64

namespace Json

open Text

theorem Number.belowBraces_text (n : Number) : BelowBraces n.text := by
  cases n with
  | int value =>
      cases value with
      | ofNat n => exact belowBraces_toDigits n
      | negSucc n => exact belowBraces_cons (by decide) (belowBraces_toDigits (n + 1))
  | float x => exact Binary64.belowBraces_text _ x

/-! ### Quoted texts -/

theorem hexDigit_lt {n : Nat} (h : n < 16) : (hexDigit n).toNat < 123 := by
  have hall : ∀ m : Fin 16, (hexDigit m).toNat < 123 := by
    decide +kernel
  exact hall ⟨n, h⟩

/-- What stands for a character between quotes is the character itself, or comes before the
braces. -/
theorem quotedChar_cases (c : Char) : quotedChar c = [c] ∨ BelowBraces (quotedChar c) := by
  have hescape {d : Char} (hd : d.toNat < 123) : BelowBraces ['\\', d] :=
    belowBraces_cons (by decide) (belowBraces_cons hd belowBraces_nil)
  by_cases hcontrol : c.toNat < 32
  · refine Or.inr ?_
    have hhigh : (hexDigit (c.toNat / 16)).toNat < 123 := hexDigit_lt (by omega)
    have hlow : (hexDigit (c.toNat % 16)).toNat < 123 := hexDigit_lt (by omega)
    have hcode : BelowBraces ['\\', 'u', '0', '0'] := by decide +kernel
    have hhex := belowBraces_append hcode (belowBraces_cons hhigh (belowBraces_cons hlow belowBraces_nil))
    unfold quotedChar
    repeat' split
    all_goals first | exact hhex | exact hescape (by decide)
  · unfold quotedChar
    repeat' split
    all_goals first | exact Or.inl rfl | exact Or.inr (hescape (by decide))

theorem not_mem_quoted {c : Char} (hc : 123 ≤ c.toNat) {s : List Char} (h : c ∉ s) :
    c ∉ quoted s := by
  intro hmem
  have hquote : c ≠ '\x22' := by
    rintro rfl
    exact absurd hc (by decide)
  simp only [quoted, List.mem_cons, List.mem_append, List.not_mem_nil, or_false, hquote,
    false_or] at hmem
  obtain ⟨d, hd, hcd⟩ := List.mem_flatMap.mp hmem
  obtain hself | hbelow := quotedChar_cases d
  · rw [hself, List.mem_singleton] at hcd
    exact h (hcd ▸ hd)
  · exact hbelow.not_mem hc hcd

/-! ### Values -/

mutual

/-- No text of the value has the character, and no name in it. -/
def Lacks (c : Char) : Json → Prop
  | .string s => c ∉ s.toList
  | .array items => LacksItems c items
  | .object fields => LacksFields c fields
  | _ => True

/-- The values lack the character. -/
def LacksItems (c : Char) : List Json → Prop
  | [] => True
  | item :: rest => item.Lacks c ∧ LacksItems c rest

/-- The names do not have the character, and the values lack it. -/
def LacksFields (c : Char) : List (String × Json) → Prop
  | [] => True
  | (key, value) :: rest => (c ∉ key.toList ∧ value.Lacks c) ∧ LacksFields c rest

end

theorem lacksItems_iff {c : Char} {items : List Json} :
    LacksItems c items ↔ ∀ item ∈ items, item.Lacks c := by
  induction items with
  | nil => simp [LacksItems]
  | cons item rest ih => simp [LacksItems, ih]

theorem lacksFields_iff {c : Char} {fields : Fields} :
    LacksFields c fields ↔ ∀ field ∈ fields, c ∉ field.1.toList ∧ field.2.Lacks c := by
  induction fields with
  | nil => simp [LacksFields]
  | cons field rest ih => simp [LacksFields, ih]

mutual

/-- **The compact form of a value has a character that is not ASCII only from the value.** -/
theorem not_mem_compact {c : Char} (hc : 128 ≤ c.toNat) :
    ∀ value : Json, value.Lacks c → c ∉ value.compact
  | .null, _ => by
      have hbelow : BelowBraces (compact .null) := by
        unfold compact
        decide +kernel
      exact hbelow.not_mem (by omega)
  | .bool b, _ => by
      have hbelow : BelowBraces (compact (.bool b)) := by
        unfold compact
        cases b <;> decide +kernel
      exact hbelow.not_mem (by omega)
  | .number n, _ => by
      unfold compact
      exact n.belowBraces_text.not_mem (by omega)
  | .string s, h => by
      unfold compact
      exact not_mem_quoted (by omega) h
  | .array items, h => by
      have hitems := not_mem_compactItems hc items h
      have hopen : c ≠ '[' := by rintro rfl; exact absurd hc (by decide)
      have hclose : c ≠ ']' := by rintro rfl; exact absurd hc (by decide)
      simp [compact, hitems, hopen, hclose]
  | .object fields, h => by
      have hfields := not_mem_compactFields hc fields h
      have hopen : c ≠ '{' := by rintro rfl; exact absurd hc (by decide)
      have hclose : c ≠ '}' := by rintro rfl; exact absurd hc (by decide)
      simp [compact, hfields, hopen, hclose]

theorem not_mem_compactItems {c : Char} (hc : 128 ≤ c.toNat) :
    ∀ items : List Json, LacksItems c items → c ∉ compactItems items
  | [], _ => List.not_mem_nil
  | [item], h => not_mem_compact hc item h.1
  | item :: second :: rest, h => by
      have hitem := not_mem_compact hc item h.1
      have hrest := not_mem_compactItems hc (second :: rest) h.2
      have hcomma : c ≠ ',' := by rintro rfl; exact absurd hc (by decide)
      simp [compactItems, hitem, hrest, hcomma]

theorem not_mem_compactFields {c : Char} (hc : 128 ≤ c.toNat) :
    ∀ fields : List (String × Json), LacksFields c fields → c ∉ compactFields fields
  | [], _ => List.not_mem_nil
  | [(key, value)], h => by
      have hkey := not_mem_quoted (by omega) h.1.1
      have hvalue := not_mem_compact hc value h.1.2
      have hcolon : c ≠ ':' := by rintro rfl; exact absurd hc (by decide)
      simp [compactFields, hkey, hvalue, hcolon]
  | (key, value) :: second :: rest, h => by
      have hkey := not_mem_quoted (by omega) h.1.1
      have hvalue := not_mem_compact hc value h.1.2
      have hrest := not_mem_compactFields hc (second :: rest) h.2
      have hcolon : c ≠ ':' := by rintro rfl; exact absurd hc (by decide)
      have hcomma : c ≠ ',' := by rintro rfl; exact absurd hc (by decide)
      simp [compactFields, hkey, hvalue, hrest, hcolon, hcomma]

end

/-! ### Braces -/

/-- Every opening brace is followed by a quote or by the closing brace, as that of an object is. -/
def ObjectBraces (s : List Char) : Prop :=
  Throughout (fun s => ∀ rest, s = '{' :: rest →
    rest.head? = some '\x22' ∨ rest.head? = some '}') s

theorem objectBraces_of_not_mem {s : List Char} (h : '{' ∉ s) : ObjectBraces s := by
  refine throughout_of_forall fun c hc t rest heq => ?_
  rw [(List.cons.inj heq).1] at hc
  exact absurd hc h

theorem ObjectBraces.cons {c : Char} {s : List Char} (hc : c ≠ '{') (h : ObjectBraces s) :
    ObjectBraces (c :: s) :=
  ⟨fun _ _ heq => absurd (List.cons.inj heq).1 hc, h⟩

theorem ObjectBraces.append {s t : List Char} (hs : ObjectBraces s) (ht : ObjectBraces t) :
    ObjectBraces (s ++ t) := throughout_append hs ht

/-- What the fields of an object begin with, up to its end. -/
theorem head?_compactFields (fields : List (String × Json)) (t : List Char) :
    (compactFields fields ++ '}' :: t).head? = some '\x22' ∨
      (compactFields fields ++ '}' :: t).head? = some '}' := by
  cases fields with
  | nil => exact Or.inr rfl
  | cons field rest =>
      cases rest with
      | nil => exact Or.inl rfl
      | cons second rest => exact Or.inl rfl

mutual

/-- **In the compact form of a value without braces, the braces are those of objects.** -/
theorem objectBraces_compact :
    ∀ value : Json, value.Lacks '{' → ObjectBraces value.compact
  | .null, _ => objectBraces_of_not_mem (by unfold compact; decide)
  | .bool b, _ => objectBraces_of_not_mem (by unfold compact; cases b <;> decide)
  | .number n, _ => by
      unfold compact
      exact objectBraces_of_not_mem (n.belowBraces_text.not_mem (by decide))
  | .string s, h => by
      unfold compact
      exact objectBraces_of_not_mem (not_mem_quoted (by decide) h)
  | .array items, h => by
      unfold compact
      have hend : ObjectBraces [']'] := objectBraces_of_not_mem (by decide)
      exact ((objectBraces_compactItems items h).append hend).cons (by decide)
  | .object fields, h => by
      unfold compact
      have hend : ObjectBraces ['}'] := objectBraces_of_not_mem (by decide)
      refine ⟨fun t rest heq => ?_, (objectBraces_compactFields fields h).append hend⟩
      rw [← (List.cons.inj heq).2, List.append_assoc]
      exact head?_compactFields fields t

theorem objectBraces_compactItems :
    ∀ items : List Json, LacksItems '{' items → ObjectBraces (compactItems items)
  | [], _ => trivial
  | [item], h => objectBraces_compact item h.1
  | item :: second :: rest, h => by
      have hrest := objectBraces_compactItems (second :: rest) h.2
      exact (objectBraces_compact item h.1).append (hrest.cons (by decide))

theorem objectBraces_compactFields :
    ∀ fields : List (String × Json), LacksFields '{' fields →
      ObjectBraces (compactFields fields)
  | [], _ => trivial
  | [(key, value)], h => by
      have hkey := objectBraces_of_not_mem (not_mem_quoted (by decide) h.1.1)
      exact hkey.append ((objectBraces_compact value h.1.2).cons (by decide))
  | (key, value) :: second :: rest, h => by
      have hkey := objectBraces_of_not_mem (not_mem_quoted (by decide) h.1.1)
      have hrest := objectBraces_compactFields (second :: rest) h.2
      have hcomma : ObjectBraces (',' :: compactFields (second :: rest)) := hrest.cons (by decide)
      have hvalue := (objectBraces_compact value h.1.2).append hcomma
      exact hkey.append (hvalue.cons (by decide))

end

end Json

end Rulebook
