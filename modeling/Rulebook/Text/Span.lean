/-
**Spans of a text.**

A span is the part of a text from one place up to another.  Within the program places count
characters; what is reported counts the bytes of the UTF-8 form.

Main definitions:

* `Rulebook.Span` — spans, with `contains`;
* `Rulebook.Text.slice` — the characters of a span;
* `Rulebook.Span.inBytes` — a span in bytes.
-/

import Rulebook.Text.Bytes

set_option autoImplicit false

namespace Rulebook

/-- The part of a text from `start` up to `stop`. -/
structure Span where
  /-- The first place of the part. -/
  start : Nat
  /-- The first place after it. -/
  stop : Nat
  deriving DecidableEq, Repr

namespace Span

/-- Whether a span lies within another. -/
def contains (outer inner : Span) : Bool :=
  decide (outer.start ≤ inner.start) && decide (inner.stop ≤ outer.stop)

theorem contains_iff (outer inner : Span) :
    outer.contains inner = true ↔ outer.start ≤ inner.start ∧ inner.stop ≤ outer.stop := by
  simp [contains]

/-- A span of characters as a span of bytes. -/
def inBytes (text : List Char) (span : Span) : Span :=
  ⟨Text.byteOffset text span.start, Text.byteOffset text span.stop⟩

end Span

/-- The characters of a text from one place up to another. -/
def Text.slice (s : List Char) (start stop : Nat) : List Char := (s.take stop).drop start

theorem Text.length_slice (s : List Char) (start stop : Nat) :
    (Text.slice s start stop).length = min stop s.length - start := by
  simp [Text.slice]

end Rulebook
