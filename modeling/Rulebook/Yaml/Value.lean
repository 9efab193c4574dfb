/-
**What YAML nodes stand for.**

A plain scalar may stand for nothing, a truth value or a number; any other scalar is a text.  Tags
of the core set ask for one of these kinds; tags of an application are kept with their node.

Settings are read as structured values: the text of a scalar that is a key is the key whatever it
stands for, a later entry of an object replaces an earlier one, and what has no counterpart — a
number that is not finite — is absent; tags of an application are refused.  The metadata of a rule
are read as an object without repeated keys, of which only what scalars stand for is used.

Main definitions:

* `Rulebook.Yaml.Value` — what nodes stand for;
* `Rulebook.Yaml.readJson?` — a text as a structured value;
* `Rulebook.Yaml.readEntries?` — a text as the entries of an object.
-/

import Rulebook.Json.Numeral
import Rulebook.Text.Search
import Rulebook.Yaml.Node

set_option autoImplicit false

namespace Rulebook.Yaml

/-! ### Scalars -/

/-- What a scalar stands for. -/
inductive Scalar where
  /-- Nothing. -/
  | null
  /-- A truth value. -/
  | bool (value : Bool)
  /-- An integer. -/
  | int (value : Int)
  /-- A finite number with a fraction or an exponent. -/
  | float (value : Binary64)
  /-- Infinity. -/
  | infinity (negative : Bool)
  /-- Not a number. -/
  | notANumber
  /-- A text. -/
  | text (value : List Char)
  deriving DecidableEq, Repr

/-- Whether a text is a nothing. -/
def isNull (s : List Char) : Bool :=
  ["", "~", "null", "Null", "NULL"].any fun word => s == word.toList

/-- The truth value that a text stands for. -/
def bool? (s : List Char) : Option Bool :=
  if ["true", "True", "TRUE"].any fun word => s == word.toList then some true
  else if ["false", "False", "FALSE"].any fun word => s == word.toList then some false
  else none

/-- A text without a plus sign at its beginning. -/
def dropPlus : List Char → List Char
  | '+' :: rest => rest
  | s => s

/-- Whether a text begins with a sign. -/
def isSigned (s : List Char) : Bool := s.head?.any fun c => c == '+' || c == '-'

/-- Whether a text is made of digits, perhaps after a sign, the first of which is a superfluous
zero.  Such a text is not a number. -/
def isPadded (s : List Char) : Bool :=
  match (Literal.splitSign s).2 with
  | '0' :: d :: rest => (d :: rest).all Char.isDigit
  | _ => false

/-- The number of a text with the prefix of a base. -/
def based? (s : List Char) : Option Nat :=
  match s with
  | '0' :: 'x' :: rest => Literal.natural? 16 rest
  | '0' :: 'o' :: rest => Literal.natural? 8 rest
  | '0' :: 'b' :: rest => Literal.natural? 2 rest
  | _ => none

/-- The natural number that a text stands for. -/
def unsigned? (s : List Char) : Option Nat :=
  let s := dropPlus s
  match based? s with
  | some n => some n
  | none => if isSigned s || isPadded s then none else Literal.natural? 10 s

/-- The negative integer that a text stands for. -/
def negative? (s : List Char) : Option Nat :=
  match s with
  | '-' :: rest =>
    match based? rest with
    | some n => some n
    | none => if isPadded s then none else Literal.natural? 10 rest
  | _ => none

/-- The integer that a text stands for, if it is an integer of at most 128 bits. -/
def int? (s : List Char) : Option Int :=
  match (unsigned? s).filter (· < Nat.pow 2 128) with
  | some n => some n
  | none => ((negative? s).filter (· ≤ Nat.pow 2 127)).map fun n => -(n : Int)

/-- Whether an integer fits into 64 bits, with or without a sign. -/
def fits (n : Int) : Bool := decide (-(Nat.pow 2 63 : Int) ≤ n) && decide (n < (Nat.pow 2 64 : Int))

/-- The number with a fraction, exponent or special name that a text stands for. -/
def float? (s : List Char) : Option Scalar :=
  let unsigned := dropPlus s
  if unsigned.length < s.length && isSigned unsigned then none
  else if [".inf", ".Inf", ".INF"].any fun word => unsigned == word.toList then
    some (.infinity false)
  else if ["-.inf", "-.Inf", "-.INF"].any fun word => s == word.toList then some (.infinity true)
  else if [".nan", ".NaN", ".NAN"].any fun word => s == word.toList then some .notANumber
  else ((Literal.float? unsigned).bind Literal.Float.finite?).map .float

/-- What a plain scalar stands for; none for an integer that is too large. -/
def plain? (s : List Char) : Option Scalar :=
  if isNull s then some .null
  else
    match bool? s with
    | some b => some (.bool b)
    | none =>
      match int? s with
      | some n => if fits n then some (.int n) else none
      | none => some (if isPadded s then .text s else (float? s).getD (.text s))

/-- A tag of the core set. -/
def coreTag (name : String) : List Char := ("tag:yaml.org,2002:" ++ name).toList

/-- Whether a tag is one of an application. -/
def isLocal (tag : Option (List Char)) : Bool :=
  match tag with
  | some ('!' :: _) => true
  | _ => false

/-- What a scalar with a tag that is not one of an application, or without one, stands for. -/
def scalar? (tag : Option (List Char)) (s : List Char) (isPlain : Bool) : Option Scalar :=
  match tag with
  | some tag =>
    if tag = coreTag "bool" then (bool? s).map .bool
    else if tag = coreTag "int" then (int? s).bind fun n => if fits n then some (.int n) else none
    else if tag = coreTag "float" then float? s
    else if tag = coreTag "null" then
      if ["~", "null", "Null", "NULL"].any fun word => s == word.toList then some .null else none
    else some (.text s)
  | none => if isPlain then plain? s else some (.text s)

/-! ### Settings -/

/-- The structured value of a scalar. -/
def Scalar.toJson : Scalar → Json
  | .null => .null
  | .bool b => .bool b
  | .int n => .number (.int n)
  | .float x => .number (.float x)
  | .infinity _ => .null
  | .notANumber => .null
  | .text s => .string (String.ofList s)

/-- The key that a node is: the text of a scalar. -/
def keyText? : Node → Option String
  | .scalar _ text _ => some (String.ofList text)
  | _ => none

mutual

/-- A node as a structured value. -/
def toJson? : Node → Option Json
  | .scalar tag text isPlain =>
    if isLocal tag then none else (scalar? tag text isPlain).map Scalar.toJson
  | .list tag items => if isLocal tag then none else (itemsToJson? items).map .array
  | .object tag entries => if isLocal tag then none else (entriesToJson? [] entries).map .object
  | .reference _ => none

/-- Nodes as structured values. -/
def itemsToJson? : List Node → Option (List Json)
  | [] => some []
  | item :: rest => do
    let value ← toJson? item
    let more ← itemsToJson? rest
    some (value :: more)

/-- Entries as fields, added to those before them. -/
def entriesToJson? (fields : List (String × Json)) :
    List (Node × Node) → Option (List (String × Json))
  | [] => some fields
  | (key, value) :: rest => do
    let key ← keyText? key
    let value ← toJson? value
    entriesToJson? (Fields.set key value fields) rest

end

/-- A text as a structured value; a text without content is absent. -/
def readJson? (text : List Char) : Option Json := do
  let d ← document? text
  match d.root with
  | none => some .null
  | some root => (d.expand? root).bind toJson?

/-! ### Metadata -/

/-- What a node stands for. -/
inductive Value where
  /-- A scalar. -/
  | scalar (value : Scalar)
  /-- A list. -/
  | list (items : List Value)
  /-- An object. -/
  | object (entries : List (Value × Value))
  /-- A value with a tag of an application. -/
  | tagged (tag : List Char) (value : Value)
  deriving BEq, Repr

/-- Whether no two entries have one key. -/
def distinctKeys : List (Value × Value) → Bool
  | [] => true
  | entry :: rest => (rest.all fun other => !(other.1 == entry.1)) && distinctKeys rest

/-- A value with the tag of its node, if that is one of an application.  The empty tag is
refused. -/
def withTag? (tag : Option (List Char)) (value : Value) : Option Value :=
  match tag with
  | some ['!'] => none
  | some ('!' :: name) => some (.tagged name value)
  | _ => some value

mutual

/-- What a node stands for. -/
def toValue? : Node → Option Value
  | .scalar tag text isPlain =>
    let untagged := if isLocal tag then none else tag
    (scalar? untagged text isPlain).bind fun s => withTag? tag (.scalar s)
  | .list tag items => (itemsToValues? items).bind fun items => withTag? tag (.list items)
  | .object tag entries =>
    (entriesToValues? entries).bind fun entries =>
      if distinctKeys entries then withTag? tag (.object entries) else none
  | .reference _ => none

/-- What nodes stand for. -/
def itemsToValues? : List Node → Option (List Value)
  | [] => some []
  | item :: rest => do
    let value ← toValue? item
    let more ← itemsToValues? rest
    some (value :: more)

/-- What the keys and values of an object stand for. -/
def entriesToValues? : List (Node × Node) → Option (List (Value × Value))
  | [] => some []
  | (key, value) :: rest => do
    let key ← toValue? key
    let value ← toValue? value
    let more ← entriesToValues? rest
    some ((key, value) :: more)

end

/-- In YAML a positive exponent carries no sign. -/
def numberStyle : Binary64.Style := ⟨false⟩

/-- A scalar as text; none for nothing. -/
def Scalar.text? : Scalar → Option (List Char)
  | .null => none
  | .bool b => some (if b then "true".toList else "false".toList)
  | .int n => some (Json.Number.integerText n)
  | .float x => some (x.text numberStyle)
  | .infinity negative => some (if negative then "-.inf".toList else ".inf".toList)
  | .notANumber => some ".nan".toList
  | .text s => some s

/-- A value as text, if it is a scalar. -/
def Value.text? : Value → Option (List Char)
  | .scalar s => s.text?
  | _ => none

/-- The entries of the object that a text holds.  A text without content, or with the empty scalar
as its content, has none. -/
def readEntries? (text : List Char) : Option (List (Value × Value)) := do
  let d ← document? text
  match d.root with
  | none => some []
  | some root =>
    let root ← d.expand? root
    match root with
    | .scalar _ [] true => some []
    | .object _ entries =>
      let entries ← entriesToValues? entries
      if distinctKeys entries then some entries else none
    | _ => none

end Rulebook.Yaml
