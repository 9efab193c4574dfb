/-
**Tokens of a YAML text.**

The first step of reading a YAML text finds its tokens.  Lists and objects that are laid out by
indentation get tokens for their beginning and end, and the value indicator of an object field makes
the node before it a key: such a node lies within one line, and its key token is put before it when
the indicator is found.

Main definitions:

* `Rulebook.Yaml.Token` — tokens;
* `Rulebook.Yaml.tokens?` — the tokens of a text, if it can be divided into tokens.
-/

import Rulebook.Text.Search
import Rulebook.Yaml.Scalar

set_option autoImplicit false

namespace Rulebook.Yaml

/-! ### Tokens -/

/-- A token of a YAML text. -/
inductive Token where
  /-- The version that a text declares. -/
  | version (major minor : Nat)
  /-- An abbreviation for the beginning of tags. -/
  | tagHandle (handle beginning : List Char)
  /-- The marker of the beginning of a document. -/
  | documentStart
  /-- The marker of the end of a document. -/
  | documentEnd
  /-- The beginning of a list laid out by indentation. -/
  | blockList
  /-- The beginning of an object laid out by indentation. -/
  | blockObject
  /-- The end of either. -/
  | blockEnd
  /-- The beginning of a list in a line. -/
  | listStart
  /-- Its end. -/
  | listEnd
  /-- The beginning of an object in a line. -/
  | objectStart
  /-- Its end. -/
  | objectEnd
  /-- The indicator of a list item. -/
  | item
  /-- The comma. -/
  | comma
  /-- The indicator of a key, written or found. -/
  | key
  /-- The indicator of a value. -/
  | value
  /-- A node that is given elsewhere. -/
  | reference (name : List Char)
  /-- The name of a node. -/
  | anchor (name : List Char)
  /-- The tag of a node: a handle and what follows it. -/
  | tag (handle suffix : List Char)
  /-- A scalar. -/
  | scalar (text : List Char) (plain : Bool)
  deriving DecidableEq, Repr

/-! ### State -/

/-- A place where a key may have begun. -/
structure KeyPlace where
  /-- Whether a key can begin here. -/
  possible : Bool
  /-- Whether a key must begin here. -/
  required : Bool
  /-- The number of tokens before the place. -/
  tokenCount : Nat
  /-- Where it is. -/
  index : Nat
  /-- Its line. -/
  line : Nat
  /-- Its column. -/
  column : Nat

/-- No place for a key. -/
def KeyPlace.none : KeyPlace := ⟨false, false, 0, 0, 0, 0⟩

/-- How far a text has been divided into tokens. -/
structure Scan where
  /-- The place reached. -/
  cursor : Cursor
  /-- The tokens found. -/
  tokens : Array Token
  /-- The column of the innermost list or object laid out by indentation; `-1` outside of all. -/
  indent : Int
  /-- The columns of those around it. -/
  outer : List Int
  /-- Whether a key may begin at the place reached. -/
  keyAllowed : Bool
  /-- The last place for a key, for the innermost list or object in a line and for all that are
  around it. -/
  keys : List KeyPlace

namespace Scan

/-- The number of lists and objects in a line around the place reached. -/
def flowLevel (s : Scan) : Nat := s.keys.length - 1

/-- Whether the place reached is inside of a list or an object in a line. -/
def inFlow (s : Scan) : Bool := s.flowLevel != 0

/-- The beginning of a text. -/
def start (text : List Char) : Scan :=
  ⟨Cursor.start text, #[], -1, [], true, [KeyPlace.none]⟩

/-- One more token. -/
def push (s : Scan) (t : Token) : Scan := { s with tokens := s.tokens.push t }

/-- A number of characters further on. -/
def skip (s : Scan) (count : Nat) : Scan := { s with cursor := s.cursor.skip count }

/-! ### Indentation -/

/-- Ends the lists and objects that are indented further than a column. -/
def unindentFrom (column : Int) : List Int → Scan → Scan
  | [], s => s
  | next :: more, s =>
    if s.inFlow || decide (s.indent ≤ column) then s
    else unindentFrom column more { s.push .blockEnd with indent := next, outer := more }

/-- Ends the lists and objects that are indented further than a column. -/
def unindent (s : Scan) (column : Int) : Scan := unindentFrom column s.outer s

/-- Begins a list or an object at a column if that is further in, its token being put at a place
among the tokens. -/
def indentTo (s : Scan) (column place : Nat) (t : Token) : Scan :=
  if !s.inFlow && decide (s.indent < column) then
    { s with
      indent := column
      outer := s.indent :: s.outer
      tokens := s.tokens.insertIdxIfInBounds place t }
  else s

/-! ### Places for keys -/

/-- Whether a place for a key is out of reach: on an earlier line, or too far back. -/
def isStale (s : Scan) (k : KeyPlace) : Bool :=
  k.possible && (decide (k.line < s.cursor.line) || decide (k.index + 1024 < s.cursor.index))

/-- Gives up the places for keys that are out of reach; refused where a key was required. -/
def dropStale? (s : Scan) : Option Scan :=
  if s.keys.any fun k => s.isStale k && k.required then none
  else
    some { s with keys := s.keys.map fun k => if s.isStale k then { k with possible := false } else k }

/-- Gives up the innermost place for a key; refused where a key was required. -/
def dropKey? (s : Scan) : Option Scan :=
  match s.keys with
  | [] => some s
  | k :: more =>
    if k.possible && k.required then none
    else some { s with keys := { k with possible := false } :: more }

/-- Keeps the place reached as a place for a key, if a key may begin there. -/
def saveKey? (s : Scan) : Option Scan :=
  if s.keyAllowed then do
    let s ← s.dropKey?
    let c := s.cursor
    let required := !s.inFlow && decide (s.indent = (c.column : Int))
    some { s with
      keys := ⟨true, required, s.tokens.size, c.index, c.line, c.column⟩ :: s.keys.drop 1 }
  else some s

/-! ### White space -/

/-- After white space and comments.  Outside of lists and objects in a line a new line may begin
with a key, and a tab may not stand where a key may begin. -/
def skipSpace : Nat → Scan → Scan
  | 0, s => s
  | steps + 1, s =>
    let tabs := s.inFlow || !s.keyAllowed
    let c := (s.cursor.skipWhile fun x => x == ' ' || (tabs && x == '\t')).skipComment
    match c.rest with
    | x :: _ =>
      if isBreak x then
        skipSpace steps { s with cursor := c.skipLine, keyAllowed := s.keyAllowed || !s.inFlow }
      else { s with cursor := c }
    | [] => { s with cursor := c }

/-! ### Directives, anchors and tags -/

/-- A number of at most nine digits at a cursor, and the cursor after it. -/
def readNumber? (c : Cursor) : Option (Nat × Cursor) :=
  let digits := c.rest.takeWhile Char.isDigit
  if digits.length ≤ 9 then
    (Literal.natural? 10 digits).map fun n => (n, c.skip digits.length)
  else none

/-- The characters of a tag; the comma and the brackets only where the whole tag is written out. -/
def isTagChar (whole : Bool) (c : Char) : Bool :=
  isNameChar c || (";/?:@&=+$.!~*'()".toList.contains c) || (whole && (",[]".toList.contains c))

/-- The bytes of characters written by number in a tag, `%` and two digits each. -/
def readBytes : Nat → List Char → List UInt8 × List Char
  | 0, s => ([], s)
  | steps + 1, s =>
    match s with
    | '%' :: a :: b :: rest =>
      match Literal.natural? 16 [a, b] with
      | some n =>
        let found := readBytes steps rest
        (UInt8.ofNat n :: found.1, found.2)
      | none => ([], s)
    | _ => ([], s)

/-- The characters of a tag at the beginning of a text, and the rest. -/
def readTagText? (whole : Bool) : Nat → List Char → Option (List Char × List Char)
  | 0, s => some ([], s)
  | steps + 1, s =>
    match s with
    | '%' :: _ => do
      let (bytes, rest) := readBytes s.length s
      let chars ← if bytes.isEmpty then none else String.fromUTF8? (ByteArray.mk bytes.toArray)
      let (more, final) ← readTagText? whole steps rest
      some (chars.toList ++ more, final)
    | c :: rest =>
      if isTagChar whole c then do
        let (more, final) ← readTagText? whole steps rest
        some (c :: more, final)
      else some ([], s)
    | [] => some ([], [])

/-- The cursor after a part of its line has been read. -/
def after (c : Cursor) (rest : List Char) : Cursor := c.skip (c.rest.length - rest.length)

/-- A handle of tags at a cursor: an exclamation mark, and perhaps a name and a second one. -/
def readHandle? (c : Cursor) : Option (List Char × Cursor) :=
  match c.rest with
  | '!' :: rest =>
    let name := rest.takeWhile isNameChar
    match rest.drop name.length with
    | '!' :: _ => some ('!' :: (name ++ ['!']), c.skip (name.length + 2))
    | _ => some ('!' :: name, c.skip (name.length + 1))
  | _ => none

/-- The directive at a cursor, which stands at a percent sign, and the cursor on the next line. -/
def readDirective? (c : Cursor) : Option (Token × Cursor) := do
  let c := c.skip 1
  let name := c.rest.takeWhile isNameChar
  let c := c.skip name.length
  if name.isEmpty || !atSpace c.rest then none
  else
    let c := c.skipWhile isGap
    let (token, c) ←
      if name = "YAML".toList then do
        let (major, c) ← readNumber? c
        match c.rest with
        | '.' :: _ =>
          let (minor, c) ← readNumber? (c.skip 1)
          some (Token.version major minor, c)
        | _ => none
      else if name = "TAG".toList then do
        let (handle, c) ← readHandle? c
        if handle ≠ ['!'] && handle.getLast? ≠ some '!' then none
        else if !(c.rest.head?.any isGap) then none
        else
          let c := c.skipWhile isGap
          let (beginning, rest) ← readTagText? true (c.rest.length + 1) c.rest
          if beginning.isEmpty || !atSpace rest then none
          else some (Token.tagHandle handle beginning, after c rest)
      else none
    let c := (c.skipWhile isGap).skipComment
    if atLineEnd c.rest then some (token, c.skipLine) else none

/-- The name of an anchor or a reference at a cursor, which stands before the name. -/
def readName? (c : Cursor) : Option (List Char × Cursor) :=
  let name := c.rest.takeWhile isNameChar
  let c := c.skip name.length
  let ends := atSpace c.rest || c.rest.head?.any fun x => x == '}' || "?:,]%@`".toList.contains x
  if name.isEmpty || !ends then none else some (name, c)

/-- The tag at a cursor, and the cursor after it. -/
def readTag? (s : Scan) : Option (Token × Cursor) := do
  let c := s.cursor
  let (token, c) ←
    match c.rest with
    | '!' :: '<' :: rest => do
      let (suffix, final) ← readTagText? true (rest.length + 1) rest
      match final with
      | '>' :: done => if suffix.isEmpty then none else some (Token.tag [] suffix, after c done)
      | _ => none
    | _ => do
      let (handle, c) ← readHandle? c
      if 1 < handle.length ∧ handle.getLast? = some '!' then
        let (suffix, rest) ← readTagText? false (c.rest.length + 1) c.rest
        if suffix.isEmpty then none else some (Token.tag handle suffix, after c rest)
      else
        let (more, rest) ← readTagText? false (c.rest.length + 1) c.rest
        let suffix := handle.drop 1 ++ more
        let token := if suffix.isEmpty then Token.tag [] ['!'] else Token.tag ['!'] suffix
        some (token, after c rest)
  let ends := atSpace c.rest || (s.inFlow && c.rest.head? == some ',')
  if ends then some (token, c) else none

/-! ### Steps -/

/-- Ends a text: all lists and objects laid out by indentation end. -/
def finish? (s : Scan) : Option Scan := (s.unindent (-1)).dropKey?

/-- A marker or directive of a document: lists and objects end before it. -/
def beginDocumentPart? (s : Scan) : Option Scan :=
  s.finish?.map fun s => { s with keyAllowed := false }

/-- The beginning of a list or an object in a line. -/
def openFlow? (s : Scan) (t : Token) : Option Scan := do
  let s ← s.saveKey?
  some { (s.push t).skip 1 with keys := KeyPlace.none :: s.keys, keyAllowed := true }

/-- The end of a list or an object in a line. -/
def closeFlow? (s : Scan) (t : Token) : Option Scan := do
  let s ← s.dropKey?
  let keys := if s.inFlow then s.keys.drop 1 else s.keys
  some { (s.push t).skip 1 with keys := keys, keyAllowed := false }

/-- A comma. -/
def comma? (s : Scan) : Option Scan := do
  let s ← s.dropKey?
  some { (s.push .comma).skip 1 with keyAllowed := true }

/-- The indicator of an item. -/
def item? (s : Scan) : Option Scan := do
  if !s.inFlow && !s.keyAllowed then none
  else
    let s ← (s.indentTo s.cursor.column s.tokens.size .blockList).dropKey?
    some { (s.push .item).skip 1 with keyAllowed := true }

/-- The written indicator of a key. -/
def key? (s : Scan) : Option Scan := do
  if !s.inFlow && !s.keyAllowed then none
  else
    let s ← (s.indentTo s.cursor.column s.tokens.size .blockObject).dropKey?
    some { (s.push .key).skip 1 with keyAllowed := !s.inFlow }

/-- The indicator of a value: it makes the node at the last place for a key a key. -/
def value? (s : Scan) : Option Scan :=
  match s.keys with
  | [] => none
  | k :: more =>
    if k.possible then
      let s := { s with
        tokens := s.tokens.insertIdxIfInBounds k.tokenCount .key
        keys := { k with possible := false } :: more }
      let s := s.indentTo k.column k.tokenCount .blockObject
      some { (s.push .value).skip 1 with keyAllowed := false }
    else if !s.inFlow && !s.keyAllowed then none
    else
      let s := s.indentTo s.cursor.column s.tokens.size .blockObject
      some { (s.push .value).skip 1 with keyAllowed := !s.inFlow }

/-- An anchor or a reference. -/
def name? (s : Scan) (make : List Char → Token) : Option Scan := do
  let s ← s.saveKey?
  let (name, c) ← readName? (s.cursor.skip 1)
  some { s.push (make name) with cursor := c, keyAllowed := false }

/-- A tag. -/
def tag? (s : Scan) : Option Scan := do
  let s ← s.saveKey?
  let (t, c) ← readTag? s
  some { s.push t with cursor := c, keyAllowed := false }

/-- A block of lines. -/
def block? (s : Scan) : Option Scan := do
  let s ← s.dropKey?
  let (text, c) ← readBlock? s.indent s.cursor
  some { s.push (.scalar text false) with cursor := c, keyAllowed := true }

/-- A quoted scalar. -/
def quoted? (s : Scan) : Option Scan := do
  let s ← s.saveKey?
  let (text, c) ← readQuoted? s.cursor
  some { s.push (.scalar text false) with cursor := c, keyAllowed := false }

/-- A plain scalar. -/
def plain? (s : Scan) : Option Scan := do
  let s ← s.saveKey?
  let (text, broken, c) ← readPlain? s.inFlow (s.indent + 1).toNat s.cursor
  some { s.push (.scalar text true) with cursor := c, keyAllowed := broken }

/-- The characters that do not begin a plain scalar. -/
def indicators : List Char := '{' :: '}' :: "-?:,[]#&*!|>'\x22%@`".toList

/-- Whether a plain scalar begins with a character. -/
def beginsPlain (inFlow : Bool) (x : Char) (rest : List Char) : Bool :=
  !(isSpace x || indicators.contains x) ||
    (x == '-' && !(rest.head?.any isGap)) ||
    (!inFlow && (x == '?' || x == ':') && !atSpace rest)

/-- The token that begins with a character. -/
def tokenAt? (s : Scan) (x : Char) (rest : List Char) : Option Scan :=
  if x = '%' ∧ s.cursor.column = 0 then do
    let s ← s.beginDocumentPart?
    let (t, c) ← readDirective? s.cursor
    some { s.push t with cursor := c }
  else if s.cursor.atDocumentMarker then do
    let s ← s.beginDocumentPart?
    some ((s.push (if x = '-' then .documentStart else .documentEnd)).skip 3)
  else if x = '[' then s.openFlow? .listStart
  else if x = '{' then s.openFlow? .objectStart
  else if x = ']' then s.closeFlow? .listEnd
  else if x = '}' then s.closeFlow? .objectEnd
  else if x = ',' then s.comma?
  else if x = '-' ∧ atSpace rest then s.item?
  else if x = '?' ∧ (s.inFlow || atSpace rest) then s.key?
  else if x = ':' ∧ (s.inFlow || atSpace rest) then s.value?
  else if x = '*' then s.name? .reference
  else if x = '&' then s.name? .anchor
  else if x = '!' then s.tag?
  else if (x = '|' ∨ x = '>') ∧ !s.inFlow then s.block?
  else if x = '\x27' ∨ x = '\x22' then s.quoted?
  else if beginsPlain s.inFlow x rest then s.plain?
  else none

/-- The tokens from the place reached on.  Every step reads a character at least. -/
def run? : Nat → Scan → Option (Array Token)
  | 0, _ => none
  | steps + 1, s => do
    let s ← (skipSpace (s.cursor.rest.length + 1) s).dropStale?
    let s := s.unindent s.cursor.column
    match s.cursor.rest with
    | [] => s.finish?.map Scan.tokens
    | x :: rest =>
      let s ← s.tokenAt? x rest
      run? steps s

end Scan

/-- The tokens of a text, if it can be divided into tokens. -/
def tokens? (text : List Char) : Option (List Token) :=
  if text.all isReadable then (Scan.run? (text.length + 1) (Scan.start text)).map Array.toList
  else none

end Rulebook.Yaml
