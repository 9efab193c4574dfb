/-
**Nodes of a YAML text.**

The tokens of a document make up a tree of scalars, lists and objects.  A node may carry a tag, and
it may be given elsewhere, under the name that an anchor gave it.  A name may be given again; a
reference means the node that had the name at that place.  Anchored nodes are numbered by how many
different names there are when they begin, and of two nodes with one number the later stands.

Main definitions:

* `Rulebook.Yaml.Node` — nodes;
* `Rulebook.Yaml.document?` — the only document of a text: its node, or none for a text without
  content, with the anchored nodes;
* `Rulebook.Yaml.Document.expand?` — its node with the references replaced.
-/

import Rulebook.Yaml.Token

set_option autoImplicit false

namespace Rulebook.Yaml

/-! ### Nodes -/

/-- A node of a document. -/
inductive Node where
  /-- A scalar; plain ones may stand for other things than their text. -/
  | scalar (tag : Option (List Char)) (text : List Char) (plain : Bool)
  /-- A list. -/
  | list (tag : Option (List Char)) (items : List Node)
  /-- An object, with its keys and values. -/
  | object (tag : Option (List Char)) (entries : List (Node × Node))
  /-- A node given elsewhere, by the number of its anchor. -/
  | reference (number : Nat)
  deriving Repr

/-- The scalar that stands for a node that is not written. -/
def Node.empty : Node := .scalar none [] true

/-- An anchored node, or its place while it is being read. -/
structure Anchored where
  /-- The number of the anchor. -/
  number : Nat
  /-- The node. -/
  node : Option Node

/-- A document being read. -/
structure Reading where
  /-- The tokens to come. -/
  tokens : List Token
  /-- The handles of tags and what they stand for. -/
  handles : List (List Char × List Char)
  /-- The names of anchors and their numbers. -/
  names : List (List Char × Nat)
  /-- The anchored nodes in the order in which they begin. -/
  anchored : Array Anchored

namespace Reading

/-- The next token. -/
def next? (r : Reading) : Option Token := r.tokens.head?

/-- After the next token. -/
def skip (r : Reading) : Reading := { r with tokens := r.tokens.drop 1 }

/-- Whether the next token is among some; the end counts as none of them. -/
def nextIn (r : Reading) (ts : List Token) : Bool := r.tokens.head?.any fun t => ts.contains t

/-- Registers an anchor for a node about to be read, and gives the place of the node. -/
def addAnchor (r : Reading) (name : List Char) : Nat × Reading :=
  let number := r.names.length
  let names := (name, number) :: r.names.filter fun entry => entry.1 != name
  (r.anchored.size, { r with names := names, anchored := r.anchored.push ⟨number, none⟩ })

/-- Fills in an anchored node. -/
def setAnchor (r : Reading) (place : Option Nat) (node : Node) : Reading :=
  match place with
  | none => r
  | some i => { r with anchored := r.anchored.modify i fun a => { a with node := some node } }

/-- A tag written with a handle. -/
def resolveTag? (r : Reading) (handle suffix : List Char) : Option (List Char) :=
  if handle.isEmpty then some suffix
  else (r.handles.lookup handle).map fun beginning => beginning ++ suffix

end Reading

/-! ### Properties of nodes -/

/-- The anchor and the tag before a node, in either order. -/
structure Properties where
  /-- The name of the anchor. -/
  anchor : Option (List Char)
  /-- The tag. -/
  tag : Option (List Char)

/-- The anchor and the tag at the beginning of the tokens. -/
def readProperties? (r : Reading) : Option (Properties × Reading) :=
  match r.tokens with
  | .anchor name :: .tag handle suffix :: _ =>
    (r.resolveTag? handle suffix).map fun tag => (⟨some name, some tag⟩, r.skip.skip)
  | .tag handle suffix :: .anchor name :: _ =>
    (r.resolveTag? handle suffix).map fun tag => (⟨some name, some tag⟩, r.skip.skip)
  | .anchor name :: _ => some (⟨some name, none⟩, r.skip)
  | .tag handle suffix :: _ =>
    (r.resolveTag? handle suffix).map fun tag => (⟨none, some tag⟩, r.skip)
  | _ => some (⟨none, none⟩, r)

/-- The tag of a scalar that is written: a bare exclamation mark says nothing about it. -/
def scalarTag (tag : Option (List Char)) : Option (List Char) := tag.filter (· ≠ ['!'])

/-! ### Reading nodes -/

mutual

/-- The node at the beginning of the tokens.  `inBlock` allows lists and objects laid out by
indentation, `bareItems` items that are not indented further than the key before them. -/
def readNode? (inBlock bareItems : Bool) : Nat → Reading → Option (Node × Reading)
  | 0, _ => none
  | steps + 1, r =>
    match r.next? with
    | some (.reference name) =>
      (r.names.lookup name).map fun number => (.reference number, r.skip)
    | _ => do
      let (properties, r) ← readProperties? r
      let (place, r) := match properties.anchor with
        | some name => let (i, r) := r.addAnchor name; (some i, r)
        | none => (none, r)
      let tag := properties.tag
      let (node, r) ←
        match r.next? with
        | some .item =>
          if bareItems then do
            let (items, r) ← readBareItems? steps r
            some (Node.list tag items, r)
          else if properties.anchor.isSome || tag.isSome then some (.scalar tag [] true, r)
          else none
        | some (.scalar text plain) => some (.scalar (scalarTag tag) text plain, r.skip)
        | some .listStart => do
          let (items, r) ← readListItems? true steps r.skip
          some (.list tag items, r)
        | some .objectStart => do
          let (entries, r) ← readObjectEntries? true steps r.skip
          some (.object tag entries, r)
        | some .blockList =>
          if inBlock then do
            let (items, r) ← readBlockItems? steps r.skip
            some (.list tag items, r)
          else if properties.anchor.isSome || tag.isSome then some (.scalar tag [] true, r)
          else none
        | some .blockObject =>
          if inBlock then do
            let (entries, r) ← readBlockEntries? steps r.skip
            some (.object tag entries, r)
          else if properties.anchor.isSome || tag.isSome then some (.scalar tag [] true, r)
          else none
        | _ =>
          if properties.anchor.isSome || tag.isSome then some (.scalar tag [] true, r) else none
      some (node, r.setAnchor place node)

/-- The items of a list laid out by indentation. -/
def readBlockItems? : Nat → Reading → Option (List Node × Reading)
  | 0, _ => none
  | steps + 1, r =>
    match r.next? with
    | some .item => do
      let r := r.skip
      let (item, r) ←
        if r.nextIn [.item, .blockEnd] then some (Node.empty, r) else readNode? true false steps r
      let (more, r) ← readBlockItems? steps r
      some (item :: more, r)
    | some .blockEnd => some ([], r.skip)
    | _ => none

/-- The items of a list that is not indented further than the key before it. -/
def readBareItems? : Nat → Reading → Option (List Node × Reading)
  | 0, _ => none
  | steps + 1, r =>
    match r.next? with
    | some .item => do
      let r := r.skip
      let (item, r) ←
        if r.nextIn [.item, .key, .value, .blockEnd] then some (Node.empty, r)
        else readNode? true false steps r
      let (more, r) ← readBareItems? steps r
      some (item :: more, r)
    | _ => some ([], r)

/-- The entries of an object laid out by indentation. -/
def readBlockEntries? : Nat → Reading → Option (List (Node × Node) × Reading)
  | 0, _ => none
  | steps + 1, r =>
    match r.next? with
    | some .key => do
      let r := r.skip
      let (key, r) ←
        if r.nextIn [.key, .value, .blockEnd] then some (Node.empty, r)
        else readNode? true true steps r
      let (value, r) ← readBlockValue? steps r
      let (more, r) ← readBlockEntries? steps r
      some ((key, value) :: more, r)
    | some .blockEnd => some ([], r.skip)
    | _ => none

/-- The value of an entry of an object laid out by indentation. -/
def readBlockValue? : Nat → Reading → Option (Node × Reading)
  | 0, _ => none
  | steps + 1, r =>
    match r.next? with
    | some .value =>
      let r := r.skip
      if r.nextIn [.key, .value, .blockEnd] then some (Node.empty, r)
      else readNode? true true steps r
    | _ => some (Node.empty, r)

/-- The items of a list in a line; an item may be a single entry of an object. -/
def readListItems? (first : Bool) : Nat → Reading → Option (List Node × Reading)
  | 0, _ => none
  | steps + 1, r =>
    if r.nextIn [.listEnd] then some ([], r.skip)
    else do
      let r ← if first then some r else if r.nextIn [.comma] then some r.skip else none
      if r.nextIn [.listEnd] then some ([], r.skip)
      else
        let (item, r) ←
          if r.nextIn [.key] then do
            let (entry, r) ← readSingleEntry? steps r.skip
            some (Node.object none [entry], r)
          else readNode? false false steps r
        let (more, r) ← readListItems? false steps r
        some (item :: more, r)

/-- The single entry that is an item of a list in a line, after the indicator of its key. -/
def readSingleEntry? : Nat → Reading → Option ((Node × Node) × Reading)
  | 0, _ => none
  | steps + 1, r => do
    let (key, r) ←
      if r.nextIn [.value, .comma, .listEnd] then some (Node.empty, r.skip)
      else readNode? false false steps r
    if r.nextIn [.value] then
      let r := r.skip
      if r.nextIn [.comma, .listEnd] then some ((key, Node.empty), r)
      else
        let (value, r) ← readNode? false false steps r
        some ((key, value), r)
    else some ((key, Node.empty), r)

/-- The entries of an object in a line. -/
def readObjectEntries? (first : Bool) : Nat → Reading → Option (List (Node × Node) × Reading)
  | 0, _ => none
  | steps + 1, r =>
    if r.nextIn [.objectEnd] then some ([], r.skip)
    else do
      let r ← if first then some r else if r.nextIn [.comma] then some r.skip else none
      if r.nextIn [.key] then
        let r := r.skip
        let (key, r) ←
          if r.nextIn [.value, .comma, .objectEnd] then some (Node.empty, r)
          else readNode? false false steps r
        let (value, r) ←
          if r.nextIn [.value] then
            let r := r.skip
            if r.nextIn [.comma, .objectEnd] then some (Node.empty, r)
            else readNode? false false steps r
          else some (Node.empty, r)
        let (more, r) ← readObjectEntries? false steps r
        some ((key, value) :: more, r)
      else if r.nextIn [.objectEnd] then some ([], r.skip)
      else
        let (key, r) ← readNode? false false steps r
        let (more, r) ← readObjectEntries? false steps r
        some ((key, Node.empty) :: more, r)

end

/-! ### Documents -/

/-- The node of a document and its anchored nodes. -/
structure Document where
  /-- The node; none if the text has no content. -/
  root : Option Node
  /-- The anchored nodes. -/
  anchored : Array Anchored

/-- The handles of tags that need no directive. -/
def defaultHandles : List (List Char × List Char) :=
  [(['!'], ['!']), (['!', '!'], "tag:yaml.org,2002:".toList)]

/-- The directives at the beginning of a document: the handles that they add, and the tokens after
them.  At most one version may be given, and it must be 1.1 or 1.2. -/
def readDirectives? :
    Bool → List (List Char × List Char) → List Token →
      Option (List (List Char × List Char) × List Token)
  | versioned, handles, .version major minor :: rest =>
    if !versioned && major == 1 && (minor == 1 || minor == 2) then readDirectives? true handles rest
    else none
  | versioned, handles, .tagHandle handle beginning :: rest =>
    if (handles.lookup handle).isSome then none
    else readDirectives? versioned ((handle, beginning) :: handles) rest
  | _, handles, tokens => some (handles, tokens)

/-- Whether only markers of the end of a document are left. -/
def onlyEnds (tokens : List Token) : Bool := tokens.all (· == Token.documentEnd)

/-- Whether a token ends the content of a document. -/
def endsDocument : Token → Bool
  | .documentStart => true
  | .documentEnd => true
  | .version _ _ => true
  | .tagHandle _ _ => true
  | _ => false

/-- The document whose content begins with the given tokens, if nothing follows it. -/
def readContent? (explicit : Bool) (handles : List (List Char × List Char)) (tokens : List Token) :
    Option Document := do
  let r : Reading := ⟨tokens, handles ++ defaultHandles, [], #[]⟩
  let isEmpty := explicit && (tokens.head?.all endsDocument)
  let (node, r) ←
    if isEmpty then some (Node.empty, r) else readNode? true false (4 * tokens.length + 4) r
  if onlyEnds r.tokens then some ⟨some node, r.anchored⟩ else none

/-- The only document of a list of tokens. -/
def documentOf? (tokens : List Token) : Option Document :=
  match tokens with
  | [] => some ⟨none, #[]⟩
  | .documentStart :: _ | .version _ _ :: _ | .tagHandle _ _ :: _ => do
    let (handles, rest) ← readDirectives? false [] tokens
    match rest with
    | .documentStart :: content => readContent? true handles content
    | _ => none
  | _ => readContent? false [] tokens

/-- The only document of a text. -/
def document? (text : List Char) : Option Document := (tokens? text).bind documentOf?

/-! ### References -/

mutual

/-- The number of steps in which a node is written: one for a scalar or a reference, two for the
ends of a list or an object. -/
def Node.size : Node → Nat
  | .scalar _ _ _ => 1
  | .reference _ => 1
  | .list _ items => 2 + sizeItems items
  | .object _ entries => 2 + sizeEntries entries

/-- The number of steps of a list of nodes. -/
def sizeItems : List Node → Nat
  | [] => 0
  | item :: rest => item.size + sizeItems rest

/-- The number of steps of the keys and values of an object. -/
def sizeEntries : List (Node × Node) → Nat
  | [] => 0
  | (key, value) :: rest => key.size + value.size + sizeEntries rest

end

namespace Document

/-- The anchored node of a number. -/
def target? (d : Document) (number : Nat) : Option Node :=
  (d.anchored.toList.reverse.find? fun a => a.number == number).bind Anchored.node

/-- Applies a step that may use up references to every element of a list. -/
def mapRefs? {α β : Type} (f : Nat → α → Option (β × Nat)) : Nat → List α → Option (List β × Nat)
  | left, [] => some ([], left)
  | left, x :: rest => do
    let (y, left) ← f left x
    let (ys, left) ← mapRefs? f left rest
    some (y :: ys, left)

/-- The node that is meant where a node stands: of a reference the anchored node, which is not a
reference itself.  `left` is the number of references that may still be followed. -/
def follow? (d : Document) (left : Nat) : Node → Option (Node × Nat)
  | .reference number =>
    match left with
    | 0 => none
    | left + 1 => (d.target? number).map fun node => (node, left)
  | node => some (node, left)

/-- A node without references.  `depth` is the number of levels that may be entered, `left` the
number of references that may still be followed; what is left of it is given back. -/
def expandNode? (d : Document) : Nat → Nat → Node → Option (Node × Nat)
  | 0, left, node =>
    match d.follow? left node with
    | some (.scalar tag text plain, left) => some (.scalar tag text plain, left)
    | _ => none
  | depth + 1, left, node =>
    match d.follow? left node with
    | some (.scalar tag text plain, left) => some (.scalar tag text plain, left)
    | some (.list tag items, left) => do
      let (items, left) ← mapRefs? (expandNode? d depth) left items
      some (.list tag items, left)
    | some (.object tag entries, left) => do
      let (entries, left) ← mapRefs? (fun left (entry : Node × Node) => do
        let (key, left) ← expandNode? d depth left entry.1
        let (value, left) ← expandNode? d depth left entry.2
        some ((key, value), left)) left entries
      some (.object tag entries, left)
    | _ => none

/-- The greatest depth of nesting. -/
def depthLimit : Nat := 128

/-- The node of a document with its references replaced.  Lists and objects may be nested at most
128 deep, and at most a hundred references may be followed for each step of the document. -/
def expand? (d : Document) (root : Node) : Option Node :=
  (expandNode? d depthLimit (100 * root.size) root).map Prod.fst

end Document

end Rulebook.Yaml
