/-
Nodes of a YAML document: scalars, lists and mappings with their tags, aliases replaced by what
they stand for. A text holds one document at most. The readers are bounded by the number of tokens.
-/
import MarkdownStyle.Yaml.Token

namespace MarkdownStyle.Yaml

/-- A node. A tag is given in full; a node without one has the kind that its form suggests. -/
inductive Node where
  | scalar (tag : Option Text) (text : Text) (plain : Bool)
  | list (tag : Option Text) (items : List Node)
  | map (tag : Option Text) (entries : List (Node × Node))

/-- Nothing at all where a node could stand. -/
def Node.empty : Node := .scalar none [] true

/-- The tokens left, and the nodes known by an anchor. -/
structure NodeReader where
  tokens : List Token
  anchors : List (Text × Node)
  handles : List (Text × Text)

namespace NodeReader

def peek (r : NodeReader) : Option Token := r.tokens.head?

def next (r : NodeReader) : NodeReader := { r with tokens := r.tokens.drop 1 }

/-- Whether the next token is one of those. -/
def sees (r : NodeReader) (ts : List Token) : Bool := r.peek.any ts.contains

/-- Anchor and tag in front of a node, in either order. -/
def properties (r : NodeReader) : Option Text × Option (Option Text × Text) × NodeReader :=
  match r.tokens with
  | .anchor a :: .tag h s :: rest => (some a, some (h, s), { r with tokens := rest })
  | .tag h s :: .anchor a :: rest => (some a, some (h, s), { r with tokens := rest })
  | .anchor a :: rest => (some a, none, { r with tokens := rest })
  | .tag h s :: rest => (none, some (h, s), { r with tokens := rest })
  | _ => (none, none, r)

/-- The tag in full. -/
def fullTag (r : NodeReader) (tag : Option (Option Text × Text)) : Option (Option Text) :=
  match tag with
  | none => some none
  | some (none, suffix) => some (some suffix)
  | some (some handle, suffix) => (r.handles.lookup handle).map fun meaning => some (meaning ++ suffix)

/-- Gives a node a name, unless the name is taken. -/
def named (r : NodeReader) (anchor : Option Text) (node : Node) : Option (Node × NodeReader) :=
  match anchor with
  | none => some (node, r)
  | some a =>
    if (r.anchors.lookup a).isSome then none
    else some (node, { r with anchors := (a, node) :: r.anchors })

mutual

/-- A node. `block` tells whether block structures may stand here, `flat` whether a list may stand
without indentation. -/
def node : Nat → Bool → Bool → NodeReader → Option (Node × NodeReader)
  | 0, _, _, _ => none
  | fuel + 1, block, flat, r =>
    match r.peek with
    | some (.alias name) => (r.anchors.lookup name).map fun n => (n, r.next)
    | _ => do
      let (anchor, tag, r) := r.properties
      let full ← r.fullTag tag
      let silent := full == some ['!']
      let kind := if silent then none else full
      if flat && r.sees [.blockEntry] then
        let (items, r) ← flatItems fuel r
        r.named anchor (.list kind items)
      else
        match r.peek with
        | some (.scalar text plain) => r.next.named anchor (.scalar kind text (plain || silent))
        | some .flowListStart =>
          let (items, r) ← flowItems fuel true r.next
          r.named anchor (.list kind items)
        | some .flowMapStart =>
          let (entries, r) ← flowEntries fuel true r.next
          r.named anchor (.map kind entries)
        | some .blockListStart =>
          if block then do
            let (items, r) ← blockItems fuel r.next
            r.named anchor (.list kind items)
          else bare anchor full kind r
        | some .blockMapStart =>
          if block then do
            let (entries, r) ← blockEntries fuel r.next
            r.named anchor (.map kind entries)
          else bare anchor full kind r
        | _ => bare anchor full kind r

/-- A node of which only the anchor or the tag is written. -/
def bare (anchor full kind : Option Text) (r : NodeReader) : Option (Node × NodeReader) :=
  if anchor.isNone && full.isNone then none else r.named anchor (.scalar kind [] kind.isNone)

/-- The node behind a mark, or nothing where one of the given tokens follows. -/
def optional : Nat → Bool → Bool → List Token → NodeReader → Option (Node × NodeReader)
  | 0, _, _, _, _ => none
  | fuel + 1, block, flat, ends, r => if r.sees ends then some (.empty, r) else node fuel block flat r

/-- The value of a key, with its mark if there is one. -/
def valueOf : Nat → Bool → List Token → NodeReader → Option (Node × NodeReader)
  | 0, _, _, _ => none
  | fuel + 1, block, ends, r =>
    if r.sees [.value] then optional fuel block block ends r.next else some (.empty, r)

def blockItems : Nat → NodeReader → Option (List Node × NodeReader)
  | 0, _ => none
  | fuel + 1, r =>
    if r.sees [.blockEntry] then do
      let (item, r) ← optional fuel true false [.blockEntry, .blockEnd] r.next
      let (more, r) ← blockItems fuel r
      return (item :: more, r)
    else if r.sees [.blockEnd] then some ([], r.next)
    else none

def flatItems : Nat → NodeReader → Option (List Node × NodeReader)
  | 0, _ => none
  | fuel + 1, r =>
    if r.sees [.blockEntry] then do
      let (item, r) ← optional fuel true false [.blockEntry, .key, .value, .blockEnd] r.next
      let (more, r) ← flatItems fuel r
      return (item :: more, r)
    else some ([], r)

def blockEntries : Nat → NodeReader → Option (List (Node × Node) × NodeReader)
  | 0, _ => none
  | fuel + 1, r =>
    if r.sees [.key, .value] then do
      let (key, r) ←
        if r.sees [.key] then optional fuel true true [.key, .value, .blockEnd] r.next
        else some (.empty, r)
      let (value, r) ← valueOf fuel true [.key, .value, .blockEnd] r
      let (more, r) ← blockEntries fuel r
      return ((key, value) :: more, r)
    else if r.sees [.blockEnd] then some ([], r.next)
    else none

def flowItems : Nat → Bool → NodeReader → Option (List Node × NodeReader)
  | 0, _, _ => none
  | fuel + 1, first, r =>
    if r.sees [.flowListEnd] then some ([], r.next)
    else do
      let r ← if first then some r else if r.sees [.flowEntry] then some r.next else none
      if r.sees [.flowListEnd] then return ([], r.next)
      else
        let (item, r) ←
          if r.sees [.key] then do
            let (key, r) ← optional fuel false false [.value, .flowEntry, .flowListEnd] r.next
            let (value, r) ← valueOf fuel false [.flowEntry, .flowListEnd] r
            some (.map none [(key, value)], r)
          else node fuel false false r
        let (more, r) ← flowItems fuel false r
        return (item :: more, r)

def flowEntries : Nat → Bool → NodeReader → Option (List (Node × Node) × NodeReader)
  | 0, _, _ => none
  | fuel + 1, first, r =>
    if r.sees [.flowMapEnd] then some ([], r.next)
    else do
      let r ← if first then some r else if r.sees [.flowEntry] then some r.next else none
      if r.sees [.flowMapEnd] then return ([], r.next)
      else
        let (entry, r) ←
          if r.sees [.key] then do
            let (key, r) ← optional fuel false false [.value, .flowEntry, .flowMapEnd] r.next
            let (value, r) ← valueOf fuel false [.flowEntry, .flowMapEnd] r
            some ((key, value), r)
          else do
            let (key, r) ← node fuel false false r
            some ((key, .empty), r)
        let (more, r) ← flowEntries fuel false r
        return (entry :: more, r)

end

/-! ## Documents -/

def defaultHandles : List (Text × Text) :=
  [(['!'], ['!']), (['!', '!'], "tag:yaml.org,2002:".toList)]

/-- Reads directives; each handle and the version may be given once, and the version must be 1. -/
def directives (versionSeen : Bool) (handles : List (Text × Text)) :
    List Token → Option (List (Text × Text) × List Token)
  | .version major :: rest => if versionSeen || major != 1 then none else directives true handles rest
  | .handle name meaning :: rest =>
    if (handles.lookup name).isSome then none
    else directives versionSeen ((name, meaning) :: handles) rest
  | .otherDirective :: rest => directives versionSeen handles rest
  | rest => some (handles, rest)

/-- What is left must be the end of the text. -/
def finish (n : Node) (ts : List Token) : Option Node :=
  if ts.dropWhile (· == .documentEnd) == [.textEnd] then some n else none

/-- The one document of a list of tokens; a text without a document is empty. -/
def document (ts : List Token) : Option Node :=
  let fuel := 8 * ts.length + 16
  match ts with
  | .version _ :: _ | .handle .. :: _ | .otherDirective :: _ | .documentStart :: _ | .textEnd :: _ =>
    if ts == [.textEnd] then some .empty
    else do
      match ← directives false [] ts with
      | (handles, .documentStart :: rest) =>
        let r : NodeReader := ⟨rest, [], handles ++ defaultHandles⟩
        if r.sees [.documentStart, .documentEnd, .textEnd, .otherDirective] then finish .empty rest
        else
          let (n, r) ← node fuel true false r
          finish n r.tokens
      | _ => none
  | _ => do
    let (n, r) ← node fuel true false ⟨ts, [], defaultHandles⟩
    finish n r.tokens

end NodeReader

/-- The document in a YAML text, unless the text is ill formed. -/
def Node.ofText? (t : Text) : Option Node := (tokens? t).bind NodeReader.document

end MarkdownStyle.Yaml
