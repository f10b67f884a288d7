import GlyphGrid.Yaml.Lexer

/-!
# From tokens to a document

`Node` is the content of a document: scalars, sequences and mappings, with every alias replaced by
what it names.  `Node.ofTokens?` builds it by recursive descent, one function for each kind of
collection; `Node.read?` starts from the characters.  A text holds one document at most, and none
if there is nothing but blank lines and comments in it.
-/

namespace GlyphGrid.Yaml

/-- The content of a document, or a part of it. -/
inductive Node where
  /-- A text, with its tag if it has one. -/
  | scalar (tag? : Option String) (scalar : Scalar)
  | sequence (items : List Node)
  /-- Keys with their values, in order. -/
  | mapping (entries : List (Node × Node))
  | cyclic

namespace Node

/-- A node that is left out. -/
def missing : Node := .scalar none ⟨"", .plain⟩

/-- The nodes that have a name, the latest first. -/
abbrev Anchors := List (String × Node)

/-- The tag handles that have a meaning, with what they stand for. -/
abbrev TagHandles := List (String × String)

/-- The handles of every document. -/
def standardHandles : TagHandles := [("!", "!"), ("!!", "tag:yaml.org,2002:")]

/-- A node that was read, the tokens after it, and the names after it. -/
abbrev Parsed (α : Type) := α × List Token × Anchors

/-- What stands before the content of a node. -/
structure Properties where
  anchor? : Option String
  tag? : Option String

/-- The tag with a handle. -/
def resolveTag? (handles : TagHandles) (handle rest : String) : Option String :=
  if handle.isEmpty then some rest
  else (handles.find? (·.1 == handle)).map (·.2 ++ rest)

/-- Reads the name and the tag of a node, in either order. -/
def properties? (handles : TagHandles) : List Token → Option (Properties × List Token)
  | .anchor name :: .tag handle rest :: ts =>
    (resolveTag? handles handle rest).map fun tag => (⟨some name, some tag⟩, ts)
  | .tag handle rest :: .anchor name :: ts =>
    (resolveTag? handles handle rest).map fun tag => (⟨some name, some tag⟩, ts)
  | .anchor name :: ts => some (⟨some name, none⟩, ts)
  | .tag handle rest :: ts =>
    (resolveTag? handles handle rest).map fun tag => (⟨none, some tag⟩, ts)
  | ts => some (⟨none, none⟩, ts)

/-- Gives a finished node its name. -/
def Properties.name (p : Properties) (n : Node) (anchors : Anchors) : Anchors :=
  match p.anchor? with
  | none => anchors
  | some name => (name, n) :: anchors

/-- The names inside a collection: its own stands for a part of itself. -/
def Properties.announce (p : Properties) (anchors : Anchors) : Anchors :=
  p.name .cyclic anchors

/-- The names after a collection: `outer` are those before it and `inner` those at its end. -/
def Properties.settle (p : Properties) (n : Node) (outer inner : Anchors) : Anchors :=
  match p.anchor? with
  | none => inner
  | some name => inner.take (inner.length - outer.length - 1) ++ (name, n) :: outer

/-- A scalar with its tag; the tag `!` says nothing. -/
def ofScalar (tag? : Option String) (s : Scalar) : Node :=
  .scalar (if tag? = some "!" then none else tag?) s

/-- Whether a node of a block collection is left out before a token. -/
def endsBlockNode : List Token → Bool
  | .key :: _ | .value :: _ | .blockEnd :: _ => true
  | _ => false

/-- Whether an entry of a block sequence is left out before a token. -/
def endsBlockEntry : List Token → Bool
  | .blockEntry :: _ | .blockEnd :: _ => true
  | _ => false

/-- Whether a node in square brackets is left out before a token. -/
def endsSequenceNode : List Token → Bool
  | .flowEntry :: _ | .flowSequenceEnd :: _ => true
  | _ => false

/-- Whether a node in braces is left out before a token. -/
def endsMappingNode : List Token → Bool
  | .flowEntry :: _ | .flowMappingEnd :: _ => true
  | _ => false

/-- Whether a key is left out before a token. -/
def endsFlowKey : List Token → Bool
  | .value :: _ => true
  | _ => false

mutual

/-- Reads a node.  Blocks are read where `inBlock`, and a sequence that is not indented where
`unindented`. -/
def node (handles : TagHandles) (inBlock unindented : Bool) :
    Nat → Anchors → List Token → Option (Parsed Node)
  | 0, _, _ => none
  | fuel + 1, anchors, .alias name :: ts =>
    let _ := fuel
    (anchors.find? (·.1 == name)).map fun (_, n) => (n, ts, anchors)
  | fuel + 1, anchors, ts =>
    match properties? handles ts with
    | none => none
    | some (p, ts) =>
      let items (parsed : Option (Parsed (List Node))) : Option (Parsed Node) :=
        parsed.map fun (items, ts, inner) =>
          (.sequence items, ts, p.settle (.sequence items) anchors inner)
      let entries (parsed : Option (Parsed (List (Node × Node)))) : Option (Parsed Node) :=
        parsed.map fun (entries, ts, inner) =>
          (.mapping entries, ts, p.settle (.mapping entries) anchors inner)
      let empty : Option (Parsed Node) :=
        if p.anchor?.isSome || p.tag?.isSome then
          let n : Node := .scalar p.tag? ⟨"", .plain⟩
          some (n, ts, p.name n anchors)
        else none
      match ts with
      | .scalar s :: ts =>
        let n := ofScalar p.tag? s
        some (n, ts, p.name n anchors)
      | .blockEntry :: _ =>
        if unindented then items (unindentedItems handles fuel (p.announce anchors) ts) else empty
      | .flowSequenceStart :: ts => items (flowItems handles true fuel (p.announce anchors) ts)
      | .flowMappingStart :: ts => entries (flowEntries handles true fuel (p.announce anchors) ts)
      | .blockSequenceStart :: ts' =>
        if inBlock then items (blockItems handles fuel (p.announce anchors) ts') else empty
      | .blockMappingStart :: ts' =>
        if inBlock then entries (blockEntries handles fuel (p.announce anchors) ts') else empty
      | _ => empty

/-- Reads a node, or nothing if it is left out. -/
def nodeOrMissing (handles : TagHandles) (inBlock unindented isMissing : Bool) :
    Nat → Anchors → List Token → Option (Parsed Node)
  | 0, _, _ => none
  | fuel + 1, anchors, ts =>
    if isMissing then some (missing, ts, anchors)
    else node handles inBlock unindented fuel anchors ts

/-- Reads the entries of a block sequence. -/
def blockItems (handles : TagHandles) :
    Nat → Anchors → List Token → Option (Parsed (List Node))
  | 0, _, _ => none
  | fuel + 1, anchors, .blockEntry :: ts =>
    match nodeOrMissing handles true false (endsBlockEntry ts) fuel anchors ts with
    | none => none
    | some (n, ts, anchors) =>
      (blockItems handles fuel anchors ts).map fun (items, rest) => (n :: items, rest)
  | _ + 1, anchors, .blockEnd :: ts => some ([], ts, anchors)
  | _ + 1, _, _ => none

/-- Reads the entries of a sequence that is not indented. -/
def unindentedItems (handles : TagHandles) :
    Nat → Anchors → List Token → Option (Parsed (List Node))
  | 0, _, _ => none
  | fuel + 1, anchors, .blockEntry :: ts =>
    match nodeOrMissing handles true false (endsBlockEntry ts || endsBlockNode ts) fuel anchors ts
    with
    | none => none
    | some (n, ts, anchors) =>
      (unindentedItems handles fuel anchors ts).map fun (items, rest) => (n :: items, rest)
  | _ + 1, anchors, ts => some ([], ts, anchors)

/-- Reads the entries of a block mapping. -/
def blockEntries (handles : TagHandles) :
    Nat → Anchors → List Token → Option (Parsed (List (Node × Node)))
  | 0, _, _ => none
  | fuel + 1, anchors, .key :: ts =>
    match nodeOrMissing handles true true (endsBlockNode ts) fuel anchors ts with
    | none => none
    | some (k, ts, anchors) =>
      match blockValue handles fuel anchors ts with
      | none => none
      | some (v, ts, anchors) =>
        (blockEntries handles fuel anchors ts).map fun (entries, rest) => ((k, v) :: entries, rest)
  | _ + 1, anchors, .blockEnd :: ts => some ([], ts, anchors)
  | _ + 1, _, _ => none

/-- Reads the value of a block mapping, if there is one. -/
def blockValue (handles : TagHandles) : Nat → Anchors → List Token → Option (Parsed Node)
  | 0, _, _ => none
  | fuel + 1, anchors, .value :: ts =>
    nodeOrMissing handles true true (endsBlockNode ts) fuel anchors ts
  | _ + 1, anchors, ts => some (missing, ts, anchors)

/-- Reads what follows in square brackets; after the first item a comma must come. -/
def flowItems (handles : TagHandles) (isFirst : Bool) :
    Nat → Anchors → List Token → Option (Parsed (List Node))
  | 0, _, _ => none
  | _ + 1, anchors, .flowSequenceEnd :: ts => some ([], ts, anchors)
  | fuel + 1, anchors, .flowEntry :: .flowSequenceEnd :: ts =>
    let _ := fuel
    if isFirst then none else some ([], ts, anchors)
  | fuel + 1, anchors, ts =>
    let ts? : Option (List Token) :=
      if isFirst then some ts
      else match ts with
        | .flowEntry :: ts => some ts
        | _ => none
    match ts? with
    | none => none
    | some ts =>
      match flowItem handles fuel anchors ts with
      | none => none
      | some (n, ts, anchors) =>
        (flowItems handles false fuel anchors ts).map fun (items, rest) => (n :: items, rest)

/-- Reads an item in square brackets, which may be a single key with its value. -/
def flowItem (handles : TagHandles) : Nat → Anchors → List Token → Option (Parsed Node)
  | 0, _, _ => none
  | fuel + 1, anchors, .key :: ts =>
    let isMissing := endsFlowKey ts || endsSequenceNode ts
    let ts := if isMissing then ts.drop 1 else ts
    match nodeOrMissing handles false false isMissing fuel anchors ts with
    | none => none
    | some (k, ts, anchors) =>
      (flowValue handles endsSequenceNode fuel anchors ts).map fun (v, rest) =>
        (.mapping [(k, v)], rest)
  | fuel + 1, anchors, ts => node handles false false fuel anchors ts

/-- Reads the value of a key in brackets, if there is one. -/
def flowValue (handles : TagHandles) (isMissing : List Token → Bool) :
    Nat → Anchors → List Token → Option (Parsed Node)
  | 0, _, _ => none
  | fuel + 1, anchors, .value :: ts =>
    nodeOrMissing handles false false (isMissing ts) fuel anchors ts
  | _ + 1, anchors, ts => some (missing, ts, anchors)

/-- Reads what follows in braces; after the first entry a comma must come. -/
def flowEntries (handles : TagHandles) (isFirst : Bool) :
    Nat → Anchors → List Token → Option (Parsed (List (Node × Node)))
  | 0, _, _ => none
  | _ + 1, anchors, .flowMappingEnd :: ts => some ([], ts, anchors)
  | fuel + 1, anchors, .flowEntry :: .flowMappingEnd :: ts =>
    let _ := fuel
    if isFirst then none else some ([], ts, anchors)
  | fuel + 1, anchors, ts =>
    let ts? : Option (List Token) :=
      if isFirst then some ts
      else match ts with
        | .flowEntry :: ts => some ts
        | _ => none
    match ts? with
    | none => none
    | some ts =>
      match flowEntry handles fuel anchors ts with
      | none => none
      | some (entry, ts, anchors) =>
        (flowEntries handles false fuel anchors ts).map fun (entries, rest) =>
          (entry :: entries, rest)

/-- Reads an entry in braces. -/
def flowEntry (handles : TagHandles) : Nat → Anchors → List Token → Option (Parsed (Node × Node))
  | 0, _, _ => none
  | fuel + 1, anchors, .key :: ts =>
    match nodeOrMissing handles false false (endsFlowKey ts || endsMappingNode ts) fuel anchors ts
    with
    | none => none
    | some (k, ts, anchors) =>
      (flowValue handles endsMappingNode fuel anchors ts).map fun (v, rest) => ((k, v), rest)
  | fuel + 1, anchors, ts =>
    (node handles false false fuel anchors ts).map fun (k, rest) => ((k, missing), rest)

end

/-! ## Documents -/

/-- Whether a document has no content before a token. -/
def endsDocument : List Token → Bool
  | [] => true
  | .versionDirective .. :: _ | .tagDirective .. :: _ | .documentStart :: _ | .documentEnd :: _ =>
    true
  | _ => false

/-- Reads directives: a version may be given once and must be 1.1 or 1.2, and a handle may be
given a meaning once. -/
def directives? (hasVersion : Bool) (handles : TagHandles) :
    List Token → Option (TagHandles × List Token)
  | .versionDirective major minor :: ts =>
    if hasVersion || major != 1 || (minor != 1 && minor != 2) then none
    else directives? true handles ts
  | .tagDirective handle base :: ts =>
    if handles.any (·.1 == handle) then none
    else directives? hasVersion (handles ++ [(handle, base)]) ts
  | ts => some (handles, ts)

/-- The content of one document and the tokens after it. -/
def document? (ts : List Token) : Option (Node × List Token) :=
  let content (handles : TagHandles) (ts : List Token) : Option (Node × List Token) :=
    (node (handles ++ standardHandles) true false (3 * ts.length + 4) [] ts).map
      fun (n, rest, _) => (n, rest)
  if endsDocument ts then
    match directives? false [] ts with
    | some (handles, .documentStart :: ts) =>
      if endsDocument ts then some (missing, ts) else content handles ts
    | _ => none
  else content [] ts

/-- The content of a text that holds at most one document. -/
def ofTokens? (ts : List Token) : Option (Option Node) :=
  if ts.isEmpty then some none
  else
    (document? ts).bind fun (n, rest) =>
      if rest.all (· = .documentEnd) then some (some n) else none

/-- Reads a text that holds at most one document. -/
def read? (text : List Char) : Option (Option Node) :=
  (Token.scan? text).bind ofTokens?

end Node
end GlyphGrid.Yaml
