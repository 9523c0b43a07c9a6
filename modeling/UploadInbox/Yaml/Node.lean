import UploadInbox.Yaml.Token

/-!
# Nodes

A document as a tree of scalars, sequences and mappings. An alias stands for the node that carries
its anchor; it stays an alias only where it stands inside that very node.
-/
namespace UploadInbox.Yaml

inductive Node where
  | scalar (tag : Option Text) (style : Style) (text : Text)
  | sequence (items : List Node)
  | mapping (members : List (Node × Node))
  | aliasOf (name : Text)
  | anchored (name : Text) (node : Node)
  deriving Repr

namespace Node

/-- The scalar that stands where nothing is written. -/
def empty : Node := scalar none .plain []

/-- What stands before the content of a node. -/
structure Properties where
  anchor : Option Text
  tag : Option (Text × Text)

/-- The properties at the front of tokens, in either order, and what follows them. -/
def properties : List Token → Properties × List Token
  | .anchor name :: .tag handle suffix :: rest => (⟨some name, some (handle, suffix)⟩, rest)
  | .tag handle suffix :: .anchor name :: rest => (⟨some name, some (handle, suffix)⟩, rest)
  | .anchor name :: rest => (⟨some name, none⟩, rest)
  | .tag handle suffix :: rest => (⟨none, some (handle, suffix)⟩, rest)
  | rest => (⟨none, none⟩, rest)

def Properties.anchored (p : Properties) (node : Node) : Node :=
  match p.anchor with
  | some name => .anchored name node
  | none => node

/-- The tag of properties in full, by the prefixes that are known; a lone mark is no tag. -/
def Properties.tag? (prefixes : List (Text × Text)) (p : Properties) : Option (Option Text) :=
  match p.tag with
  | none => some none
  | some ([], suffix) => some (if suffix = ['!'] then none else some suffix)
  | some (handle, suffix) =>
    (prefixes.find? fun entry => entry.1 = handle).map fun entry => some (entry.2 ++ suffix)

/-- Whether nothing is written before a token of a block. -/
def endsBlockItem : List Token → Bool
  | .key :: _ | .value :: _ | .blockEnd :: _ => true
  | _ => false

def endsSequenceItem : List Token → Bool
  | .blockEntry :: _ | .blockEnd :: _ => true
  | _ => false

def endsFlowItem : List Token → Bool
  | .flowEntry :: _ | .flowSequenceEnd :: _ | .flowMappingEnd :: _ => true
  | _ => false

variable (prefixes : List (Text × Text))

mutual

/-- The node at the front of tokens, and what follows it. Blocks are allowed or not, and so are the
items of a sequence at the indentation of the mapping around it. -/
def read? : Nat → Bool → Bool → List Token → Option (Node × List Token)
  | 0, _, _, _ => none
  | fuel + 1, block, indentless, tokens =>
    match tokens with
    | .aliasOf name :: rest => some (.aliasOf name, rest)
    | tokens =>
      let (p, rest) := properties tokens
      match p.tag? prefixes with
      | none => none
      | some tag =>
        let content : Option (Node × List Token) :=
          match rest with
          | .scalar style text :: rest => some (.scalar tag style text, rest)
          | .flowSequenceStart :: rest => (flowItems? fuel true rest).map fun (items, rest) =>
              (.sequence items, rest)
          | .flowMappingStart :: rest => (flowMembers? fuel true rest).map fun (members, rest) =>
              (.mapping members, rest)
          | .blockEntry :: _ =>
            if indentless then (indentlessItems? fuel rest).map fun (items, rest) =>
              (.sequence items, rest)
            else if p.anchor.isSome || p.tag.isSome then some (.scalar tag .plain [], rest)
            else none
          | .sequenceStart :: rest' =>
            if block then (blockItems? fuel rest').map fun (items, rest) => (.sequence items, rest)
            else if p.anchor.isSome || p.tag.isSome then some (.scalar tag .plain [], rest)
            else none
          | .mappingStart :: rest' =>
            if block then
              (blockMembers? fuel rest').map fun (members, rest) => (.mapping members, rest)
            else if p.anchor.isSome || p.tag.isSome then some (.scalar tag .plain [], rest)
            else none
          | rest =>
            if p.anchor.isSome || p.tag.isSome then some (.scalar tag .plain [], rest) else none
        content.map fun (node, rest) => (p.anchored node, rest)

def blockItems? : Nat → List Token → Option (List Node × List Token)
  | 0, _ => none
  | fuel + 1, tokens =>
    match tokens with
    | .blockEnd :: rest => some ([], rest)
    | .blockEntry :: rest =>
      let item := if endsSequenceItem rest then some (empty, rest) else read? fuel true false rest
      match item with
      | none => none
      | some (item, rest) => (blockItems? fuel rest).map fun (items, rest) => (item :: items, rest)
    | _ => none

/-- The items of a sequence at the indentation of the mapping around it. -/
def indentlessItems? : Nat → List Token → Option (List Node × List Token)
  | 0, _ => none
  | fuel + 1, tokens =>
    match tokens with
    | .blockEntry :: rest =>
      let item :=
        if endsSequenceItem rest || endsBlockItem rest then some (empty, rest)
        else read? fuel true false rest
      match item with
      | none => none
      | some (item, rest) =>
        (indentlessItems? fuel rest).map fun (items, rest) => (item :: items, rest)
    | rest => some ([], rest)

def blockMembers? : Nat → List Token → Option (List (Node × Node) × List Token)
  | 0, _ => none
  | fuel + 1, tokens =>
    match tokens with
    | .blockEnd :: rest => some ([], rest)
    | .key :: rest =>
      let key := if endsBlockItem rest then some (empty, rest) else read? fuel true true rest
      match key with
      | none => none
      | some (key, .value :: rest) =>
        let value := if endsBlockItem rest then some (empty, rest) else read? fuel true true rest
        match value with
        | none => none
        | some (value, rest) =>
          (blockMembers? fuel rest).map fun (members, rest) => ((key, value) :: members, rest)
      | some (key, rest) =>
        (blockMembers? fuel rest).map fun (members, rest) => ((key, empty) :: members, rest)
    | _ => none

def flowValue? : Nat → List Token → Option (Node × List Token)
  | 0, _ => none
  | fuel + 1, tokens =>
    match tokens with
    | .value :: rest =>
      if endsFlowItem rest then some (empty, rest) else read? fuel false false rest
    | rest => some (empty, rest)

/-- The items of a sequence in brackets, to its end. A comma stands before each but the first. -/
def flowItems? : Nat → Bool → List Token → Option (List Node × List Token)
  | 0, _, _ => none
  | fuel + 1, first, tokens =>
    match tokens with
    | .flowSequenceEnd :: rest => some ([], rest)
    | tokens =>
      let entry : Option (List Token) :=
        match first, tokens with
        | true, tokens => some tokens
        | false, .flowEntry :: rest => some rest
        | false, _ => none
      match entry with
      | none => none
      | some (.flowSequenceEnd :: rest) => some ([], rest)
      | some (.key :: rest) =>
        let key :=
          match rest with
          | .value :: rest | .flowEntry :: rest | .flowSequenceEnd :: rest => some (empty, rest)
          | rest => read? fuel false false rest
        match key with
        | none => none
        | some (key, rest) =>
          match flowValue? fuel rest with
          | none => none
          | some (value, rest) =>
            (flowItems? fuel false rest).map fun (items, rest) =>
              (.mapping [(key, value)] :: items, rest)
      | some tokens =>
        match read? fuel false false tokens with
        | none => none
        | some (item, rest) =>
          (flowItems? fuel false rest).map fun (items, rest) => (item :: items, rest)

/-- The members of a mapping in brackets, to its end. A comma stands before each but the first. -/
def flowMembers? : Nat → Bool → List Token → Option (List (Node × Node) × List Token)
  | 0, _, _ => none
  | fuel + 1, first, tokens =>
    match tokens with
    | .flowMappingEnd :: rest => some ([], rest)
    | tokens =>
      let entry : Option (List Token) :=
        match first, tokens with
        | true, tokens => some tokens
        | false, .flowEntry :: rest => some rest
        | false, _ => none
      match entry with
      | none => none
      | some (.flowMappingEnd :: rest) => some ([], rest)
      | some (.key :: rest) =>
        let key :=
          match rest with
          | .value :: _ | .flowEntry :: _ | .flowMappingEnd :: _ => some (empty, rest)
          | rest => read? fuel false false rest
        match key with
        | none => none
        | some (key, rest) =>
          match flowValue? fuel rest with
          | none => none
          | some (value, rest) =>
            (flowMembers? fuel false rest).map fun (members, rest) =>
              ((key, value) :: members, rest)
      | some tokens =>
        match read? fuel false false tokens with
        | none => none
        | some (key, rest) =>
          (flowMembers? fuel false rest).map fun (members, rest) => ((key, empty) :: members, rest)

end

def standardPrefixes : List (Text × Text) :=
  [("!", "!"), ("!!", "tag:yaml.org,2002:")]

/-- The directives at the front of tokens, and what follows them: whether there are any, whether one
gives the version, and the tag prefixes. -/
def directives? (any version : Bool) (own : List (Text × Text)) :
    List Token → Option (Bool × List (Text × Text) × List Token)
  | .version major minor :: rest =>
    if !version && major = 1 && (minor = 1 || minor = 2) then directives? true true own rest
    else none
  | .tagPrefix handle uri :: rest =>
    if own.any (·.1 = handle) then none
    else directives? true version ((handle, uri) :: own) rest
  | rest => some (any, own, rest)

/-- The node of a document that is all there is. -/
def ofTokens? (tokens : List Token) : Option Node := do
  let (any, own, rest) ← directives? false false [] tokens
  let prefixes := own ++ standardPrefixes
  let fuel := 3 * tokens.length + 3
  let (node, rest) ←
    match rest with
    | .documentStart :: rest =>
      match rest with
      | [] | .documentEnd :: _ => some (empty, rest)
      | rest => read? prefixes fuel true false rest
    | rest => if any then none else read? prefixes fuel true false rest
  if (rest.dropWhile (· = .documentEnd)).isEmpty then some node else none

mutual

/-- A node with its aliases replaced, given the nodes of the anchors before it, and the nodes of
the anchors after it. The node of an anchor is not known inside itself. -/
def resolve (known : List (Text × Option Node)) :
    Node → Option (Node × List (Text × Option Node))
  | scalar tag style text => some (scalar tag style text, known)
  | aliasOf name =>
    match known.find? fun entry => entry.1 = name with
    | none => none
    | some (_, none) => some (aliasOf name, known)
    | some (_, some node) => some (node, known)
  | anchored name node =>
    match resolve ((name, none) :: known) node with
    | none => none
    | some (node, known) => some (node, (name, some node) :: known)
  | sequence items =>
    (resolveItems known items).map fun (items, known) => (sequence items, known)
  | mapping members =>
    (resolveMembers known members).map fun (members, known) => (mapping members, known)

def resolveItems (known : List (Text × Option Node)) :
    List Node → Option (List Node × List (Text × Option Node))
  | [] => some ([], known)
  | item :: items =>
    match resolve known item with
    | none => none
    | some (item, known) =>
      (resolveItems known items).map fun (items, known) => (item :: items, known)

def resolveMembers (known : List (Text × Option Node)) :
    List (Node × Node) → Option (List (Node × Node) × List (Text × Option Node))
  | [] => some ([], known)
  | (key, value) :: members =>
    match resolve known key with
    | none => none
    | some (key, known) =>
      match resolve known value with
      | none => none
      | some (value, known) =>
        (resolveMembers known members).map fun (members, known) => ((key, value) :: members, known)

end

/-- The node of a text that is one document. -/
def ofText? (t : Text) : Option Node :=
  ((tokens? t).bind ofTokens?).bind fun node => (resolve [] node).map (·.1)

end Node
end UploadInbox.Yaml
