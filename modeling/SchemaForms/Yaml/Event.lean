import SchemaForms.Yaml.Token

/-!
# Yaml/Event — the events of a YAML document

The grammar of tokens, read by recursive descent into a flat list of events: scalars, aliases, and
the beginning and end of each collection.  What is missing between tokens, such as the value of a
lone key, is an empty plain scalar.

Each function takes `fuel`, and each second call reads at least one token.
-/

namespace SchemaForms.Yaml

/-- What a node may carry in front of its content. -/
structure Properties where
  anchor : Option (List Char)
  tag : Option Tag
  deriving DecidableEq

/-- An event of a YAML document. -/
inductive Event where
  | alias (name : List Char)
  | scalar (properties : Properties) (plain : Bool) (text : List Char)
  | sequenceStart (properties : Properties)
  | sequenceEnd
  | mappingStart (properties : Properties)
  | mappingEnd
  deriving DecidableEq

namespace Event

/-- The expansions of tag handles. -/
abbrev Handles := List (List Char × Tag)

/-- The handles that every document knows. -/
def defaultHandles : Handles :=
  [(['!'], Tag.ofText ['!']), (['!', '!'], Tag.coreHandle)]

/-- The scalar that stands where nothing is written. -/
def empty : Event := .scalar ⟨none, none⟩ true []

/-- What a step of the grammar returns: its events and the tokens behind them. -/
abbrev Parsed := Except Fault (List Event × List Token)

/-- Puts events in front of the result of a step. -/
def before (events : List Event) (parsed : Parsed) : Parsed :=
  parsed.map fun (more, tokens) => (events ++ more, tokens)

/-- The full tag of a handle and a suffix. -/
def expand (handles : Handles) (handle : List Char) (suffix : Tag) : Except Fault Tag :=
  if handle.isEmpty then .ok suffix
  else match handles.find? (·.1 = handle) with
    | some (_, expansion) => .ok (expansion ++ suffix)
    | none => .error .tag

/-- Reads an anchor and a tag, in either order. -/
def readProperties (handles : Handles) : List Token → Except Fault (Properties × List Token)
  | .anchor name :: .tag handle suffix :: tokens => do
    .ok (⟨some name, some (← expand handles handle suffix)⟩, tokens)
  | .anchor name :: tokens => .ok (⟨some name, none⟩, tokens)
  | .tag handle suffix :: .anchor name :: tokens => do
    .ok (⟨some name, some (← expand handles handle suffix)⟩, tokens)
  | .tag handle suffix :: tokens => do
    .ok (⟨none, some (← expand handles handle suffix)⟩, tokens)
  | tokens => .ok (⟨none, none⟩, tokens)

/-- Whether an entry of a block sequence ends before this token. -/
def endsEntry : List Token → Bool
  | [] | .blockEntry :: _ | .blockEnd :: _ => true
  | _ => false

/-- Whether an entry of a sequence written at the column of its key ends before this token. -/
def endsInnerEntry : List Token → Bool
  | [] | .blockEntry :: _ | .key :: _ | .value :: _ | .blockEnd :: _ => true
  | _ => false

/-- Whether a key or value of a block mapping ends before this token. -/
def endsPart : List Token → Bool
  | [] | .key :: _ | .value :: _ | .blockEnd :: _ => true
  | _ => false

mutual

/-- Reads a node. `block` allows block collections, `inner` a sequence at the column of its key. -/
def node (handles : Handles) (block inner : Bool) : Nat → List Token → Parsed
  | 0, _ => .error .nesting
  | fuel + 1, tokens =>
    match tokens with
    | .alias name :: tokens => .ok ([.alias name], tokens)
    | _ =>
      match readProperties handles tokens with
      | .error fault => .error fault
      | .ok (properties, tokens) =>
        match tokens with
        | .scalar plain text :: tokens => .ok ([.scalar properties plain text], tokens)
        | .flowSequenceStart :: tokens =>
          before [.sequenceStart properties] (flowItems handles true fuel tokens)
        | .flowMappingStart :: tokens =>
          before [.mappingStart properties] (flowPairs handles true fuel tokens)
        | .blockSequenceStart :: rest =>
          if block then before [.sequenceStart properties] (blockItems handles fuel rest)
          else bare properties tokens
        | .blockMappingStart :: rest =>
          if block then before [.mappingStart properties] (blockPairs handles fuel rest)
          else bare properties tokens
        | .blockEntry :: _ =>
          if inner then before [.sequenceStart properties] (innerItems handles fuel tokens)
          else bare properties tokens
        | tokens => bare properties tokens

/-- A node without content needs an anchor or a tag. -/
def bare (properties : Properties) (tokens : List Token) : Parsed :=
  if properties.anchor.isSome || properties.tag.isSome then
    .ok ([.scalar properties true []], tokens)
  else .error .nesting

/-- The entries of a block sequence. -/
def blockItems (handles : Handles) : Nat → List Token → Parsed
  | 0, _ => .error .nesting
  | fuel + 1, tokens =>
    match tokens with
    | .blockEntry :: tokens =>
      if endsEntry tokens then before [empty] (blockItems handles fuel tokens)
      else
        match node handles true false fuel tokens with
        | .error fault => .error fault
        | .ok (item, tokens) => before item (blockItems handles fuel tokens)
    | .blockEnd :: tokens => .ok ([.sequenceEnd], tokens)
    | _ => .error .nesting

/-- The entries of a block sequence at the column of its key. -/
def innerItems (handles : Handles) : Nat → List Token → Parsed
  | 0, _ => .error .nesting
  | fuel + 1, tokens =>
    match tokens with
    | .blockEntry :: tokens =>
      if endsInnerEntry tokens then before [empty] (innerItems handles fuel tokens)
      else
        match node handles true false fuel tokens with
        | .error fault => .error fault
        | .ok (item, tokens) => before item (innerItems handles fuel tokens)
    | _ => .ok ([.sequenceEnd], tokens)

/-- The pairs of a block mapping, from a key on. -/
def blockPairs (handles : Handles) : Nat → List Token → Parsed
  | 0, _ => .error .nesting
  | fuel + 1, tokens =>
    match tokens with
    | .key :: tokens =>
      if endsPart tokens then before [empty] (blockValue handles fuel tokens)
      else
        match node handles true true fuel tokens with
        | .error fault => .error fault
        | .ok (key, tokens) => before key (blockValue handles fuel tokens)
    | .blockEnd :: tokens => .ok ([.mappingEnd], tokens)
    | _ => .error .nesting

/-- The pairs of a block mapping, from a value on. -/
def blockValue (handles : Handles) : Nat → List Token → Parsed
  | 0, _ => .error .nesting
  | fuel + 1, tokens =>
    match tokens with
    | .value :: tokens =>
      if endsPart tokens then before [empty] (blockPairs handles fuel tokens)
      else
        match node handles true true fuel tokens with
        | .error fault => .error fault
        | .ok (value, tokens) => before value (blockPairs handles fuel tokens)
    | _ => before [empty] (blockPairs handles fuel tokens)

/-- The entries of a flow sequence; a comma stands before each but the first. -/
def flowItems (handles : Handles) (first : Bool) : Nat → List Token → Parsed
  | 0, _ => .error .nesting
  | fuel + 1, tokens =>
    match tokens with
    | .flowSequenceEnd :: tokens => .ok ([.sequenceEnd], tokens)
    | _ =>
      let entry : Option (List Token) := if first then some tokens else
        match tokens with
        | .flowEntry :: tokens => some tokens
        | _ => none
      match entry with
      | none => .error .nesting
      | some (.flowSequenceEnd :: tokens) => .ok ([.sequenceEnd], tokens)
      | some (.key :: tokens) =>
        before [.mappingStart ⟨none, none⟩] (flowSingleKey handles fuel tokens)
      | some tokens =>
        match node handles false false fuel tokens with
        | .error fault => .error fault
        | .ok (item, tokens) => before item (flowItems handles false fuel tokens)

/-- A mapping of one pair inside a flow sequence, from its key on.  A token that shows that there is
no key is skipped. -/
def flowSingleKey (handles : Handles) : Nat → List Token → Parsed
  | 0, _ => .error .nesting
  | fuel + 1, tokens =>
    match tokens with
    | .value :: tokens | .flowEntry :: tokens | .flowSequenceEnd :: tokens =>
      before [empty] (flowSingleValue handles fuel tokens)
    | _ =>
      match node handles false false fuel tokens with
      | .error fault => .error fault
      | .ok (key, tokens) => before key (flowSingleValue handles fuel tokens)

/-- A mapping of one pair inside a flow sequence, from its value on. -/
def flowSingleValue (handles : Handles) : Nat → List Token → Parsed
  | 0, _ => .error .nesting
  | fuel + 1, tokens =>
    match tokens with
    | .value :: .flowEntry :: tokens =>
      before [empty, .mappingEnd] (flowItems handles false fuel (.flowEntry :: tokens))
    | .value :: .flowSequenceEnd :: tokens =>
      before [empty, .mappingEnd] (flowItems handles false fuel (.flowSequenceEnd :: tokens))
    | .value :: tokens =>
      match node handles false false fuel tokens with
      | .error fault => .error fault
      | .ok (value, tokens) =>
        before (value ++ [.mappingEnd]) (flowItems handles false fuel tokens)
    | _ => before [empty, .mappingEnd] (flowItems handles false fuel tokens)

/-- The pairs of a flow mapping, from a key on; a comma stands before each but the first. -/
def flowPairs (handles : Handles) (first : Bool) : Nat → List Token → Parsed
  | 0, _ => .error .nesting
  | fuel + 1, tokens =>
    match tokens with
    | .flowMappingEnd :: tokens => .ok ([.mappingEnd], tokens)
    | _ =>
      let entry : Option (List Token) := if first then some tokens else
        match tokens with
        | .flowEntry :: tokens => some tokens
        | _ => none
      match entry with
      | none => .error .nesting
      | some (.flowMappingEnd :: tokens) => .ok ([.mappingEnd], tokens)
      | some (.key :: tokens) =>
        match tokens with
        | .value :: _ | .flowEntry :: _ | .flowMappingEnd :: _ | [] =>
          before [empty] (flowValue handles fuel tokens)
        | _ =>
          match node handles false false fuel tokens with
          | .error fault => .error fault
          | .ok (key, tokens) => before key (flowValue handles fuel tokens)
      | some tokens =>
        match node handles false false fuel tokens with
        | .error fault => .error fault
        | .ok (key, tokens) => before (key ++ [empty]) (flowPairs handles false fuel tokens)

/-- The pairs of a flow mapping, from a value on. -/
def flowValue (handles : Handles) : Nat → List Token → Parsed
  | 0, _ => .error .nesting
  | fuel + 1, tokens =>
    match tokens with
    | .value :: tokens =>
      match tokens with
      | .flowEntry :: _ | .flowMappingEnd :: _ =>
        before [empty] (flowPairs handles false fuel tokens)
      | _ =>
        match node handles false false fuel tokens with
        | .error fault => .error fault
        | .ok (value, tokens) => before value (flowPairs handles false fuel tokens)
    | _ => before [empty] (flowPairs handles false fuel tokens)

end

/-! ## Documents -/

/-- Reads directives: the handles they declare, and whether there was a version.  A version other
than 1.1 and 1.2, a second version and a repeated handle are refused. -/
def directives (handles : Handles) (versioned : Bool) :
    List Token → Except Fault (Handles × List Token)
  | .version major minor :: tokens =>
    if versioned || major ≠ 1 || (minor ≠ 1 && minor ≠ 2) then .error .directive
    else directives handles true tokens
  | .tagDirective handle expansion :: tokens =>
    if handles.any (·.1 = handle) then .error .directive
    else directives (handles ++ [(handle, expansion)]) versioned tokens
  | tokens => .ok (handles, tokens)

/-- Whether a token begins the part of a document before its content. -/
def startsPrologue : List Token → Bool
  | .version _ _ :: _ | .tagDirective _ _ :: _ | .documentStart :: _ => true
  | _ => false

/-- Whether an explicit document has no content. -/
def endsDocument : List Token → Bool
  | [] | .documentEnd :: _ => true
  | tokens => startsPrologue tokens

/-- Whether only document ends are left. -/
def isOver (tokens : List Token) : Bool := tokens.all (· = .documentEnd)

/-- The events of a stream of at most one document; a stream without a document has none. -/
def ofTokens (tokens : List Token) : Except Fault (List Event) := do
  let fuel := 4 * tokens.length + 8
  let (events, rest) ←
    if tokens.isEmpty then pure ([], [])
    else if startsPrologue tokens then do
      let (declared, rest) ← directives [] false tokens
      match rest with
      | .documentStart :: rest =>
        if endsDocument rest then pure ([empty], rest)
        else node (declared ++ defaultHandles) true false fuel rest
      | _ => .error .nesting
    else node defaultHandles true false fuel tokens
  if isOver rest then .ok events
  else if startsPrologue (rest.dropWhile (· = .documentEnd)) then .error .documents
  else .error .nesting

end Event

end SchemaForms.Yaml
