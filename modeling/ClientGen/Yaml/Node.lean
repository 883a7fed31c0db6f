import ClientGen.Dict
import ClientGen.Yaml.Scalar
import ClientGen.Yaml.TokenStream

namespace ClientGen.Yaml

/-- A node. It still carries its tag and its anchor, which is known by a number that aliases refer
to. -/
inductive Node where
  | alias (anchor : Nat)
  | scalar (text : String) (plain : Bool) (tag : Option String) (anchor : Option Nat)
  | seq (items : List Node) (tag : Option String) (anchor : Option Nat)
  | map (entries : List (Node × Node)) (tag : Option String) (anchor : Option Nat)

def Node.empty : Node := .scalar "" true none none

/-- What is left to read, and the numbers of the anchors met so far. A number counts the different
names before it, so a name that is given again can move another name's number to itself. -/
structure NodeState where
  tokens : List Token
  anchors : Dict Nat := []

abbrev NodeReader := StateT NodeState Option

namespace NodeReader

def peek : NodeReader Token := do
  match (← get).tokens with
  | t :: _ => return t
  | [] => failure

def advance : NodeReader Unit := modify fun s => { s with tokens := s.tokens.drop 1 }

def number (name : String) : NodeReader Nat := do
  let n := (← get).anchors.length
  modify fun s => { s with anchors := Dict.put s.anchors name n }
  return n

def anchor? : NodeReader (Option String) := do
  match ← peek with
  | .anchor name => advance; return some name
  | _ => return none

/-- A tag, if one is next, with its handle resolved by the directives. -/
def tag? (handles : Dict String) : NodeReader (Option String) := do
  match ← peek with
  | .tag handle suffix =>
    advance
    if handle = "" then return some suffix
    match Dict.get? handles handle with
    | some start => return some (start ++ suffix)
    | none => failure
  | _ => return none

/-- Whether a token leaves an entry of a block mapping empty. -/
def endsBlockEntry : Token → Bool
  | .key | .value | .blockEnd => true
  | _ => false

mutual

/-- Read a node; `block` admits block collections, `indentless` a sequence whose dashes stand in
the column of the mapping around it. -/
def node (handles : Dict String) (block indentless : Bool) : Nat → NodeReader Node
  | 0 => failure
  | fuel + 1 => do
    if let .alias name := ← peek then
      match Dict.get? (← get).anchors name with
      | some n => advance; return .alias n
      | none => failure
    let before ← anchor?
    let tag ← tag? handles
    let name ← if before.isSome then pure before else anchor?
    let number ← match name with
      | some name => some <$> number name
      | none => pure none
    match ← peek with
    | .blockEntry =>
      if indentless then return .seq (← indentlessItems handles fuel) tag number
      else emptyNode tag number
    | .scalar text style =>
      advance
      return .scalar text (style = .plain) (if tag = some "!" then none else tag) number
    | .flowSequenceStart => advance; return .seq (← flowItems handles true fuel) tag number
    | .flowMappingStart => advance; return .map (← flowEntries handles true fuel) tag number
    | .blockSequenceStart =>
      if block then advance; return .seq (← blockItems handles fuel) tag number
      else emptyNode tag number
    | .blockMappingStart =>
      if block then advance; return .map (← blockEntries handles fuel) tag number
      else emptyNode tag number
    | _ => emptyNode tag number
where
  /-- A node without content needs a tag or an anchor. -/
  emptyNode (tag : Option String) (anchor : Option Nat) : NodeReader Node :=
    if tag.isNone && anchor.isNone then failure else return .scalar "" true tag anchor

def blockItems (handles : Dict String) : Nat → NodeReader (List Node)
  | 0 => failure
  | fuel + 1 => do
    match ← peek with
    | .blockEntry =>
      advance
      let item ← match ← peek with
        | .blockEntry | .blockEnd => pure Node.empty
        | _ => node handles true false fuel
      return item :: (← blockItems handles fuel)
    | .blockEnd => advance; return []
    | _ => failure

/-- The items of a sequence in the column of its mapping. -/
def indentlessItems (handles : Dict String) : Nat → NodeReader (List Node)
  | 0 => failure
  | fuel + 1 => do
    match ← peek with
    | .blockEntry =>
      advance
      let next ← peek
      let item ←
        if endsBlockEntry next || next = .blockEntry then pure Node.empty
        else node handles true false fuel
      return item :: (← indentlessItems handles fuel)
    | _ => return []

def blockEntries (handles : Dict String) : Nat → NodeReader (List (Node × Node))
  | 0 => failure
  | fuel + 1 => do
    match ← peek with
    | .key =>
      advance
      let key ← if endsBlockEntry (← peek) then pure Node.empty else node handles true true fuel
      return (key, ← blockValue handles fuel) :: (← blockEntries handles fuel)
    | .blockEnd => advance; return []
    | _ => failure

def blockValue (handles : Dict String) : Nat → NodeReader Node
  | 0 => failure
  | fuel + 1 => do
    match ← peek with
    | .value =>
      advance
      if endsBlockEntry (← peek) then return Node.empty else node handles true true fuel
    | _ => return Node.empty

/-- The items of a flow sequence, up to its end. An item with a key is a mapping of one entry. -/
def flowItems (handles : Dict String) (first : Bool) : Nat → NodeReader (List Node)
  | 0 => failure
  | fuel + 1 => do
    if (← peek) = .flowSequenceEnd then
      advance
      return []
    if !first then
      if (← peek) ≠ .flowEntry then failure
      advance
    match ← peek with
    | .flowSequenceEnd => advance; return []
    | .key =>
      advance
      let entry ← flowPair handles fuel
      return .map [entry] none none :: (← flowItems handles false fuel)
    | _ =>
      let item ← node handles false false fuel
      return item :: (← flowItems handles false fuel)

/-- The entry of a mapping of one entry in a flow sequence. A token that leaves its key empty is
passed over with it. -/
def flowPair (handles : Dict String) : Nat → NodeReader (Node × Node)
  | 0 => failure
  | fuel + 1 => do
    let key ← match ← peek with
      | .value | .flowEntry | .flowSequenceEnd => advance; pure Node.empty
      | _ => node handles false false fuel
    let value ← match ← peek with
      | .value =>
        advance
        match ← peek with
        | .flowEntry | .flowSequenceEnd => pure Node.empty
        | _ => node handles false false fuel
      | _ => pure Node.empty
    return (key, value)

def flowEntries (handles : Dict String) (first : Bool) : Nat → NodeReader (List (Node × Node))
  | 0 => failure
  | fuel + 1 => do
    if (← peek) = .flowMappingEnd then
      advance
      return []
    if !first then
      if (← peek) ≠ .flowEntry then failure
      advance
    match ← peek with
    | .flowMappingEnd => advance; return []
    | .key =>
      advance
      let key ← match ← peek with
        | .value | .flowEntry | .flowMappingEnd => pure Node.empty
        | _ => node handles false false fuel
      let value ← match ← peek with
        | .value =>
          advance
          match ← peek with
          | .flowEntry | .flowMappingEnd => pure Node.empty
          | _ => node handles false false fuel
        | _ => pure Node.empty
      return (key, value) :: (← flowEntries handles false fuel)
    | _ =>
      let key ← node handles false false fuel
      return (key, Node.empty) :: (← flowEntries handles false fuel)

end

/-- The handles that need no directive. -/
def standardHandles : Dict String := [("!", "!"), ("!!", "tag:yaml.org,2002:")]

/-- The directives before a document: at most one version, which must be 1.1 or 1.2, and tag
handles, each at most once. -/
def directives (version : Bool) (handles : Dict String) :
    List Token → Option (Dict String × List Token)
  | .versionDirective major minor :: rest =>
    if version || major ≠ 1 || (minor ≠ 1 && minor ≠ 2) then none
    else directives true handles rest
  | .tagDirective handle start :: rest =>
    if Dict.has handles handle then none
    else directives version (handles ++ [(handle, start)]) rest
  | rest => some (handles, rest)

/-- The one document of a text: `none` inside for a text without any. Markers of its end may
follow it, and nothing else. -/
def document (tokens : List Token) : Option (Option Node) := do
  let fuel := 3 * tokens.length + 8
  let finish (result : Node × NodeState) : Option (Option Node) :=
    match result.2.tokens.dropWhile (· = .documentEnd) with
    | [.streamEnd] => some (some result.1)
    | _ => none
  match tokens with
  | [.streamEnd] => some none
  | .versionDirective .. :: _ | .tagDirective .. :: _ | .documentStart :: _ =>
    let (handles, rest) ← directives false [] tokens
    let handles := handles ++ standardHandles
    match rest with
    | .documentStart :: rest =>
      match rest with
      | .versionDirective .. :: _ | .tagDirective .. :: _ | .documentStart :: _
      | .documentEnd :: _ | .streamEnd :: _ => finish (Node.empty, { tokens := rest })
      | _ => finish (← (node handles true false fuel).run { tokens := rest })
    | _ => none
  | _ => finish (← (node standardHandles true false fuel).run { tokens })

end NodeReader

namespace Node

mutual

/-- How many events a node takes: one, or two around those of its parts. -/
def events : Node → Nat
  | .alias _ | .scalar .. => 1
  | .seq items _ _ => eventsOfItems items + 2
  | .map entries _ _ => eventsOfEntries entries + 2

def eventsOfItems : List Node → Nat
  | [] => 0
  | item :: rest => events item + eventsOfItems rest

def eventsOfEntries : List (Node × Node) → Nat
  | [] => 0
  | entry :: rest => events entry.1 + events entry.2 + eventsOfEntries rest

end

def own (node : Node) : Option Nat → List (Nat × Node)
  | some n => [(n, node)]
  | none => []

mutual

/-- The anchored nodes in a node, in the order in which they begin. -/
def anchored : Node → List (Nat × Node)
  | .alias _ => []
  | .scalar text plain tag anchor => own (.scalar text plain tag anchor) anchor
  | .seq items tag anchor => own (.seq items tag anchor) anchor ++ anchoredItems items
  | .map entries tag anchor => own (.map entries tag anchor) anchor ++ anchoredEntries entries

def anchoredItems : List Node → List (Nat × Node)
  | [] => []
  | item :: rest => anchored item ++ anchoredItems rest

def anchoredEntries : List (Node × Node) → List (Nat × Node)
  | [] => []
  | entry :: rest => anchored entry.1 ++ anchored entry.2 ++ anchoredEntries rest

end

/-- The nodes that aliases stand for, and how many aliases may be followed. -/
structure Aliases where
  nodes : List (Nat × Node)
  limit : Nat

/-- Follow an alias, counting it. An anchor's number belongs to the last node that has it. -/
def follow (aliases : Aliases) : Node → StateT Nat Option Node
  | .alias n => do
    modify (· + 1)
    if aliases.limit < (← get) then failure
    match aliases.nodes.reverse.lookup n with
    | some node => return node
    | none => failure
  | node => return node

/-- A value under a local tag is marked as tagged. -/
def mark (tag : Option String) (value : Yaml) : Yaml :=
  if tag.any isLocalTag then .tagged value else value

/-- The value of a node; `depth` more collections may be entered. No two keys of a mapping may be
the same scalar. -/
def valueWithin? (aliases : Aliases) : Nat → Node → StateT Nat Option Yaml
  | depth, node => do
    match ← follow aliases node, depth with
    | .alias _, _ => failure
    | .scalar text plain tag _, _ => scalarValue? text plain tag
    | .seq items tag _, depth + 1 =>
      return mark tag (.seq (← items.mapM (valueWithin? aliases depth)))
    | .map entries tag _, depth + 1 =>
      let entries ← entries.foldlM (fun done entry => do
        let key ← valueWithin? aliases depth entry.1
        if done.any (fun e => sameScalar e.1 key) then failure
        return done ++ [(key, ← valueWithin? aliases depth entry.2)]) []
      return mark tag (.map entries)
    | _, 0 => failure

def maxDepth : Nat := 128

/-- The value of a document's node. At most a hundred aliases may be followed for each event. -/
def value? (node : Node) : Option Yaml :=
  let aliases : Aliases := { nodes := node.anchored, limit := 100 * node.events }
  ((valueWithin? aliases maxDepth node).run 0).map Prod.fst

end Node

/-- Read a text that holds one document, or none: then the value is null. -/
def ofText? (s : String) : Option Yaml := do
  let tokens ← tokens? s
  match ← NodeReader.document tokens with
  | some node => node.value?
  | none => some .null

end ClientGen.Yaml
