import ProtoModules.Data.Yaml.Scan
import ProtoModules.Data.Refusal

/-! Nodes: what the tokens of a YAML text say, before scalars are given a meaning. A reader answers the
node and the tokens behind it. A node that is not written is an empty plain scalar. -/

namespace ProtoModules.Data.Yaml

inductive Node where
  | scalar (tag : Option (List Char)) (text : List Char) (plain : Bool)
  | sequence (tag : Option (List Char)) (items : List Node)
  | mapping (tag : Option (List Char)) (pairs : List (Node × Node))
  | reference (name : List Char)
  | anchored (name : List Char) (node : Node)
  deriving Inhabited

abbrev Handles := List (List Char × List Char)

namespace Node

def missing : Node := scalar none [] true

def commonHandles : Handles :=
  [(['!'], ['!']), (['!', '!'], "tag:yaml.org,2002:".toList)]

structure Properties where
  anchor : Option (List Char) := none
  tag : Option (List Char) := none

def fullTag (handles : Handles) : Option (List Char) → List Char → Except Refusal (List Char)
  | none, suffix => .ok suffix
  | some handle, suffix => Refusal.required ((handles.lookup handle).map (· ++ suffix))

/-- The anchor and the tag in front of a node, each at most once. -/
def properties (handles : Handles) : List Token → Except Refusal (Properties × List Token)
  | .anchor name :: .tag handle suffix :: rest =>
    (fullTag handles handle suffix).map fun tag => (⟨some name, some tag⟩, rest)
  | .tag handle suffix :: .anchor name :: rest =>
    (fullTag handles handle suffix).map fun tag => (⟨some name, some tag⟩, rest)
  | .anchor name :: rest => .ok (⟨some name, none⟩, rest)
  | .tag handle suffix :: rest =>
    (fullTag handles handle suffix).map fun tag => (⟨none, some tag⟩, rest)
  | tokens => .ok ({}, tokens)

def withAnchor (p : Properties) (n : Node) : Node :=
  match p.anchor with
  | some name => anchored name n
  | none => n

def bare (p : Properties) (tokens : List Token) : Except Refusal (Node × List Token) :=
  if p.anchor.isSome || p.tag.isSome then .ok (scalar p.tag [] p.tag.isNone, tokens)
  else .error .malformed

def startsWithAny (tokens : List Token) (marks : List Token) : Bool :=
  match tokens with
  | [] => true
  | t :: _ => marks.contains t

def behindBlock : List Token → Except Refusal (List Token)
  | .blockEnd :: rest => .ok rest
  | _ => .error .malformed

/-- The place where another item of a flow collection stands. -/
def nextInFlow (first : Bool) (tokens : List Token) : Except Refusal (List Token) :=
  if first then .ok tokens
  else match tokens with
    | .flowEntry :: rest => .ok rest
    | _ => .error .malformed

def deepest : Nat := 490

/-- What is known where a node stands: the meaning of handles, and how many collections may still lie
in one another there. -/
structure Context where
  handles : Handles
  room : Nat := deepest

def Context.deeper (c : Context) : Except Refusal Context :=
  if c.room = 0 then .error .tooDeep else .ok { c with room := c.room - 1 }

mutual

/-- A node. Block collections are allowed where `block` holds, and a sequence without indentation of
its own where `indentless` holds. -/
def node (c : Context) (block indentless : Bool) :
    (fuel : Nat) → List Token → Except Refusal (Node × List Token)
  | 0, _ => .error .malformed
  | fuel + 1, tokens =>
    match tokens with
    | .reference name :: rest => .ok (reference name, rest)
    | _ => do
      let (p, tokens) ← properties c.handles tokens
      let (n, rest) ← match tokens with
        | .scalar text plain :: rest => .ok (scalar p.tag text plain, rest)
        | _ => collection c block indentless fuel p tokens
      return (withAnchor p n, rest)

/-- A collection, or nothing at all behind some properties. -/
def collection (c : Context) (block indentless : Bool) :
    (fuel : Nat) → Properties → List Token → Except Refusal (Node × List Token)
  | 0, _, _ => .error .malformed
  | fuel + 1, p, tokens =>
    match tokens with
    | .flowSequenceStart :: rest => do
      let (items, rest) ← flowItems (← c.deeper) true fuel rest
      return (sequence p.tag items, rest)
    | .flowMappingStart :: rest => do
      let (pairs, rest) ← flowPairs (← c.deeper) true fuel rest
      return (mapping p.tag pairs, rest)
    | .blockSequenceStart :: rest =>
      if block then do
        let (items, rest) ← blockItems (← c.deeper) fuel rest
        return (sequence p.tag items, ← behindBlock rest)
      else bare p tokens
    | .blockMappingStart :: rest =>
      if block then do
        let (pairs, rest) ← blockPairs (← c.deeper) fuel rest
        return (mapping p.tag pairs, ← behindBlock rest)
      else bare p tokens
    | .blockEntry :: _ =>
      if indentless then do
        let (items, rest) ← entries (← c.deeper) fuel tokens
        return (sequence p.tag items, rest)
      else bare p tokens
    | _ => bare p tokens

def blockItems (c : Context) :
    (fuel : Nat) → List Token → Except Refusal (List Node × List Token)
  | 0, _ => .error .malformed
  | fuel + 1, tokens =>
    match tokens with
    | .blockEntry :: rest => do
      let (item, rest) ←
        if startsWithAny rest [.blockEntry, .blockEnd] then .ok (missing, rest)
        else node c true false fuel rest
      let (items, rest) ← blockItems c fuel rest
      return (item :: items, rest)
    | _ => .ok ([], tokens)

/-- The items of a sequence that is indented no further than the key it belongs to. -/
def entries (c : Context) :
    (fuel : Nat) → List Token → Except Refusal (List Node × List Token)
  | 0, _ => .error .malformed
  | fuel + 1, tokens =>
    match tokens with
    | .blockEntry :: rest => do
      let (item, rest) ←
        if startsWithAny rest [.blockEntry, .key, .value, .blockEnd] then .ok (missing, rest)
        else node c true false fuel rest
      let (items, rest) ← entries c fuel rest
      return (item :: items, rest)
    | _ => .ok ([], tokens)

def blockPart (c : Context) :
    (fuel : Nat) → List Token → Except Refusal (Node × List Token)
  | 0, _ => .error .malformed
  | fuel + 1, tokens =>
    if startsWithAny tokens [.key, .value, .blockEnd] then .ok (missing, tokens)
    else node c true true fuel tokens

def blockPairs (c : Context) :
    (fuel : Nat) → List Token → Except Refusal (List (Node × Node) × List Token)
  | 0, _ => .error .malformed
  | fuel + 1, tokens =>
    match tokens with
    | .key :: rest => do
      let (k, rest) ← blockPart c fuel rest
      let (v, rest) ← match rest with
        | .value :: rest => blockPart c fuel rest
        | _ => .ok (missing, rest)
      let (pairs, rest) ← blockPairs c fuel rest
      return ((k, v) :: pairs, rest)
    | _ => .ok ([], tokens)

def flowPart (c : Context) (marks : List Token) :
    (fuel : Nat) → List Token → Except Refusal (Node × List Token)
  | 0, _ => .error .malformed
  | fuel + 1, tokens =>
    if startsWithAny tokens marks then .ok (missing, tokens)
    else node c false false fuel tokens

/-- A key behind its mark and its value in a flow collection that `closing` ends. -/
def flowPair (c : Context) (closing : Token) :
    (fuel : Nat) → List Token → Except Refusal ((Node × Node) × List Token)
  | 0, _ => .error .malformed
  | fuel + 1, tokens => do
    let (k, rest) ← flowPart c [.value, .flowEntry, closing] fuel tokens
    match rest with
    | .value :: rest =>
      let (v, rest) ← flowPart c [.flowEntry, closing] fuel rest
      return ((k, v), rest)
    | _ => return ((k, missing), rest)

def flowItems (c : Context) (first : Bool) :
    (fuel : Nat) → List Token → Except Refusal (List Node × List Token)
  | 0, _ => .error .malformed
  | fuel + 1, tokens =>
    match tokens with
    | .flowSequenceEnd :: rest => .ok ([], rest)
    | _ => do
      match ← nextInFlow first tokens with
      | .flowSequenceEnd :: rest => return ([], rest)
      | .key :: rest =>
        let (pair, rest) ← flowPair (← c.deeper) .flowSequenceEnd fuel rest
        let (items, rest) ← flowItems c false fuel rest
        return (mapping none [pair] :: items, rest)
      | tokens =>
        let (item, rest) ← node c false false fuel tokens
        let (items, rest) ← flowItems c false fuel rest
        return (item :: items, rest)

def flowPairs (c : Context) (first : Bool) :
    (fuel : Nat) → List Token → Except Refusal (List (Node × Node) × List Token)
  | 0, _ => .error .malformed
  | fuel + 1, tokens =>
    match tokens with
    | .flowMappingEnd :: rest => .ok ([], rest)
    | _ => do
      match ← nextInFlow first tokens with
      | .flowMappingEnd :: rest => return ([], rest)
      | .key :: rest =>
        let (pair, rest) ← flowPair c .flowMappingEnd fuel rest
        let (pairs, rest) ← flowPairs c false fuel rest
        return (pair :: pairs, rest)
      | tokens =>
        let (k, rest) ← node c false false fuel tokens
        let (pairs, rest) ← flowPairs c false fuel rest
        return ((k, missing) :: pairs, rest)

end

def directives : List Token → List Directive × List Token
  | .directive d :: rest => (d :: (directives rest).1, (directives rest).2)
  | tokens => ([], tokens)

/-- The handles that directives make up. Each handle is given one meaning; the version is named at most
once and begins with a one. -/
def handlesOf (versioned : Bool) (found : Handles) : List Directive → Except Refusal Handles
  | [] => .ok (found ++ commonHandles)
  | .version major :: rest =>
    if versioned || major != 1 then .error .malformed else handlesOf true found rest
  | .tagHandle handle uri :: rest =>
    if (found.lookup handle).isSome then .error .malformed
    else handlesOf versioned ((handle, uri) :: found) rest
  | .other :: rest => handlesOf versioned found rest

/-- The one document of a text; `none` inside if the text has no document at all. -/
def document (tokens : List Token) : Except Refusal (Option Node) :=
  let fuel := 8 * tokens.length + 8
  let finish (n : Node) (rest : List Token) : Except Refusal (Option Node) :=
    if (rest.dropWhile (· == .documentEnd)).isEmpty then .ok (some n) else .error .malformed
  match tokens with
  | [] => .ok none
  | .directive _ :: _ | .documentStart :: _ => do
    let (found, rest) := directives tokens
    let handles ← handlesOf false [] found
    match rest with
    | .documentStart :: rest =>
      match rest with
      | [] | .documentStart :: _ | .documentEnd :: _ => finish missing rest
      | _ =>
        let (n, rest) ← node ⟨handles, deepest⟩ true false fuel rest
        finish n rest
    | _ => .error .malformed
  | _ => do
    let (n, rest) ← node ⟨commonHandles, deepest⟩ true false fuel tokens
    finish n rest

end Node

end ProtoModules.Data.Yaml
