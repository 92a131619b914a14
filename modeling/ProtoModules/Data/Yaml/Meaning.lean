import ProtoModules.Data.Base64
import ProtoModules.Data.Yaml.Graph
import ProtoModules.Data.Yaml.Named

/-! What nodes mean. Scalars and tuples have their meaning at once; lists, tables and sets are filled
later, in the order in which they were met, so that they may hold themselves. The key `<<` joins the
pairs of other mappings into its own. A value is unfolded from the finished meanings as far as it
is going to be looked at. -/

namespace ProtoModules.Data.Yaml

namespace Scalar

def flag (s : List Char) : Except ScalarFault Bool :=
  let word := String.ofList (s.map Text.toLower)
  if Kind.trueWords.contains word then .ok true
  else if Kind.falseWords.contains word then .ok false
  else .error .notFlag

def withoutBars (s : List Char) : List Char := s.filter (· != '_')

def sixtieths (parts : List Int) : Int := parts.foldl (fun value part => 60 * value + part) 0

def integer (s : List Char) : Except ScalarFault Int := do
  let (negative, digits) := Numeral.withoutSign (withoutBars s)
  let n ← match digits with
    | [] => .error .noDigits
    | ['0'] => .ok 0
    | '0' :: 'b' :: rest => Numeral.integer 2 rest
    | '0' :: 'x' :: rest => Numeral.integer 16 rest
    | '0' :: _ => Numeral.integer 8 digits
    | _ =>
      if digits.contains ':' then
        sixtieths <$> (Text.splitOn ':' digits).mapM (Numeral.integer 10)
      else Numeral.integer 10 digits
  return if negative then -n else n

/-- The sum of the parts of a real in base sixty, of which the last one is the first. -/
def sexagesimal (base : Nat) (sum : Float) : List Float → Except ScalarFault Float
  | [] => .ok sum
  | part :: rest =>
    let factor := nearestReal false base 0
    if factor.isInf then .error .beyondReals
    else sexagesimal (60 * base) (sum + part * factor) rest

def real (s : List Char) : Except ScalarFault Float := do
  let written := (withoutBars s).map Text.toLower
  let (negative, digits) := Numeral.withoutSign written
  if written.isEmpty then .error .noDigits
  let x ←
    if digits = ".inf".toList then .ok (1.0 / 0.0)
    else if digits = ".nan".toList then .ok (0.0 / 0.0)
    else if digits.contains ':' then do
      sexagesimal 1 0 (← (Text.splitOn ':' digits).mapM Numeral.real).reverse
    else Numeral.real digits
  return if negative then -x else x

/-- A complex number is no setting; it counts as nothing given if it is zero. -/
def complex (s : List Char) : Except ScalarFault Value := do
  let (x, y) ← Numeral.complex s
  return .other (x == 0 && y == 0)

def moment (s : List Char) : Except ScalarFault Unit :=
  match Kind.moment? (Kind.withoutBreak s) with
  | none => .error .notMoment
  | some m =>
    match m.fault? with
    | some fault => .error (.noSuchMoment fault)
    | none => .ok ()

def binary? (s : List Char) : Option (List UInt8) :=
  if s.all fun c => c.toNat < 0x80 then Base64.decode? s else none

end Scalar

inductive Meaning where
  | whole (v : Value)
  | tuple (items : List Nat)
  | list (items : List Nat)
  | pairs (items : List (Nat × Nat))
  | set (members : List Value)
  | table (fields : List (Value × Nat))
  deriving Inhabited

/-- The meanings found so far, by number, and the collections that are still to be filled. -/
structure Construction where
  graph : Graph
  meanings : Array (Option Meaning)
  waiting : List Nat := []

abbrev Builder (α : Type) := StateT Construction (Except Refusal) α

namespace Construction

def refuse {α : Type} (r : Refusal) : Builder α := throw r

def malformed {α : Type} : Builder α := throw .malformed

def scalar {α : Type} : Except ScalarFault α → Builder α
  | .ok x => return x
  | .error fault => throw (.scalar fault)

def kind (n : Nat) : Builder Kind := return (← get).graph.kind n

def content (n : Nat) : Builder Content := return (← get).graph.content n

def meaning? (n : Nat) : Builder (Option Meaning) := return ((← get).meanings[n]?).join

def setMeaning (n : Nat) (m : Meaning) : Builder Unit :=
  modify fun c => { c with meanings := c.meanings.setIfInBounds n (some m) }

/-- The collection is filled once those that wait already are. -/
def postpone (n : Nat) (empty : Meaning) : Builder Unit := do
  setMeaning n empty
  modify fun c => { c with waiting := c.waiting ++ [n] }

/-- The text of a scalar; a mapping may name one as its default. -/
def scalarText : (fuel : Nat) → Nat → Builder (List Char)
  | 0, _ => refuse .tooDeep
  | fuel + 1, n => do
    match ← content n with
    | .scalar text => return text
    | .sequence _ => malformed
    | .mapping pairs =>
      let graph := (← get).graph
      match pairs.find? fun (k, _) => graph.kind k == .default with
      | some (_, v) => scalarText fuel v
      | none => malformed

def scalarValue (kind : Kind) (n : Nat) : Builder Value := do
  let text ← scalarText ((← get).graph.size + 1) n
  match kind with
  | .null => return .null
  | .flag => return .bool (← scalar (Scalar.flag text))
  | .integer => return .int (← scalar (Scalar.integer text))
  | .real => return .real (← scalar (Scalar.real text))
  | .complex => scalar (Scalar.complex text)
  | .moment =>
    match ← content n with
    | .scalar _ =>
      scalar (Scalar.moment text)
      return .other false
    | _ => scalar (.error .notText)
  | .binary =>
    match Scalar.binary? text with
    | some data => return .bytes data
    | none => malformed
  | .named name =>
    match named? (String.ofList name) with
    | some v => if text.isEmpty then return v else malformed
    | none => malformed
  | .text => return .text (String.ofList text)
  | _ => malformed

/-- Gives a node its meaning; `around` are the tuples that are being made of it. -/
def construct (around : List Nat) : (fuel : Nat) → Nat → Builder Unit
  | 0, _ => refuse .tooDeep
  | fuel + 1, n => do
    if (← meaning? n).isSome then return
    match ← kind n with
    | .sequence => postpone n (.list [])
    | .mapping => postpone n (.table [])
    | .set => postpone n (.set [])
    | .pairs => postpone n (.pairs [])
    | .tuple =>
      if around.contains n then malformed
      match ← content n with
      | .sequence items =>
        items.forM (construct (n :: around) fuel)
        setMeaning n (.tuple items)
      | _ => malformed
    | kind => setMeaning n (.whole (← scalarValue kind n))

def constructAt (n : Nat) : Builder Unit := do construct [] ((← get).graph.size + 1) n

mutual

/-- Puts the pairs that a mapping asks for in front of its own. -/
def flatten : (fuel : Nat) → Nat → Builder Unit
  | 0, _ => refuse .tooDeep
  | fuel + 1, n => flattenFrom fuel n 0 []

/-- Goes on with a mapping behind its first `place` pairs; `joined` are the pairs found for it. A key
that asks for pairs is taken out before they are looked for. -/
def flattenFrom : (fuel : Nat) → (n place : Nat) → (joined : List (Nat × Nat)) → Builder Unit
  | 0, _, _, _ => refuse .tooDeep
  | fuel + 1, n, place, joined => do
    match ← content n with
    | .mapping pairs =>
      match pairs[place]? with
      | none =>
        if !joined.isEmpty then
          modify fun c => { c with graph := c.graph.setContent n (.mapping (joined ++ pairs)) }
      | some (k, v) =>
        match ← kind k with
        | .merge =>
          modify fun c =>
            { c with graph := c.graph.setContent n (.mapping (pairs.eraseIdx place)) }
          let found ← match ← content v with
            | .mapping _ => flattened fuel v
            | .sequence items => flattenedAll fuel items
            | .scalar _ => malformed
          flattenFrom fuel n place (joined ++ found)
        | .default =>
          modify fun c => { c with graph := c.graph.setKind k .text }
          flattenFrom fuel n (place + 1) joined
        | _ => flattenFrom fuel n (place + 1) joined
    | _ => malformed

def flattened : (fuel : Nat) → Nat → Builder (List (Nat × Nat))
  | 0, _ => refuse .tooDeep
  | fuel + 1, n => do
    match ← content n with
    | .mapping _ =>
      flatten fuel n
      match ← content n with
      | .mapping pairs => return pairs
      | _ => malformed
    | _ => malformed

/-- The pairs of several mappings, those of the last one first. -/
def flattenedAll : (fuel : Nat) → List Nat → Builder (List (Nat × Nat))
  | 0, _ => refuse .tooDeep
  | _, [] => return []
  | fuel + 1, n :: rest => do
    let first ← flattened fuel n
    return (← flattenedAll fuel rest) ++ first

end

/-- Enough for the pairs of any text that a computer can hold. -/
def enough : Nat := 0x10000000000

def pairsOf (n : Nat) : Builder (List (Nat × Nat)) := flattened enough n

/-- Unfolds what a node means, as far as `reach` collections in one another. -/
def unfold (meanings : Array (Option Meaning)) : (reach : Nat) → Nat → Value
  | 0, _ => .other false
  | reach + 1, n =>
    match (meanings[n]?).join with
    | none => .other false
    | some (.whole v) => v
    | some (.tuple items) => .tuple (items.map (unfold meanings reach))
    | some (.list items) => .list (items.map (unfold meanings reach))
    | some (.pairs items) =>
      .list (items.map fun (k, v) => .tuple [unfold meanings reach k, unfold meanings reach v])
    | some (.set members) => .tuple members
    | some (.table fields) => .table (fields.map fun (key, v) => (key, unfold meanings reach v))

/-- Whether nothing in a node can change, so that it can be told from other keys. -/
def isFixed (meanings : Array (Option Meaning)) : (fuel : Nat) → Nat → Bool
  | 0, _ => false
  | fuel + 1, n =>
    match (meanings[n]?).join with
    | some (.whole _) => true
    | some (.tuple items) => items.all (isFixed meanings fuel)
    | _ => false

def isTuple : Option Meaning → Bool
  | some (.tuple _) => true
  | _ => false

mutual

/-- Whether two keys are equal; a flag equals the number zero or one. -/
def sameKey : Value → Value → Bool
  | .text a, .text b => a == b
  | .bytes a, .bytes b => a == b
  | .int a, .int b => a == b
  | .bool a, .bool b => a == b
  | .int a, .bool b => a == if b then 1 else 0
  | .bool a, .int b => b == if a then 1 else 0
  | .real a, .real b => a == b
  | .null, .null => true
  | .tuple a, .tuple b => sameKeys a b
  | _, _ => false

def sameKeys : List Value → List Value → Bool
  | [], [] => true
  | a :: as, b :: bs => sameKey a b && sameKeys as bs
  | _, _ => false

end

def setField {α : Type} (key : Value) (x : α) : List (Value × α) → List (Value × α)
  | [] => [(key, x)]
  | (k, old) :: rest => if sameKey k key then (k, x) :: rest else (k, old) :: setField key x rest

/-- The fields of a mapping. A collection that can be added to is no key, even inside of a tuple. -/
def fieldsOf (n : Nat) : Builder (List (Value × Nat)) := do
  let pairs ← pairsOf n
  pairs.foldlM (fun fields (k, v) => do
    constructAt k
    let c ← get
    let fixed := isFixed c.meanings (c.graph.size + 1) k
    if !fixed && !isTuple (← meaning? k) then malformed
    constructAt v
    if !fixed then scalar (.error .unhashable)
    return setField (unfold c.meanings (c.graph.size + 1) k) v fields) []

def onlyPair (n : Nat) : Builder (Nat × Nat) := do
  match ← content n with
  | .mapping [(k, v)] =>
    constructAt k
    constructAt v
    return (k, v)
  | _ => malformed

def fill (n : Nat) : Builder Unit := do
  match ← kind n, ← content n with
  | .sequence, .sequence items =>
    items.forM constructAt
    setMeaning n (.list items)
  | .pairs, .sequence items => setMeaning n (.pairs (← items.mapM onlyPair))
  | .mapping, .mapping _ => setMeaning n (.table (← fieldsOf n))
  | .set, .mapping _ => setMeaning n (.set ((← fieldsOf n).map Prod.fst))
  | _, _ => malformed

/-- Fills the collections that wait; each node waits at most once. -/
def fillAll : (fuel : Nat) → Builder Unit
  | 0 => return
  | fuel + 1 => do
    match (← get).waiting with
    | [] => return
    | n :: rest =>
      modify fun c => { c with waiting := rest }
      fill n
      fillAll fuel

def value (reach : Nat) (g : Graph) : Except Refusal Value := do
  let start : Construction := { graph := g, meanings := Array.replicate g.size none }
  let build : Builder Unit := do
    constructAt 0
    fillAll (g.size + 1)
  let (_, c) ← build.run start
  return unfold c.meanings reach 0

end Construction

/-- The value of a text, unfolded as far as `reach` collections in one another; a text without a
document is null. -/
def read (reach : Nat) (text : List Char) : Except Refusal Value := do
  let tokens ← Refusal.required (tokens? text)
  match ← Node.document tokens with
  | none => return .null
  | some node => Construction.value reach (← Graph.ofNode node)

end ProtoModules.Data.Yaml
