/-! Tokens of a YAML text. Besides the marks and scalars that are written they hold the ones that
indentation and simple keys imply: the beginnings and ends of block collections and the keys. -/

namespace ProtoModules.Data.Yaml

inductive Directive where
  | version (major : Nat)
  | tagHandle (handle uri : List Char)
  | other
  deriving DecidableEq, Inhabited

inductive Token where
  | documentStart
  | documentEnd
  | directive (d : Directive)
  | blockSequenceStart
  | blockMappingStart
  | blockEnd
  | flowSequenceStart
  | flowSequenceEnd
  | flowMappingStart
  | flowMappingEnd
  | blockEntry
  | flowEntry
  | key
  | value
  | reference (name : List Char)
  | anchor (name : List Char)
  | tag (handle : Option (List Char)) (suffix : List Char)
  /-- A plain scalar stands without quotes and may stand for something else than a text. -/
  | scalar (text : List Char) (plain : Bool)
  deriving DecidableEq, Inhabited

/-- A place where a simple key may have begun: the token it would be put before, and whether the text
is wrong if no colon follows. -/
structure SimpleKey where
  token : Nat
  required : Bool
  index : Nat
  line : Nat
  column : Nat

/-- Where a text is being read and what is open there. -/
structure Scan where
  rest : List Char
  index : Nat := 0
  line : Nat := 0
  column : Nat := 0
  flow : Nat := 0
  /-- The column of the innermost block collection, or -1. -/
  indent : Int := -1
  indents : List Int := []
  allowKey : Bool := true
  keys : List (Nat × SimpleKey) := []
  tokens : Array Token := #[]

abbrev Scanner (α : Type) := StateT Scan Option α

def isBreak (c : Char) : Bool :=
  c == '\n' || c == '\r' || c == '\x85' || c == '\u2028' || c == '\u2029'

/-- The end of the text reads as a null character, which no text may hold. -/
def isBreakOrEnd (c : Char) : Bool := c == '\x00' || isBreak c

def isSpaceOrEnd (c : Char) : Bool := c == ' ' || isBreakOrEnd c

/-- What has to follow an indicator in block context. -/
def isGap (c : Char) : Bool := c == '\t' || isSpaceOrEnd c

namespace Scanner

def refuse {α : Type} : Scanner α := failure

def peekAt (n : Nat) : Scanner Char := return ((← get).rest[n]?).getD '\x00'

def peek : Scanner Char := peekAt 0

def step (s : Scan) : Scan :=
  match s.rest with
  | [] => s
  | c :: rest =>
    let s := { s with rest := rest, index := s.index + 1 }
    if isBreak c && !(c == '\r' && rest.head? == some '\n') then
      { s with line := s.line + 1, column := 0 }
    else if c == '\ufeff' then s
    else { s with column := s.column + 1 }

def stepMany : Nat → Scan → Scan
  | 0, s => s
  | n + 1, s => stepMany n (step s)

def forward (n : Nat) : Scanner Unit := modify (stepMany n)

def takeRun (p : Char → Bool) : Scanner (List Char) := do
  let taken := (← get).rest.takeWhile p
  forward taken.length
  return taken

def startsWith (text : String) : Scanner Bool := return text.toList.isPrefixOf (← get).rest

/-- Reads a line break and answers the character it stands for, if there is one. -/
def lineBreak : Scanner (List Char) := do
  let c ← peek
  if !isBreak c then return []
  if c == '\r' && (← peekAt 1) == '\n' then forward 2 else forward 1
  return [if c == '\u2028' || c == '\u2029' then c else '\n']

def atDocumentMark : Scanner Bool := do
  let marked := (← startsWith "---") || (← startsWith "...")
  return marked && isGap (← peekAt 3)

/-- A bound for the number of rounds of any loop over the rest of the text. -/
def rounds : Scanner Nat := return (← get).rest.length + 1

def emit (t : Token) : Scanner Unit := modify fun s => { s with tokens := s.tokens.push t }

end Scanner

end ProtoModules.Data.Yaml
