import ProtoModules.Data.Yaml.Scalar

/-! From a YAML text to its tokens. A simple key is recognised when its colon is reached, so the token
that marks it is put back before what has been read since; it has to end on the line it began on
and within 1024 characters. -/

namespace ProtoModules.Data.Yaml.Scanner

/-- Ends the block collections that are indented further than a column. -/
def unwind (column : Int) : (fuel : Nat) → Scanner Unit
  | 0 => return
  | fuel + 1 => do
    let s ← get
    if s.indent ≤ column then return
    let (indent, indents) := match s.indents with
      | outer :: more => (outer, more)
      | [] => (-1, [])
    set { s with indent := indent, indents := indents }
    emit .blockEnd
    unwind column fuel

/-- In flow context indentation means nothing. -/
def unwindTo (column : Int) : Scanner Unit := do
  let s ← get
  if s.flow == 0 then unwind column (s.indents.length + 1)

def deepen (column : Nat) : Scanner Bool := do
  let s ← get
  if s.indent < column then
    set { s with indent := column, indents := s.indent :: s.indents }
    return true
  else return false

def allowKey (allowed : Bool) : Scanner Unit := modify fun s => { s with allowKey := allowed }

def dropKey : Scanner Unit := do
  let s ← get
  match s.keys.lookup s.flow with
  | none => return
  | some key =>
    if key.required then refuse
    set { s with keys := s.keys.filter fun item => item.1 != s.flow }

def saveKey : Scanner Unit := do
  if (← get).allowKey then
    dropKey
    let s ← get
    let key : SimpleKey :=
      { token := s.tokens.size, required := s.flow == 0 && s.indent == (s.column : Int)
        index := s.index, line := s.line, column := s.column }
    set { s with keys := (s.flow, key) :: s.keys }

def dropStaleKeys : Scanner Unit := do
  let s ← get
  let isStale (key : SimpleKey) : Bool := key.line != s.line || key.index + 1024 < s.index
  if s.keys.any fun item => isStale item.2 && item.2.required then refuse
  set { s with keys := s.keys.filter fun item => !isStale item.2 }

/-- Goes to the next token: spaces, comments and line breaks are skipped. -/
def skipToToken : (fuel : Nat) → Scanner Unit
  | 0 => return
  | fuel + 1 => do
    let _ ← takeRun (· == ' ')
    skipComment
    if isBreak (← peek) then
      let _ ← lineBreak
      if (← get).flow == 0 then allowKey true
      skipToToken fuel

def isNameChar (c : Char) : Bool :=
  let n := c.toNat
  isDecimalDigit c || (0x41 ≤ n && n ≤ 0x5a) || (0x61 ≤ n && n ≤ 0x7a) || c == '-' || c == '_'

def anchorName : Scanner (List Char) := do
  forward 1
  let name ← takeRun isNameChar
  if name.isEmpty then refuse
  let c ← peek
  if isGap c || ['?', ':', ',', ']', '}', '%', '@', '\x60'].contains c then return name else refuse

/-- Characters of tags but the percent sign, which begins an escape. -/
def isUriChar (c : Char) : Bool :=
  isNameChar c || (";/?:@&=+$,.!~*'()[]".toList).contains c

/-- A run of escapes: the bytes that two hexadecimal digits each behind a percent sign name. -/
def uriBytes : (fuel : Nat) → Scanner (List UInt8)
  | 0 => refuse
  | fuel + 1 => do
    if (← peek) != '%' then return []
    forward 1
    match Json.hexDigit? (← peek), Json.hexDigit? (← peekAt 1) with
    | some high, some low =>
      forward 2
      return UInt8.ofNat (16 * high + low) :: (← uriBytes fuel)
    | _, _ => refuse

def uriFrom : (fuel : Nat) → Scanner (List Char)
  | 0 => refuse
  | fuel + 1 => do
    let run ← takeRun isUriChar
    if (← peek) != '%' then return run
    match String.fromUTF8? ⟨(← uriBytes (← rounds)).toArray⟩ with
    | some text => return run ++ text.toList ++ (← uriFrom fuel)
    | none => refuse

/-- A tag without its handle, or what a handle stands for. -/
def uri : Scanner (List Char) := do
  let found ← uriFrom (← rounds)
  if found.isEmpty then refuse
  return found

/-- Exclamation marks at both ends of a name, or a single one in front of a space. -/
def tagHandle : Scanner (List Char) := do
  if (← peek) != '!' then refuse
  forward 1
  if (← peek) == ' ' then return ['!']
  let name ← takeRun isNameChar
  if (← peek) != '!' then refuse
  forward 1
  return '!' :: name ++ ['!']

def tag : Scanner Unit := do
  let c ← peekAt 1
  if c == '<' then
    forward 2
    let suffix ← uri
    if (← peek) != '>' then refuse
    forward 1
    emit (.tag none suffix)
  else if isGap c then
    forward 1
    emit (.tag none ['!'])
  else
    let word := ((← get).rest.drop 1).takeWhile fun c => !isSpaceOrEnd c
    let handle ← if word.contains '!' then tagHandle else do
      forward 1
      pure ['!']
    emit (.tag (some handle) (← uri))
  if !isSpaceOrEnd (← peek) then refuse

def skipSpaces : Scanner Unit := do
  let _ ← takeRun (· == ' ')

def version : Scanner Nat := do
  skipSpaces
  let major ← takeRun isDecimalDigit
  if major.isEmpty || (← peek) != '.' then refuse
  forward 1
  let minor ← takeRun isDecimalDigit
  if minor.isEmpty || !isSpaceOrEnd (← peek) then refuse
  return digitsValue major

def handleMeaning : Scanner (List Char × List Char) := do
  skipSpaces
  let handle ← tagHandle
  if (← peek) != ' ' then refuse
  skipSpaces
  let meant ← uri
  if !isSpaceOrEnd (← peek) then refuse
  return (handle, meant)

def directive : Scanner Unit := do
  forward 1
  let name ← takeRun isNameChar
  if name.isEmpty || !isSpaceOrEnd (← peek) then refuse
  let found ←
    if name == "YAML".toList then pure (.version (← version))
    else if name == "TAG".toList then do
      let (handle, meant) ← handleMeaning
      pure (.tagHandle handle meant)
    else do
      let _ ← takeRun fun c => !isBreakOrEnd c
      pure .other
  skipSpaces
  skipComment
  if !isBreakOrEnd (← peek) then refuse
  let _ ← lineBreak
  emit (.directive found)

/-- A mark that ends whatever block collections are open. -/
def documentMark (t : Token) : Scanner Unit := do
  unwindTo (-1)
  dropKey
  allowKey false
  forward 3
  emit t

def openFlow (t : Token) : Scanner Unit := do
  saveKey
  modify fun s => { s with flow := s.flow + 1, allowKey := true }
  forward 1
  emit t

def closeFlow (t : Token) : Scanner Unit := do
  dropKey
  if (← get).flow == 0 then refuse
  modify fun s => { s with flow := s.flow - 1, allowKey := false }
  forward 1
  emit t

/-- Begins a block collection with an entry or a key that is not a simple one. -/
def beginBlock (t : Token) : Scanner Unit := do
  let s ← get
  if s.flow == 0 then
    if !s.allowKey then refuse
    if ← deepen s.column then emit t

def blockEntry : Scanner Unit := do
  beginBlock .blockSequenceStart
  allowKey true
  dropKey
  forward 1
  emit .blockEntry

def flowEntry : Scanner Unit := do
  allowKey true
  dropKey
  forward 1
  emit .flowEntry

def key : Scanner Unit := do
  beginBlock .blockMappingStart
  allowKey ((← get).flow == 0)
  dropKey
  forward 1
  emit .key

def insertToken (place : Nat) (t : Token) : Scanner Unit :=
  modify fun s => { s with tokens := s.tokens.insertIdxIfInBounds place t }

def value : Scanner Unit := do
  let s ← get
  match s.keys.lookup s.flow with
  | some key =>
    set { s with keys := s.keys.filter fun item => item.1 != s.flow }
    insertToken key.token .key
    if s.flow == 0 then
      if ← deepen key.column then insertToken key.token .blockMappingStart
    allowKey false
  | none =>
    beginBlock .blockMappingStart
    allowKey (s.flow == 0)
    dropKey
  forward 1
  emit .value

def keyToken (read : Scanner Token) : Scanner Unit := do
  saveKey
  allowKey false
  emit (← read)

def blockScalar (fold : Bool) : Scanner Unit := do
  allowKey true
  dropKey
  emit (.scalar (← block fold) false)

def isIndicator (c : Char) : Bool := ("-?:,[]{}#&*!|>'\"%@".toList).contains c || c == '\x60'

def token : Scanner Unit := do
  let s ← get
  let c ← peek
  let gap := isGap (← peekAt 1)
  let inFlow := s.flow != 0
  let marked := s.column == 0 && (← atDocumentMark)
  if c == '%' && s.column == 0 then
    unwindTo (-1)
    dropKey
    allowKey false
    directive
  else if c == '-' && marked then documentMark .documentStart
  else if c == '.' && marked then documentMark .documentEnd
  else if c == '[' then openFlow .flowSequenceStart
  else if c == '{' then openFlow .flowMappingStart
  else if c == ']' then closeFlow .flowSequenceEnd
  else if c == '}' then closeFlow .flowMappingEnd
  else if c == ',' then flowEntry
  else if c == '-' && gap then blockEntry
  else if c == '?' && (inFlow || gap) then key
  else if c == ':' && (inFlow || gap) then value
  else if c == '*' then keyToken (return .reference (← anchorName))
  else if c == '&' then keyToken (return .anchor (← anchorName))
  else if c == '!' then do
    saveKey
    allowKey false
    tag
  else if c == '|' && !inFlow then blockScalar false
  else if c == '>' && !inFlow then blockScalar true
  else if c == '\'' || c == '"' then keyToken (return .scalar (← quoted) false)
  else if (!isGap c && !isIndicator c) || (!gap && (c == '-' || (!inFlow && (c == '?' || c == ':')))) then
    keyToken (return .scalar (← plain) true)
  else refuse

def tokensFrom : (fuel : Nat) → Scanner Unit
  | 0 => refuse
  | fuel + 1 => do
    skipToToken (← rounds)
    dropStaleKeys
    unwindTo (← get).column
    if (← get).rest.isEmpty then
      unwindTo (-1)
      dropKey
    else
      token
      tokensFrom fuel

end Scanner

def isPrintable (c : Char) : Bool :=
  let n := c.toNat
  n == 0x09 || n == 0x0a || n == 0x0d || (0x20 ≤ n && n ≤ 0x7e) || n == 0x85
    || (0xa0 ≤ n && n ≤ 0xd7ff) || (0xe000 ≤ n && n ≤ 0xfffd) || 0x10000 ≤ n

/-- The tokens of a text, if it can be read. A byte order mark at its beginning is skipped. -/
def tokens? (text : List Char) : Option (List Token) := do
  if !text.all isPrintable then none
  let start : Scan := match text with
    | '\ufeff' :: rest => { rest := rest, index := 1 }
    | _ => { rest := text }
  let (_, s) ← StateT.run (Scanner.tokensFrom (text.length + 2)) start
  return s.tokens.toList

end ProtoModules.Data.Yaml
