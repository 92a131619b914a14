import ProtoModules.Data.Json
import ProtoModules.Data.Yaml.Token

/-! Reading the scalars of a YAML text: quoted, plain and block scalars. A line break inside a quoted
or plain scalar reads as a space, and blank lines as one newline each. -/

namespace ProtoModules.Data.Yaml.Scanner

/-- Line breaks and the blanks around them inside a quoted scalar; the breaks behind the first one. -/
def quotedBreaks : (fuel : Nat) → Scanner (List Char)
  | 0 => refuse
  | fuel + 1 => do
    if ← atDocumentMark then refuse
    let _ ← takeRun fun c => c == ' ' || c == '\t'
    if isBreak (← peek) then
      let first ← lineBreak
      return first ++ (← quotedBreaks fuel)
    else return []

/-- What a line break and the breaks behind it stand for. -/
def folded (first more : List Char) : List Char :=
  if first != ['\n'] then first ++ more else if more.isEmpty then [' '] else more

def quotedSpaces : Scanner (List Char) := do
  let blanks ← takeRun fun c => c == ' ' || c == '\t'
  let c ← peek
  if c == '\x00' then refuse
  else if isBreak c then
    let first ← lineBreak
    return folded first (← quotedBreaks (← rounds))
  else return blanks

def escapes : List (Char × Char) :=
  [('0', '\x00'), ('a', '\x07'), ('b', '\x08'), ('t', '\t'), ('\t', '\t'), ('n', '\n'), ('v', '\x0b'),
    ('f', '\x0c'), ('r', '\r'), ('e', '\x1b'), (' ', ' '), ('"', '"'), ('\\', '\\'), ('/', '/'),
    ('N', '\x85'), ('_', '\xa0'), ('L', '\u2028'), ('P', '\u2029')]

def hexValue? (digits : List Char) : Option Nat :=
  digits.foldlM (fun value c => (Json.hexDigit? c).map (16 * value + ·)) 0

def codeEscape (count : Nat) : Scanner (List Char) := do
  let digits := (← get).rest.take count
  if digits.length < count then refuse
  match hexValue? digits with
  | none => refuse
  | some n =>
    if 0x110000 ≤ n then refuse
    forward count
    return [Json.unitChar n]

def escape : Scanner (List Char) := do
  let c ← peek
  match escapes.lookup c with
  | some meant =>
    forward 1
    return [meant]
  | none =>
    if c == 'x' then do forward 1; codeEscape 2
    else if c == 'u' then do forward 1; codeEscape 4
    else if c == 'U' then do forward 1; codeEscape 8
    else if isBreak c then
      let _ ← lineBreak
      quotedBreaks (← rounds)
    else refuse

/-- The characters of a quoted scalar up to the next blank, line break or closing quote. -/
def quotedWord (double : Bool) : (fuel : Nat) → Scanner (List Char)
  | 0 => refuse
  | fuel + 1 => do
    let word ← takeRun fun c => !(c == '\'' || c == '"' || c == '\\' || isGap c)
    let c ← peek
    if !double && c == '\'' && (← peekAt 1) == '\'' then
      forward 2
      return word ++ '\'' :: (← quotedWord double fuel)
    else if (double && c == '\'') || (!double && (c == '"' || c == '\\')) then
      forward 1
      return word ++ c :: (← quotedWord double fuel)
    else if double && c == '\\' then
      forward 1
      let meant ← escape
      return word ++ meant ++ (← quotedWord double fuel)
    else return word

def quotedRest (quote : Char) : (fuel : Nat) → Scanner (List Char)
  | 0 => refuse
  | fuel + 1 => do
    let word ← quotedWord (quote == '"') (← rounds)
    if (← peek) == quote then return word
    let blanks ← quotedSpaces
    return word ++ blanks ++ (← quotedRest quote fuel)

def quoted : Scanner (List Char) := do
  let quote ← peek
  forward 1
  let text ← quotedRest quote (← rounds)
  forward 1
  return text

def blankBreaks : (fuel : Nat) → Scanner (List Char)
  | 0 => return []
  | fuel + 1 => do
    let c ← peek
    if c == ' ' then
      forward 1
      blankBreaks fuel
    else if isBreak c then
      let first ← lineBreak
      return first ++ (← blankBreaks fuel)
    else return []

/-- The blanks between two words of a plain scalar, empty if the scalar ends here. -/
def plainSpaces : Scanner (List Char) := do
  let blanks ← takeRun (· == ' ')
  if isBreak (← peek) then
    let first ← lineBreak
    modify fun s => { s with allowKey := true }
    if ← atDocumentMark then return []
    let more ← blankBreaks (← rounds)
    if (← get).column == 0 && (← atDocumentMark) then return []
    return folded first more
  else return blanks

def isFlowMark (c : Char) : Bool := c == ',' || c == '[' || c == ']' || c == '{' || c == '}'

/-- How many characters a word of a plain scalar has: up to a blank, to a colon before a blank, and
in flow context to a mark of it. -/
def plainLength (inFlow : Bool) : List Char → Nat
  | [] => 0
  | c :: rest =>
    let next := rest.head?.getD '\x00'
    if isGap c || (c == ':' && (isGap next || (inFlow && isFlowMark next)))
      || (inFlow && (c == '?' || isFlowMark c))
    then 0
    else plainLength inFlow rest + 1

def plainFrom (indent : Int) (spaces : List Char) : (fuel : Nat) → Scanner (List Char)
  | 0 => return []
  | fuel + 1 => do
    let s ← get
    if s.rest.head? == some '#' then return []
    let length := plainLength (0 < s.flow) s.rest
    if length == 0 then return []
    modify fun s => { s with allowKey := false }
    let word := s.rest.take length
    forward length
    let next ← plainSpaces
    let s ← get
    if next.isEmpty || s.rest.head? == some '#' || (s.flow == 0 && (s.column : Int) < indent) then
      return spaces ++ word
    return spaces ++ word ++ (← plainFrom indent next fuel)

def plain : Scanner (List Char) := do
  plainFrom ((← get).indent + 1) [] (← rounds)

inductive Chomping where
  | strip
  | clip
  | keep
  deriving DecidableEq

def chomping? (c : Char) : Option Chomping :=
  if c == '+' then some .keep else if c == '-' then some .strip else none

/-- The indicators of a block scalar: what happens to the breaks at its end, and its indentation. -/
def blockIndicators : Scanner (Chomping × Option Nat) := do
  let increment : Scanner (Option Nat) := do
    let c ← peek
    if !isDecimalDigit c then return none
    if c == '0' then refuse
    forward 1
    return some (c.toNat - 0x30)
  let chomping : Scanner (Option Chomping) := do
    let c ← peek
    if (chomping? c).isSome then forward 1
    return chomping? c
  let found ← match ← chomping with
    | some how => pure (how, ← increment)
    | none => do
      let size ← increment
      pure ((← chomping).getD .clip, size)
  if !isSpaceOrEnd (← peek) then refuse
  return found

def skipComment : Scanner Unit := do
  if (← peek) == '#' then
    let _ ← takeRun fun c => !isBreakOrEnd c

/-- The breaks before a block scalar and the widest indentation among them. -/
def leadingBreaks (widest : Nat) : (fuel : Nat) → Scanner (List Char × Nat)
  | 0 => return ([], widest)
  | fuel + 1 => do
    let c ← peek
    if c == ' ' then
      forward 1
      leadingBreaks (max widest (← get).column) fuel
    else if isBreak c then
      let first ← lineBreak
      let (more, widest) ← leadingBreaks widest fuel
      return (first ++ more, widest)
    else return ([], widest)

def indentTo (column : Nat) : Scanner Unit := do
  let s ← get
  forward (min (s.rest.takeWhile (· == ' ')).length (column - s.column))

def blockBreaks (column : Nat) : (fuel : Nat) → Scanner (List Char)
  | 0 => return []
  | fuel + 1 => do
    indentTo column
    if isBreak (← peek) then
      let first ← lineBreak
      return first ++ (← blockBreaks column fuel)
    else return []

def isInLine (column : Nat) : Scanner Bool := return (← get).column == column && (← peek) != '\x00'

/-- The lines of a block scalar: its text, the break behind its last line and the breaks after. -/
def blockLines (fold : Bool) (column : Nat) (breaks : List Char) :
    (fuel : Nat) → Scanner (List Char × List Char × List Char)
  | 0 => return ([], [], breaks)
  | fuel + 1 => do
    if !(← isInLine column) then return ([], [], breaks)
    let c ← peek
    let dense := c != ' ' && c != '\t'
    let line ← takeRun fun c => !isBreakOrEnd c
    let first ← lineBreak
    let more ← blockBreaks column (← rounds)
    if ← isInLine column then
      let next ← peek
      let joint :=
        if fold && first == ['\n'] && dense && next != ' ' && next != '\t' then
          if more.isEmpty then [' '] else []
        else first
      let (text, last, rest) ← blockLines fold column more fuel
      return (breaks ++ line ++ joint ++ text, last, rest)
    else return (breaks ++ line, first, more)

def block (fold : Bool) : Scanner (List Char) := do
  forward 1
  let (chomping, increment) ← blockIndicators
  let _ ← takeRun (· == ' ')
  skipComment
  if !isBreakOrEnd (← peek) then refuse
  let _ ← lineBreak
  let least := max 1 ((← get).indent + 1).toNat
  let (column, breaks) ← match increment with
    | some n => do
      let column := least + n - 1
      pure (column, ← blockBreaks column (← rounds))
    | none => do
      let (breaks, widest) ← leadingBreaks 0 (← rounds)
      pure (max least widest, breaks)
  let (text, last, rest) ← blockLines fold column breaks (← rounds)
  return match chomping with
    | .strip => text
    | .clip => text ++ last
    | .keep => text ++ last ++ rest

end ProtoModules.Data.Yaml.Scanner
