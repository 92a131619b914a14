import ProtoModules.Text.Blank
import ProtoModules.Text.Lines
import ProtoModules.Text.Literal
import ProtoModules.Text.Word

/-! Declarations in generated code, recognised one line at a time. Scopes (`struct`, `enum`, `union`,
`trait`, `mod` and `impl`) can hold further declarations; functions, constants, statics, type
aliases, fields and variants cannot. The readers take a line without blanks at its ends and
look at its beginning only. -/

namespace ProtoModules.Source
open Text

structure Declaration where
  name : Line
  opensScope : Bool

namespace Declaration

def afterWord? (word : String) (s : Line) : Option Line :=
  if word.toList.isPrefixOf s then some (s.drop word.length) else none

def afterBlanks? : Line → Option Line
  | [] => none
  | c :: rest => if isBlank c then some (rest.dropWhile isBlank) else none

def afterKeyword? (word : String) (s : Line) : Option Line := afterWord? word s >>= afterBlanks?

def afterOneOf? (words : List String) (s : Line) : Option Line :=
  words.findSome? fun word => afterKeyword? word s

def skipKeyword (word : String) (s : Line) : Line := (afterKeyword? word s).getD s

def afterBracketed? (opening closing : Char) : Line → Option Line
  | [] => none
  | c :: rest =>
    if c = opening then
      match rest.dropWhile (· != closing) with
      | [] => none
      | _ :: after => some after
    else none

def word? (s : Line) : Option Line :=
  match s.takeWhile isWord with
  | [] => none
  | name => some name

/-- A name, whose raw mark is dropped. -/
def name? : Line → Option Line
  | 'r' :: '#' :: rest => (word? rest).orElse fun _ => some ['r']
  | s => word? s

/-- The text behind a visibility such as `pub` or `pub(crate)`. -/
def afterVisibility? (s : Line) : Option Line := do
  let rest ← afterWord? "pub" s
  afterBlanks? ((afterBracketed? '(' ')' rest).getD rest)

/-- Reads behind the visibility if there is one, and at the start if that fails. -/
def behindVisibility (read : Line → Option Line) (s : Line) : Option Line :=
  ((afterVisibility? s).bind read).orElse fun _ => read s

def scope? : Line → Option Line :=
  behindVisibility fun s =>
    afterOneOf? ["struct", "enum", "union", "trait", "mod"] (skipKeyword "unsafe" s) >>= name?

def function? : Line → Option Line :=
  behindVisibility fun s =>
    afterKeyword? "fn" (skipKeyword "unsafe" (skipKeyword "async" (skipKeyword "const" s))) >>= name?

def item? : Line → Option Line :=
  behindVisibility fun s => do
    let rest ← afterOneOf? ["const", "static", "type"] s
    ((afterKeyword? "mut" rest).bind name?).orElse fun _ => name? rest

/-- A field name starts with a small letter or an underscore and is followed by one colon. -/
def fieldName? (s : Line) : Option Line :=
  match s with
  | [] => none
  | c :: rest =>
    if isLower c || c == '_' then
      match (rest.dropWhile isWord).dropWhile isBlank with
      | ':' :: ':' :: _ => none
      | ':' :: _ => some (c :: rest.takeWhile isWord)
      | _ => none
    else none

def field? : Line → Option Line :=
  behindVisibility fun s =>
    match s with
    | 'r' :: '#' :: rest => fieldName? rest
    | _ => fieldName? s

/-- A variant starts with a capital and ends its name at the end of the line or before a value, a
comma or its own fields. -/
def variant? (s : Line) : Option Line :=
  match s with
  | [] => none
  | c :: rest =>
    if isUpper c then
      match (rest.dropWhile isWord).dropWhile isBlank with
      | [] => some (c :: rest.takeWhile isWord)
      | d :: _ =>
        if d == '=' || d == ',' || d == '(' || d == '{' then some (c :: rest.takeWhile isWord)
        else none
    else none

/-- The name behind the last `::` of a path that a word follows; `none` if there is no such mark. -/
def pathEnd? : Line → Option Line
  | [] => none
  | c :: rest =>
    if isWord c || c == ':' then
      (pathEnd? rest).orElse fun _ =>
        match rest with
        | ':' :: ':' :: name => word? name
        | _ => none
    else none

def pathName? (s : Line) : Option Line := (pathEnd? s).orElse fun _ => word? s

def inTraitPath (c : Char) : Bool :=
  isWord c || c == ':' || c == '<' || c == '>' || c == ',' || c == ' '

/-- The type behind the last `for` that the path of a trait stands in front of. -/
def implementor? : Line → Option Line
  | [] => none
  | c :: rest =>
    if inTraitPath c then
      (implementor? rest).orElse fun _ =>
        afterBlanks? rest >>= afterKeyword? "for" >>= pathName?
    else none

def impl? (s : Line) : Option Line := do
  let rest ← afterWord? "impl" (skipKeyword "unsafe" s)
  let rest ← afterBlanks? ((afterBracketed? '<' '>' rest).getD rest)
  (implementor? rest).orElse fun _ => pathName? rest

def ofLine? (s : Line) : Option Declaration :=
  let scope := ((scope? s).orElse fun _ => impl? s).map fun name => (⟨name, true⟩ : Declaration)
  scope.orElse fun _ =>
    (((function? s).orElse fun _ => item? s).orElse fun _ =>
      (field? s).orElse fun _ => variant? s).map fun name => ⟨name, false⟩

/-- The code of a line, with empty string literals and without the comment at its end. -/
def codePart (s : Line) : Line := beforeComment (blankLiterals s)
where
  beforeComment : Line → Line
    | [] => []
    | '/' :: '/' :: _ => []
    | c :: rest => c :: beforeComment rest

end Declaration

end ProtoModules.Source
