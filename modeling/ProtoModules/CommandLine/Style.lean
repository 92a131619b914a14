import ProtoModules.Data.Decimal
import ProtoModules.Text.Split
import ProtoModules.Text.Word
import ProtoModules.Text.Blank

/-! Names of styles. A style is written as words: attributes, each perhaps in short or behind `not`, a
color, and behind `on` the color of the ground. Two ways to write a style are one name if they mean
the same; a name that means no style stands for itself in small letters. -/

namespace ProtoModules.CommandLine.Style
open Text

def attributes : List String :=
  ["bold", "dim", "italic", "underline", "blink", "blink2", "reverse", "conceal", "strike",
    "underline2", "frame", "encircle", "overline"]

def shortForms : List (String × String) :=
  [("b", "bold"), ("d", "dim"), ("i", "italic"), ("u", "underline"), ("r", "reverse"),
    ("c", "conceal"), ("s", "strike"), ("uu", "underline2"), ("o", "overline")]

def attribute? (word : String) : Option String :=
  if attributes.contains word then some word else shortForms.lookup word

def colorNames : List String :=
  ["black", "red", "green", "yellow", "blue", "magenta", "cyan", "white"]

def isHex (c : Char) : Bool := isDigit c || (0x61 ≤ c.toNat && c.toNat ≤ 0x66)

/-- What stands between the brackets behind a word. -/
def argument? (word : String) (s : List Char) : Option (List Char) :=
  if (word.toList ++ ['(']).isPrefixOf s && s.getLast? = some ')' then
    some ((s.drop (word.length + 1)).dropLast)
  else none

def isByte (s : List Char) : Bool :=
  !s.isEmpty && s.length ≤ 3 && s.all isDigit && Data.digitsValue s ≤ 255

/-- Colors have a name, a number or three parts. -/
def isColor (word : String) : Bool :=
  let s := word.toList
  let plain := if "bright_".toList.isPrefixOf s then String.ofList (s.drop 7) else word
  word == "default" || colorNames.contains plain
    || (match s with
      | '#' :: digits => digits.length == 6 && digits.all isHex
      | _ => false)
    || (argument? "color" s).any isByte
    || (argument? "rgb" s).any fun parts =>
        (splitOn ',' parts).length == 3 && (splitOn ',' parts).all fun part => isByte (trim part)

structure Meaning where
  /-- Attributes that are set, and whether they are on. -/
  set : List (String × Bool) := []
  color : Option String := none
  ground : Option String := none
  link : Option String := none

namespace Meaning

def withAttribute (name : String) (on : Bool) (m : Meaning) : Meaning :=
  { m with set := (name, on) :: m.set }

def words (m : Meaning) : List String :=
  let shown := attributes.flatMap fun name =>
    match m.set.lookup name with
    | some true => [name]
    | some false => ["not", name]
    | none => []
  shown ++ m.color.toList ++ (m.ground.elim [] fun color => ["on", color])
    ++ m.link.elim [] fun address => ["link", address]

/-- What some words mean; `none` if they are no style. -/
def ofWords? (m : Meaning) : List String → Option Meaning
  | [] => some m
  | "on" :: color :: rest =>
    let color := foldName color
    if isColor color then ofWords? { m with ground := some color } rest else none
  | "not" :: word :: rest => do ofWords? (m.withAttribute (← attribute? word) false) rest
  | "link" :: address :: rest => ofWords? { m with link := some address } rest
  | word :: rest =>
    match attribute? word with
    | some name => ofWords? (m.withAttribute name true) rest
    | none => if isColor word then ofWords? { m with color := some word } rest else none

end Meaning

/-- Only words that steer the next one keep it as it is written. -/
def readWords : List String → List String
  | [] => []
  | [word] => [foldName word]
  | word :: next :: rest =>
    let word := foldName word
    if ["on", "not", "link"].contains word then word :: next :: readWords rest
    else word :: readWords (next :: rest)

def wordsOf (s : List Char) : List String :=
  (((splitWhere isBlank s).filter fun word => !word.isEmpty).map String.ofList)

def name (s : List Char) : List Char :=
  match Meaning.ofWords? {} (readWords (wordsOf s)) with
  | some m =>
    let words := m.words
    (if words.isEmpty then "none" else " ".intercalate words).toList
  | none => if trim s = "none".toList then "none".toList else (trim s).map toLower

end ProtoModules.CommandLine.Style
