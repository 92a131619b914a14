/-! Command lines as lists of words. A word with a dash in front names options, by a long name or by
letters that may share one word; the value of an option stands in the same word or is the next one,
whatever that looks like. Two dashes alone end the options. -/

namespace ProtoModules.CommandLine

structure Choice where
  long : String
  letter : Option Char := none
  takesValue : Bool := true

inductive UsageError where
  | unknownOption (word : String)
  | missingValue (option : String)
  | needlessValue (option : String)
  | extraWord (word : String)
  | missingCommand
  | unknownCommand (name : String)
  deriving DecidableEq

structure Given where
  long : String
  value : Option String := none
  deriving DecidableEq

structure Arguments where
  given : List Given := []
  words : List String := []

/-- What one word says: options, and the last one if its value is still to come. -/
abbrev Wording := List Given × Option String

/-- Options by their letters. The letters behind one that takes a value are its value. -/
def letters (choices : List Choice) : List Char → Except UsageError Wording
  | [] => .ok ([], none)
  | c :: rest =>
    match choices.find? fun choice => choice.letter = some c with
    | none => .error (.unknownOption (String.ofList ['-', c]))
    | some choice =>
      if choice.takesValue then
        if rest.isEmpty then .ok ([], some choice.long)
        else .ok ([⟨choice.long, some (String.ofList rest)⟩], none)
      else do
        let (given, awaiting) ← letters choices rest
        return (⟨choice.long, none⟩ :: given, awaiting)

/-- The text up to the first equals sign and the text behind it, if there is one. -/
def splitValue (word : List Char) : List Char × Option (List Char) :=
  match word.dropWhile (· != '=') with
  | _ :: value => (word.takeWhile (· != '='), some value)
  | [] => (word, none)

def optionWord (choices : List Choice) (word : List Char) : Except UsageError Wording :=
  let (name, value) := splitValue word
  match choices.find? fun choice => choice.long.toList = name with
  | some choice =>
    match choice.takesValue, value with
    | true, some v => .ok ([⟨choice.long, some (String.ofList v)⟩], none)
    | true, none => .ok ([], some choice.long)
    | false, some _ => .error (.needlessValue choice.long)
    | false, none => .ok ([⟨choice.long, none⟩], none)
  | none =>
    if ['-', '-'].isPrefixOf word then .error (.unknownOption (String.ofList name))
    else letters choices (word.drop 1)

/-- A dash alone is no option. -/
def isOption (word : List Char) : Bool := word.head? == some '-' && 1 < word.length

/-- Reads words, the first one as a value if an option awaits one. Where options and words do not mix,
the first word that is no option ends them. -/
def readFrom (choices : List Choice) (mixed : Bool) :
    (awaiting : Option String) → List String → Except UsageError Arguments
  | some long, [] => .error (.missingValue long)
  | none, [] => .ok {}
  | some long, value :: rest => do
    let more ← readFrom choices mixed none rest
    return { more with given := ⟨long, some value⟩ :: more.given }
  | none, word :: rest =>
    if word = "--" then .ok { words := rest }
    else if isOption word.toList then do
      let (given, awaiting) ← optionWord choices word.toList
      let more ← readFrom choices mixed awaiting rest
      return { more with given := given ++ more.given }
    else if mixed then do
      let more ← readFrom choices mixed none rest
      return { more with words := word :: more.words }
    else .ok { words := word :: rest }

def read (choices : List Choice) (mixed : Bool) (words : List String) :
    Except UsageError Arguments :=
  readFrom choices mixed none words

end ProtoModules.CommandLine
