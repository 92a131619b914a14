import ProtoModules.Text.Replace
import ProtoModules.Text.Word

/-! Snake case. Three replacements one after the other put an underscore at the word boundaries of a
name: before the last capital of a run of capitals that a small letter follows, between a small
letter or digit and a capital, and in place of every run of other characters. Underscores at
either end are dropped and capitals become small. -/

namespace ProtoModules.Identifier
open Text

/-- A run of capitals whose last one starts a new word: `HTTPServer` is cut before `Se`. -/
def acronymEnd? (s : List Char) : Option Found :=
  let run := s.takeWhile isUpper
  match run.reverse, s.dropWhile isUpper with
  | last :: before, next :: _ =>
    if isLower next && !before.isEmpty then
      some ⟨run.length, before.reverse ++ ['_', last, next]⟩
    else none
  | _, _ => none

def capitalStart? : List Char → Option Found
  | a :: b :: _ =>
    if (isLower a || isDecimal a) && isUpper b then some ⟨1, [a, '_', b]⟩ else none
  | _ => none

def separatorRun? (s : List Char) : Option Found :=
  match s.takeWhile fun c => !isAlnum c with
  | [] => none
  | _ :: more => some ⟨more.length, ['_']⟩

def trimUnderscores (s : List Char) : List Char :=
  ((s.dropWhile (· == '_')).reverse.dropWhile (· == '_')).reverse

/-- The snake case form of a name, empty if the name has no ASCII letter or digit. -/
def snakeCase (name : List Char) : List Char :=
  let cut := replaceAll separatorRun? (replaceAll capitalStart? (replaceAll acronymEnd? name))
  (trimUnderscores cut).map toLower

end ProtoModules.Identifier
