import ProtoModules.Identifier.Case
import ProtoModules.Identifier.Keyword
import ProtoModules.Text.Decomposition

/-! Module names for package segments. A segment loses its accents, is written in snake case, is made
a legal identifier and is escaped if it is a reserved word. -/

namespace ProtoModules.Identifier
open Text

def unnamed : List Char := "_unnamed".toList

/-- A legal identifier, possibly a reserved word: accents are dropped, any other character that
identifiers cannot hold becomes an underscore, and a leading digit gets an underscore in front. -/
def legalize (name : List Char) : List Char :=
  let legal := (withoutMarks name).map fun c => if isAlnum c || c == '_' then c else '_'
  match legal with
  | [] => unnamed
  | ['_'] => unnamed
  | c :: rest => if isDigit c then '_' :: c :: rest else c :: rest

def ofSegment (segment : List Char) : List Char :=
  escapeKeyword (legalize (snakeCase (withoutMarks segment)))

end ProtoModules.Identifier
