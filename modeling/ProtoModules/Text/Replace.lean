/-! Replacing the places of a text that a pattern finds: from left to right, each place after the
end of the one before. A pattern looks at the text from one position on and answers how many
characters it takes, at least one, and what stands for them. -/

namespace ProtoModules.Text

/-- What a pattern found at a position: the number of characters taken after the first one, and
the text that replaces them all. -/
structure Found where
  more : Nat
  replacement : List Char

/-- `skip` characters have been taken already. -/
def replaceFrom (find : List Char → Option Found) : (skip : Nat) → List Char → List Char
  | _, [] => []
  | skip + 1, _ :: rest => replaceFrom find skip rest
  | 0, c :: rest =>
    match find (c :: rest) with
    | some found => found.replacement ++ replaceFrom find found.more rest
    | none => c :: replaceFrom find 0 rest

def replaceAll (find : List Char → Option Found) (s : List Char) : List Char :=
  replaceFrom find 0 s

end ProtoModules.Text
