/-! The reserved words of Rust and how a name that is one of them is written: as a raw identifier
`r#name`, or with an underscore behind it for the four words that have no raw form. A raw
identifier lives in a file named without the mark. -/

namespace ProtoModules.Identifier

def rawMark : List Char := ['r', '#']

def keywords : List (List Char) :=
  ["as", "async", "await", "break", "const", "continue", "crate", "dyn", "else", "enum",
    "extern", "false", "fn", "for", "if", "impl", "in", "let", "loop", "match", "mod", "move",
    "mut", "pub", "ref", "return", "self", "Self", "static", "struct", "super", "trait", "true",
    "type", "unsafe", "use", "where", "while",
    "abstract", "become", "box", "do", "final", "gen", "macro", "override", "priv", "try",
    "typeof", "unsized", "virtual", "yield"].map String.toList

def unrawable : List (List Char) := ["self", "super", "crate", "Self"].map String.toList

def escapeKeyword (name : List Char) : List Char :=
  if unrawable.contains name then name ++ ['_']
  else if keywords.contains name then rawMark ++ name
  else name

/-- The name of the file, without its ending, for a module identifier. -/
def fileStem : List Char → List Char
  | 'r' :: '#' :: name => name
  | identifier => identifier

end ProtoModules.Identifier
