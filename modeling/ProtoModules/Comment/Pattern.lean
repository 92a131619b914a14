/-! Patterns of declarations whose comments are removed. A single dot matches all declarations. A
leading dot anchors a path: it matches that declaration and those nested in it. Any other pattern
matches the declarations whose path ends in it. -/

namespace ProtoModules.Comment.Pattern

def covers (pattern declaration : List Char) : Bool :=
  if pattern = ['.'] then true
  else
    match pattern with
    | '.' :: anchored => declaration == anchored || (anchored ++ ['.']).isPrefixOf declaration
    | _ => declaration == pattern || ('.' :: pattern).isSuffixOf declaration

/-- Whether one of the patterns removes the comment of the declaration. -/
def disables (patterns : List (List Char)) (declaration : List Char) : Bool :=
  patterns.any fun pattern => covers pattern declaration

end ProtoModules.Comment.Pattern
