import ProtoModules.Text.Replace

/-! String literals in code. A literal runs from a double quote to the next double quote that no
backslash escapes; a backslash escapes any character but a newline. A quote that no other quote
closes is an ordinary character. -/

namespace ProtoModules.Text

/-- How many characters a literal takes after its opening quote, the closing quote included. -/
def literalLength? : List Char → Option Nat
  | [] => none
  | ['\\'] => none
  | '\\' :: escaped :: rest =>
    if escaped = '\n' then none else (literalLength? rest).map (· + 2)
  | c :: rest => if c = '"' then some 1 else (literalLength? rest).map (· + 1)

def literal? : List Char → Option Found
  | '"' :: rest => (literalLength? rest).map fun n => ⟨n, ['"', '"']⟩
  | _ => none

/-- The text with an empty literal in place of every literal. -/
def blankLiterals (s : List Char) : List Char := replaceAll literal? s

end ProtoModules.Text
