import ProtoModules.Comment.Indent

/-! Code fences. A fence is a run of three or more backticks or tildes, less than four columns past the
base, with an info string behind it that holds no backtick if the run is one of backticks. It is
closed by a line of the same character, at least as long a run, with nothing behind it. -/

namespace ProtoModules.Comment
open Text

structure Fence where
  indent : Line
  mark : Char
  size : Nat
  info : Line

namespace Fence

def backtick : Char := '\x60'

def marker (f : Fence) : Line := List.replicate f.size f.mark

def open? (base : Nat) (line : Line) : Option Fence :=
  if isDeep base line then none
  else
    match line.dropWhile isTabOrSpace with
    | [] => none
    | mark :: rest =>
      if mark == backtick || mark == '~' then
        let more := rest.takeWhile (· == mark)
        let info := trim (rest.dropWhile (· == mark))
        if more.length < 2 || (mark == backtick && info.contains backtick) then none
        else some ⟨line.takeWhile isTabOrSpace, mark, more.length + 1, info⟩
      else none

def closes (base : Nat) (f : Fence) (line : Line) : Bool :=
  let s := trim line
  !isDeep base line && f.size ≤ (s.takeWhile (· == f.mark)).length
    && allBlank (s.dropWhile (· == f.mark))

/-- The words of an info string, which commas and blanks separate. -/
def tokens (info : Line) : List Line :=
  (splitWhere (fun c => isBlank c || c == ',') info).filter fun token => !token.isEmpty

/-- Words under which a documentation build still compiles the block. -/
def testTokens : List Line :=
  ["rust", "no_run", "should_panic", "compile_fail", "test_harness", "standalone_crate",
    "edition2015", "edition2018", "edition2021", "edition2024"].map String.toList

def ignoreToken : Line := "ignore".toList

/-- Whether a documentation build compiles a block with this info string. -/
def isTested (info : Line) : Bool :=
  !(tokens info).contains ignoreToken && (tokens info).all testTokens.contains

def inert : Line := "text".toList

/-- The opening line with the info string replaced by the inert one. -/
def inertOpener (f : Fence) : Line := f.indent ++ f.marker ++ inert

def closer (f : Fence) : Line := f.indent ++ f.marker

end Fence

end ProtoModules.Comment
