import ProtoModules.Comment.Pattern
import ProtoModules.Comment.Sanitize
import ProtoModules.Source.DocComment

/-! Generated units: the code of one package as the generator wrote it, with its documentation
comments. Sanitizing a unit removes the comments that a pattern matches, sanitizes the others and
keeps every line between them. -/

namespace ProtoModules.Source
open Text Comment

structure GeneratedUnit where
  package : List Line
  source : List Char
  comments : List DocComment
  origin : String
  deriving DecidableEq

namespace GeneratedUnit

def ofSource (package : List Line) (source : List Char) (origin : String) : GeneratedUnit :=
  ⟨package, source, docComments package source, origin⟩

/-- The number of a line among `count` lines; a negative place counts from the end. -/
def lineAt (count : Nat) (place : Int) : Nat :=
  if place < 0 then (count + place).toNat else place.toNat

/-- The unit with other comments, whose places may be counted from the end of the source. -/
def withComments (u : GeneratedUnit) (cs : List (DocComment × Int × Int)) : GeneratedUnit :=
  let count := (lines u.source).length
  { u with comments := cs.map fun (c, start, stop) =>
      { c with start := lineAt count start, stop := lineAt count stop } }

def packageName (u : GeneratedUnit) : List Char := joinWith '.' u.package

/-- The lines that a comment stands for once it is sanitized: its own ones if nothing changes. -/
def sanitizedLines (ls : List Line) (c : DocComment) : List Line :=
  if Comment.sanitize c.text = c.text then (ls.take c.stop).drop c.start
  else joinDocLines (Comment.sanitize c.text) c.indent

/-- Sanitizes the comments from line `cursor` on; `written` lines stand before what comes of it. -/
def sanitizeFrom (patterns : List (List Char)) (ls : List Line) (cursor written : Nat) :
    List DocComment → List Line × List DocComment
  | [] => (ls.drop cursor, [])
  | c :: rest =>
    let before := (ls.take c.start).drop cursor
    if Pattern.disables patterns c.declaration then
      let (out, kept) := sanitizeFrom patterns ls c.stop (written + before.length) rest
      (before ++ out, kept)
    else
      let own := sanitizedLines ls c
      let start := written + before.length
      let (out, kept) := sanitizeFrom patterns ls c.stop (start + own.length) rest
      (before ++ own ++ out,
        { c with text := Comment.sanitize c.text, start := start, stop := start + own.length } :: kept)

/-- The unit without the comments that a pattern matches and with the others sanitized. -/
def sanitize (patterns : List (List Char)) (u : GeneratedUnit) : GeneratedUnit :=
  let (out, kept) := sanitizeFrom patterns (lines u.source) 0 0 u.comments
  { u with source := unlines out, comments := kept }

end GeneratedUnit

end ProtoModules.Source
