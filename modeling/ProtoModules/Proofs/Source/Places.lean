import ProtoModules.Proofs.Source.Nesting
import ProtoModules.Proofs.Source.Rewrite

/-! Where the comments of a source start and what they are about, read off its lines one by one. Only the
lines without the blanks at their ends matter. A run belongs to the first line below it that is neither
documentation nor an attribute. -/

namespace ProtoModules.Source
open Text

theorem isDocLine_trim (line : Line) : isDocLine (trim line) = isDocLine line := by
  rw [isDocLine, isDocLine, trim_trim]

theorem Piece.head?_ofLines_doc {ls : List Line} {run : List Line} {more : List Piece}
    (found : Piece.ofLines ls = .doc run :: more) : ∃ line rest, ls = line :: rest ∧
      isDocLine line = true := by
  cases ls with
  | nil => simp [Piece.ofLines] at found
  | cons line rest =>
    refine ⟨line, rest, rfl, ?_⟩
    by_contra plain
    rw [Piece.ofLines, if_neg plain] at found
    simp at found

theorem Piece.exists_ofLines_doc {line : Line} (doc : isDocLine line = true) (rest : List Line) :
    ∃ run more, Piece.ofLines (line :: rest) = .doc run :: more := by
  rw [Piece.ofLines, if_pos doc]
  split
  · exact ⟨_, _, rfl⟩
  · exact ⟨_, _, rfl⟩

def declaredBy (line : Line) : Option Line :=
  ((Declaration.ofLine? line).map (·.name)).filter fun name => !name.isEmpty

/-- The name that the first line declares that is neither documentation nor an attribute. -/
def declaredBelow : List Line → Option Line
  | [] => none
  | line :: rest => if isDocLine line || Scan.isAttribute line then declaredBelow rest else declaredBy line

def dotted (package names : List Line) : List Char := joinWith '.' (package ++ names)

namespace Scan

def names (scan : Scan) : List Line := scan.scopes.reverse.map Scope.name

/-- What documentation in front of the lines is about. -/
def about (package : List Line) : Scan → List Line → List Char
  | scan, [] => dotted package scan.names
  | scan, line :: rest =>
    if isDocLine line then about package scan rest
    else if isAttribute line then about package (scan.pass line) rest
    else dotted package (scan.names ++ (declaredBy line).toList)

/-- Where the runs of documentation start and what they are about; `fresh` tells that none goes on. -/
def places (package : List Line) : (index : Nat) → (fresh : Bool) → Scan → List Line →
    List (Nat × List Char)
  | _, _, _, [] => []
  | index, fresh, scan, line :: rest =>
    if isDocLine line then
      (if fresh then [(index, about package scan rest)] else []) ++
        places package (index + 1) false scan rest
    else places package (index + 1) true (scan.pass line) rest

variable {package : List Line} {scan : Scan}

theorem path_eq (scan : Scan) (name : Option Line) : scan.path package name =
    dotted package (scan.names ++ (name.filter fun n => !n.isEmpty).toList) := by
  rw [path, dotted, names, List.append_assoc]

theorem declarationBelow_ofLines (ls : List Line) (scan : Scan) :
    declarationBelow package scan (Piece.ofLines ls) = about package scan (ls.map trim) := by
  induction ls generalizing scan with
  | nil => simp [Piece.ofLines, declarationBelow, about, path_eq]
  | cons line rest ih =>
    rw [Piece.ofLines, List.map_cons, about, isDocLine_trim]
    split
    · split
      · rename_i run more found
        rw [found] at ih
        exact ih scan
      · exact ih scan
    · rw [declarationBelow]
      split
      · exact ih _
      · exact path_eq _ _

theorem places_unfresh {ls : List Line} (plain : ∀ line ∈ ls.head?, isDocLine line = false)
    (index : Nat) (scan : Scan) :
    places package index false scan ls = places package index true scan ls := by
  cases ls with
  | nil => rfl
  | cons line rest => simp [places, plain line rfl]

theorem places_fresh {line : Line} (doc : isDocLine line = true) (index : Nat) (scan : Scan)
    (rest : List Line) : places package index true scan (line :: rest) =
      (index, about package scan rest) :: places package index false scan (line :: rest) := by
  simp [places, doc]

theorem map_commentsOf_ofLines (ls : List Line) (index : Nat) (scan : Scan) :
    (commentsOf package index scan (Piece.ofLines ls)).map (fun c => (c.start, c.declaration)) =
      places package index true scan (ls.map trim) := by
  induction ls generalizing index scan with
  | nil => rfl
  | cons line rest ih =>
    have below := @declarationBelow_ofLines package rest scan
    have later := ih (index + 1) scan
    rw [Piece.ofLines, List.map_cons, places, isDocLine_trim]
    split
    · rename_i doc
      split
      · rename_i run more found
        -- the run goes on, so the comment of the lines behind starts one line earlier
        obtain ⟨next, others, rfl, again⟩ := Piece.head?_ofLines_doc found
        have again' : isDocLine (trim next) = true := by rwa [isDocLine_trim]
        rw [found, List.map_cons, places_fresh again'] at later
        rw [found] at below
        have tail := (List.cons.inj later).2
        rw [List.map_cons, ← tail]
        have behind : index + (line :: run).length = index + 1 + run.length := by
          rw [List.length_cons]
          omega
        simp only [commentsOf, List.map_cons, behind, comment, if_true, List.singleton_append]
        congr 2
      · rename_i other
        have plain : ∀ line ∈ (rest.map trim).head?, isDocLine line = false := by
          intro next first
          rw [List.head?_map, Option.mem_def, Option.map_eq_some_iff] at first
          obtain ⟨next, first, rfl⟩ := first
          rw [isDocLine_trim, Bool.eq_false_iff]
          intro again
          obtain ⟨others, rfl⟩ := List.head?_eq_some_iff.1 first
          obtain ⟨run, more, found⟩ := Piece.exists_ofLines_doc again others
          exact other run more found
        rw [places_unfresh plain, ← later, if_pos rfl, List.singleton_append]
        simp only [commentsOf, List.map_cons, comment, List.length_singleton]
        rw [below]
    · exact ih (index + 1) _

theorem map_docComments (package : List Line) (source : List Char) :
    (docComments package source).map (fun c => (c.start, c.declaration)) =
      places package 0 true {} ((lines source).map trim) := by
  rw [GeneratedUnit.docComments_eq, map_commentsOf_ofLines]

theorem names_inside (scan : Scan) (opened : Option Line) :
    (scan.inside opened).names = scan.names ++ opened.toList := by
  cases opened <;> simp [names, inside]

theorem places_append {ls : List Line} (plain : ∀ line ∈ ls, isDocLine line = false) (index : Nat)
    (scan : Scan) (rest : List Line) :
    places package index true scan (ls ++ rest) = places package (index + ls.length) true
      (ls.foldl (fun scan line => scan.pass line) scan) rest := by
  induction ls generalizing index scan with
  | nil => rfl
  | cons line more ih =>
    have first := plain line List.mem_cons_self
    rw [List.cons_append, places, first, if_neg Bool.false_ne_true,
      ih fun other member => plain other (List.mem_cons_of_mem _ member)]
    simp only [List.length_cons, List.foldl_cons]
    congr 1
    omega

theorem about_append (tops : scan.Tops) {front : List Line}
    (level : ∀ line ∈ front, isDocLine line = true ∨ IsLevel line) {first : Line}
    (plain : isDocLine first = false) (code : isAttribute first = false) (rest : List Line) :
    about package scan (front ++ first :: rest) =
      dotted package (scan.names ++ (declaredBelow (front ++ [first])).toList) := by
  induction front with
  | nil => simp [about, declaredBelow, plain, code]
  | cons line more ih =>
    have later := ih fun other member => level other (List.mem_cons_of_mem _ member)
    rw [List.cons_append, List.cons_append, about, declaredBelow]
    by_cases doc : isDocLine line = true
    · rw [if_pos doc, later, doc, Bool.true_or, if_pos rfl]
    · rw [if_neg doc, Bool.eq_false_iff.2 doc, Bool.false_or]
      have own := (level line List.mem_cons_self).resolve_left doc
      by_cases skipped : isAttribute line = true
      · rw [if_pos skipped, if_pos skipped, pass_level tops own, later]
      · rw [if_neg skipped, if_neg skipped]

end Scan

end ProtoModules.Source
