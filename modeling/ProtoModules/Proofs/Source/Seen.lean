import ProtoModules.Proofs.Source.Forest
import ProtoModules.Proofs.Source.Places

/-! What a scan sees of a forest. Behind an item it is where it was in front of it, so every run of
documentation is seen to be about the scopes that the headers around it opened and the name that is
declared below it. -/

namespace ProtoModules.Source
open Text

def place (package : List Line) (run : Nat × List Line) : Nat × List Char :=
  (run.1, dotted package run.2)

namespace Mark

/-- The runs among marks, each by its first line and by the names of what it is seen to be about;
`first` is the line below the marks. -/
def seen (around : List Line) (first : Line) : (index : Nat) → (fresh : Bool) → List Mark →
    List (Nat × List Line)
  | _, _, [] => []
  | index, fresh, doc _ _ :: rest =>
    (if fresh then [(index, around ++ (declaredBelow (rest.flatMap lines ++ [first])).toList)] else []) ++
      seen around first (index + 1) false rest
  | index, _, tag a :: rest => seen around first (index + a.lines.length) true rest

theorem doc_or_level (ms : List Mark) :
    ∀ line ∈ ms.flatMap lines, isDocLine line = true ∨ IsLevel line := by
  intro line member
  obtain ⟨m, -, inside⟩ := List.mem_flatMap.1 member
  cases m with
  | doc body three =>
    obtain rfl := List.mem_singleton.1 inside
    exact .inl (isDocLine_doc three)
  | tag a => exact .inr (a.isLevel_of_mem line inside)

variable {package : List Line} {scan : Scan}

theorem places_marks (tops : scan.Tops) {first : Line} (plain : isDocLine first = false)
    (code : Scan.isAttribute first = false) (rest : List Line) (ms : List Mark) (index : Nat)
    (fresh : Bool) :
    scan.places package index fresh (ms.flatMap lines ++ first :: rest) =
      (seen scan.names first index fresh ms).map (place package) ++
        scan.places package (index + (ms.flatMap lines).length) true (first :: rest) := by
  induction ms generalizing index fresh with
  | nil =>
    cases fresh with
    | true => rfl
    | false => exact Scan.places_unfresh (by simpa using plain) index scan
  | cons m ms ih =>
    cases m with
    | doc body three =>
      have about := @Scan.about_append package scan tops _ (doc_or_level ms) first plain code rest
      have whole : List.flatMap lines (doc body three :: ms) = (docMark ++ body) :: ms.flatMap lines :=
        rfl
      have behind : index + ((ms.flatMap lines).length + 1) =
          index + 1 + (ms.flatMap lines).length := by omega
      rw [whole, List.cons_append, Scan.places, if_pos (isDocLine_doc three), about,
        ih (index + 1) false, seen, List.length_cons, behind, List.map_append, List.append_assoc]
      cases fresh <;> rfl
    | tag a =>
      have unfresh : scan.places package index fresh (a.lines ++ (ms.flatMap lines ++ first :: rest)) =
          scan.places package index true (a.lines ++ (ms.flatMap lines ++ first :: rest)) := by
        cases fresh with
        | true => rfl
        | false =>
          obtain ⟨line, more, shape⟩ := List.exists_cons_of_ne_nil a.lines_ne_nil
          refine Scan.places_unfresh ?_ index scan
          rw [shape]
          simpa using a.isDocLine_of_mem line (by simp [shape])
      have whole : List.flatMap lines (tag a :: ms) = a.lines ++ ms.flatMap lines := rfl
      rw [whole, List.append_assoc, unfresh, Scan.places_append a.isDocLine_of_mem,
        Scan.foldl_pass_level tops a.isLevel_of_mem, ih (index + a.lines.length) true, seen,
        List.length_append, Nat.add_assoc]

theorem places_item (tops : scan.Tops) {first : Line} {more : List Line}
    (plain : ∀ line ∈ first :: more, isDocLine line = false) (code : Scan.isAttribute first = false)
    {behind : Scan} (passed : (first :: more).foldl (fun scan line => scan.pass line) scan = behind)
    (rest : List Line) (ms : List Mark) (index : Nat) :
    scan.places package index true (ms.flatMap lines ++ (first :: more ++ rest)) =
      (seen scan.names first index true ms).map (place package) ++
        behind.places package (index + (ms.flatMap lines).length + (first :: more).length) true rest := by
  rw [List.cons_append, places_marks tops (plain first List.mem_cons_self) code (more ++ rest),
    ← List.cons_append, Scan.places_append plain, passed]

end Mark

namespace Forest

def seen : (index : Nat) → (around : List Line) → Forest → List (Nat × List Line)
  | _, _, nil => []
  | index, around, blank next => next.seen (index + 1) around
  | index, around, leaf marks item next =>
    Mark.seen around item.first index true marks ++
      next.seen (index + (marks.flatMap Mark.lines).length + item.lines.length) around
  | index, around, block marks header inside next =>
    let first := index + (marks.flatMap Mark.lines).length + header.lines.length
    Mark.seen around header.first index true marks ++
      inside.seen first (around ++ header.opened.toList) ++
      next.seen (first + inside.lines.length + 1) around

variable {package : List Line}

theorem isAttribute_of_begins {line : Line} (begins : Begins line) : Scan.isAttribute line = false := by
  cases line with
  | nil => rfl
  | cons c rest =>
    have other : c ≠ '#' := fun same => @Begins.head?_ne _ begins '#' (by decide) (by rw [same]; rfl)
    simp [Scan.isAttribute, List.isPrefixOf, Ne.symm other]

theorem places_lines (forest : Forest) (index : Nat) {scan : Scan} (tops : scan.Tops)
    (rest : List Line) :
    scan.places package index true (forest.lines ++ rest) =
      (forest.seen index scan.names).map (place package) ++
        scan.places package (index + forest.lines.length) true rest := by
  induction forest generalizing index scan rest with
  | nil => rfl
  | blank next ih =>
    have plain : isDocLine [] = false := rfl
    have level : IsLevel [] := isLevel_of_quiet rfl
    have behind : index + (next.lines.length + 1) = index + 1 + next.lines.length := by omega
    rw [lines, List.cons_append, Scan.places, plain, if_neg Bool.false_ne_true,
      Scan.pass_level tops level, ih (index + 1) tops, seen, List.length_cons, behind]
  | leaf marks item next ih =>
    have own := @Mark.places_item package scan tops _ _ item.isDocLine_of_mem
      (isAttribute_of_begins item.begins_first) _ (Scan.foldl_pass tops item.balances_lines)
      (next.lines ++ rest) marks index
    have whole : (leaf marks item next).lines ++ rest =
        marks.flatMap Mark.lines ++ (item.lines ++ (next.lines ++ rest)) := by
      rw [lines, List.append_assoc, List.append_assoc]
    have behind : index + (leaf marks item next).lines.length =
        index + (marks.flatMap Mark.lines).length + item.lines.length + next.lines.length := by
      simp only [lines, List.length_append]
      omega
    rw [whole, Leaf.lines, own, ih _ tops, seen, List.map_append, List.append_assoc, behind, Leaf.lines]
  | block marks header inside next ihInside ihNext =>
    have plain := header.isDocLine_of_mem
    have passed := header.foldl_pass_lines tops
    rw [header.lines_eq] at plain passed
    have own := @Mark.places_item package scan tops _ _ plain
      (isAttribute_of_begins header.begins_first) _ passed
      (inside.lines ++ ['}'] :: (next.lines ++ rest)) marks index
    rw [← header.lines_eq] at own
    -- the line with the brace closes the scope that the header has opened
    have closing : ∀ i, (scan.inside header.opened).places package i true
        (['}'] :: (next.lines ++ rest)) = scan.places package (i + 1) true (next.lines ++ rest) := by
      intro i
      have brace : isDocLine ['}'] = false := rfl
      rw [Scan.places, brace, if_neg Bool.false_ne_true, Scan.pass_closing tops]
    have whole : (block marks header inside next).lines ++ rest = marks.flatMap Mark.lines ++
        (header.lines ++ (inside.lines ++ ['}'] :: (next.lines ++ rest))) := by
      simp only [lines, List.append_assoc, List.cons_append]
    have behind : index + (block marks header inside next).lines.length = index +
        (marks.flatMap Mark.lines).length + header.lines.length + inside.lines.length + 1 +
          next.lines.length := by
      simp only [lines, List.length_append, List.length_cons]
      omega
    rw [whole, own, ihInside _ (tops.inside header.opened), closing, ihNext _ tops,
      Scan.names_inside, seen, List.map_append, List.map_append, List.append_assoc, List.append_assoc,
      behind]

theorem docComments_of_lines (package : List Line) {forest : Forest} {source : List Char}
    (written : (Text.lines source).map trim = forest.lines) :
    (docComments package source).map (fun c => (c.start, c.declaration)) =
      (forest.seen 0 []).map (place package) := by
  have tops : Scan.Tops {} := by simp [Scan.Tops]
  have whole := @places_lines package forest 0 {} tops []
  rw [List.append_nil] at whole
  rw [Scan.map_docComments, written, whole]
  exact List.append_nil _

end Forest

end ProtoModules.Source
