import ProtoModules.Proofs.Source.Piece

/-! The maximal runs of documentation lines in a text. They are the runs that its pieces hold, so a text
that is put together from whole lines has just the runs of its parts, as long as no part ends in
a documentation line. -/

namespace ProtoModules.Source
open Text

/-- A run of documentation lines that no documentation line stands next to. -/
structure MaximalRun (ls before run after : List Line) : Prop where
  whole : ls = before ++ run ++ after
  present : run ≠ []
  docs : ∀ line ∈ run, isDocLine line = true
  start : ∀ line ∈ before.getLast?, isDocLine line = false
  stop : ∀ line ∈ after.head?, isDocLine line = false

namespace Piece

theorem ofLines_code {line : Line} (plain : isDocLine line = false) (rest : List Line) :
    ofLines (line :: rest) = code line :: ofLines rest := by
  simp [ofLines, plain]

theorem ofLines_ne_nil {ls : List Line} (present : ls ≠ []) : ofLines ls ≠ [] := by
  intro none
  have back := flatMap_ofLines ls
  rw [none] at back
  exact present back.symm

theorem ofLines_run {run rest : List Line} (present : run ≠ [])
    (docs : ∀ line ∈ run, isDocLine line = true)
    (stop : ∀ line ∈ rest.head?, isDocLine line = false) :
    ofLines (run ++ rest) = doc run :: ofLines rest := by
  induction run with
  | nil => exact absurd rfl present
  | cons line more ih =>
    have first : isDocLine line = true := docs line List.mem_cons_self
    have later : ∀ line ∈ more, isDocLine line = true := fun l member =>
      docs l (List.mem_cons_of_mem _ member)
    by_cases last : more = []
    · subst last
      cases rest with
      | nil => simp [ofLines, first]
      | cons next rest =>
        have plain : isDocLine next = false := stop next rfl
        simp [ofLines, first, plain]
    · rw [List.cons_append, ofLines, if_pos first, ih last later]

theorem ofLines_append {first : List Line} (ended : ∀ line ∈ first.getLast?, isDocLine line = false)
    (second : List Line) : ofLines (first ++ second) = ofLines first ++ ofLines second := by
  induction first with
  | nil => rfl
  | cons line rest ih =>
    cases rest with
    | nil =>
      have plain : isDocLine line = false := ended line rfl
      simp [ofLines, plain]
    | cons next more =>
      have later := ih (by simpa using ended)
      by_cases doc : isDocLine line = true
      · -- the line joins the first piece of the rest, which there is
        obtain ⟨p, ps, cut⟩ := List.exists_cons_of_ne_nil (ofLines_ne_nil (List.cons_ne_nil next more))
        rw [List.cons_append, ofLines, if_pos doc, ofLines, if_pos doc, later, cut]
        cases p <;> rfl
      · rw [List.cons_append, ofLines, ofLines, if_neg doc, if_neg doc, later, List.cons_append]

theorem ofLines_flatMap {ps : List Piece} (cut : Cut ps) : ofLines (ps.flatMap lines) = ps := by
  induction cut with
  | nil => rfl
  | @code line ps plain next ih =>
    rw [List.flatMap_cons, lines, List.singleton_append, ofLines_code plain, ih]
  | @doc run ps present docs apart next ih =>
    have stop : ∀ line ∈ (ps.flatMap lines).head?, isDocLine line = false := by
      cases next with
      | nil => simp
      | code plain next => simpa [lines] using plain
      | @doc other ps present docs apart' next => exact absurd rfl (apart other)
    rw [List.flatMap_cons, lines, ofLines_run present docs stop, ih]

theorem doc_mem_ofLines {ls before run after : List Line} (maximal : MaximalRun ls before run after) :
    doc run ∈ ofLines ls := by
  rw [maximal.whole, List.append_assoc, ofLines_append maximal.start,
    ofLines_run maximal.present maximal.docs maximal.stop]
  simp

theorem Cut.docs_of_mem {ps : List Piece} (cut : Cut ps) {run : List Line}
    (member : Piece.doc run ∈ ps) : ∃ line ∈ run, isDocLine line = true := by
  induction cut with
  | nil => simp at member
  | code plain next ih => exact ih (by simpa using member)
  | @doc other ps present docs apart next ih =>
    rcases List.mem_cons.1 member with same | later
    · obtain rfl := Piece.doc.inj same
      obtain ⟨line, more, rfl⟩ := List.exists_cons_of_ne_nil present
      exact ⟨line, List.mem_cons_self, docs line List.mem_cons_self⟩
    · exact ih later

theorem exists_doc_mem_ofLines {ls : List Line} {line : Line} (member : line ∈ ls)
    (found : isDocLine line = true) : ∃ run, doc run ∈ ofLines ls := by
  have cut := cut_ofLines ls
  rw [← flatMap_ofLines ls] at member
  generalize ofLines ls = ps at cut member
  induction cut with
  | nil => simp at member
  | @code other ps plain next ih =>
    rw [List.flatMap_cons, lines, List.singleton_append, List.mem_cons] at member
    rcases member with rfl | later
    · simp [plain] at found
    · obtain ⟨run, listed⟩ := ih later
      exact ⟨run, List.mem_cons_of_mem _ listed⟩
  | @doc run ps present docs apart next ih => exact ⟨run, List.mem_cons_self⟩

theorem doc_notMem_ofLines {ls : List Line} (plain : ∀ line ∈ ls, isDocLine line = false)
    (run : List Line) : doc run ∉ ofLines ls := by
  intro member
  obtain ⟨line, inside, docs⟩ := (cut_ofLines ls).docs_of_mem member
  have own : line ∈ ls := by
    rw [← flatMap_ofLines ls]
    exact List.mem_flatMap.2 ⟨_, member, inside⟩
  rw [plain line own] at docs
  cases docs

end Piece

/-- A text of whole lines, the last one no documentation line, that has good runs only. -/
inductive WholeLines (good : List Line → Prop) : List Char → Prop where
  | empty : WholeLines good []
  | closed {s : List Char} (ended : ∀ line ∈ (lines s).getLast?, isDocLine line = false)
      (runs : ∀ run, Piece.doc run ∈ Piece.ofLines (lines s) → good run) :
      WholeLines good (s ++ ['\n'])

namespace WholeLines

variable {good : List Line → Prop} {s t : List Char}

theorem lines_append_newline (s t : List Char) : lines (s ++ '\n' :: t) = lines s ++ lines t :=
  splitOn_append_cons '\n' s t

theorem of_plain (plain : ∀ line ∈ lines s, isDocLine line = false) :
    WholeLines good (s ++ ['\n']) := by
  apply closed
  · exact fun line last => plain line (List.mem_of_getLast? last)
  · exact fun run member => absurd member (Piece.doc_notMem_ofLines plain run)

theorem append (first : WholeLines good s) (second : WholeLines good t) :
    WholeLines good (s ++ t) := by
  cases first with
  | empty => exact second
  | @closed s ended runs =>
    cases second with
    | empty =>
      rw [List.append_nil]
      exact closed ended runs
    | @closed t ended' runs' =>
      have both : s ++ ['\n'] ++ (t ++ ['\n']) = s ++ '\n' :: t ++ ['\n'] := by simp
      rw [both]
      apply closed
      · rw [lines_append_newline, List.getLast?_append_of_ne_nil _ (lines_ne_nil t)]
        exact ended'
      · intro run member
        rw [lines_append_newline, Piece.ofLines_append ended, List.mem_append] at member
        rcases member with own | later
        · exact runs run own
        · exact runs' run later

theorem flatMap {α : Type} {xs : List α} {f : α → List Char}
    (each : ∀ x ∈ xs, WholeLines good (f x)) : WholeLines good (xs.flatMap f) := by
  induction xs with
  | nil => exact empty
  | cons x rest ih =>
    rw [List.flatMap_cons]
    exact (each x List.mem_cons_self).append (ih fun y member => each y (List.mem_cons_of_mem _ member))

theorem good_of_mem (whole : WholeLines good s) {run : List Line}
    (member : Piece.doc run ∈ Piece.ofLines (lines s)) : good run := by
  cases whole with
  | empty => exact absurd member (Piece.doc_notMem_ofLines (by decide) run)
  | closed ended runs =>
    rw [lines_append_newline, Piece.ofLines_append ended, List.mem_append] at member
    rcases member with own | later
    · exact runs run own
    · exact absurd later (Piece.doc_notMem_ofLines (by decide) run)

end WholeLines

end ProtoModules.Source
