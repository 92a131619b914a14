import ProtoModules.Proofs.Comment.Settled
import ProtoModules.Source.DocLine

/-! Documentation lines. A documentation line is blanks, the mark and a body that does not start with
another slash; a run of them can be taken apart into indentation and text and be put together
again. Sanitizing a text gives bodies of documentation lines when it is given some. -/

namespace ProtoModules.Source
open Text

theorem trimStart_docMark (body : Line) : trimStart (docMark ++ body) = docMark ++ body :=
  dropWhile_of_stop (by simp [docMark, isBlank])

theorem trimEnd_docMark (body : Line) : trimEnd (docMark ++ body) = docMark ++ trimEnd body := by
  have ink : isBlank '/' = false := by decide
  simp only [docMark, List.cons_append, List.nil_append, trimEnd_cons_ink ink]

theorem isDocLine_iff (line : Line) :
    isDocLine line = true ↔ ∃ body, trimStart line = docMark ++ body ∧ body.head? ≠ some '/' := by
  have slash : trim line = trimEnd (trimStart line) := rfl
  simp only [isDocLine, Bool.and_eq_true, Bool.not_eq_true', List.isPrefixOf_iff_prefix, slash]
  constructor
  · rintro ⟨mark, three⟩
    obtain ⟨body, whole⟩ := mark.trans (trimEnd_isPrefix (trimStart line))
    refine ⟨body, whole.symm, fun four => ?_⟩
    obtain ⟨more, rfl⟩ := List.head?_eq_some_iff.1 four
    rw [← whole, trimEnd_docMark, trimEnd_cons_ink (by decide)] at three
    simp [docMark] at three
  · rintro ⟨body, whole, three⟩
    rw [whole, trimEnd_docMark]
    refine ⟨List.prefix_append _ _, ?_⟩
    have first : ['/'].isPrefixOf (trimEnd body) = false := by
      rw [Bool.eq_false_iff, ne_eq, List.isPrefixOf_iff_prefix]
      intro found
      obtain ⟨more, rfl⟩ := found.trans (trimEnd_isPrefix body)
      simp at three
    simpa [docMark] using first

theorem trimStart_docLine {indent : Line} (blank : ∀ c ∈ indent, isBlank c = true) (body : Line) :
    trimStart (indent ++ docMark ++ body) = docMark ++ body := by
  rw [List.append_assoc, trimStart, List.dropWhile_append_of_pos blank]
  exact trimStart_docMark body

theorem isDocLine_docLine {indent : Line} (blank : ∀ c ∈ indent, isBlank c = true) {body : Line}
    (three : body.head? ≠ some '/') : isDocLine (indent ++ docMark ++ body) = true :=
  (isDocLine_iff _).2 ⟨body, trimStart_docLine blank body, three⟩

def docBody (line : Line) : Line := (trimStart line).drop docMark.length

def docIndent (ls : List Line) : Line := (ls.headD []).takeWhile isBlank

def docText (ls : List Line) : List Char := unlines (ls.map docBody)

theorem splitDocLines_eq {ls : List Line} (present : ls ≠ []) :
    splitDocLines ls = some (docIndent ls, docText ls) := by
  cases ls with
  | nil => contradiction
  | cons first rest => rfl

theorem head?_docBody {line : Line} (doc : isDocLine line = true) :
    (docBody line).head? ≠ some '/' := by
  obtain ⟨body, whole, three⟩ := (isDocLine_iff line).1 doc
  simpa [docBody, whole, docMark] using three

theorem docBody_docLine {indent : Line} (blank : ∀ c ∈ indent, isBlank c = true) (body : Line) :
    docBody (indent ++ docMark ++ body) = body := by
  rw [docBody, trimStart_docLine blank, List.drop_left]

theorem newline_notMem_docBody {line : Line} (clean : '\n' ∉ line) : '\n' ∉ docBody line :=
  fun member => clean ((List.dropWhile_sublist _).mem (List.mem_of_mem_drop member))

theorem blank_of_mem_docIndent {ls : List Line} : ∀ c ∈ docIndent ls, isBlank c = true :=
  fun _ member => List.mem_takeWhile_imp member

theorem lines_docText {ls : List Line} (present : ls ≠ []) (clean : ∀ line ∈ ls, '\n' ∉ line) :
    lines (docText ls) = ls.map docBody := by
  refine lines_unlines (by simpa using present) fun body member => ?_
  obtain ⟨line, inside, rfl⟩ := List.mem_map.1 member
  exact newline_notMem_docBody (clean line inside)

theorem docText_joinDocLines {indent : Line} (blank : ∀ c ∈ indent, isBlank c = true)
    (text : List Char) : docText (joinDocLines text indent) = text := by
  have bodies : (joinDocLines text indent).map docBody = lines text := by
    rw [joinDocLines, List.map_map]
    refine List.map_id'' (fun body => ?_) _
    exact docBody_docLine blank body
  rw [docText, bodies, unlines_lines]

theorem docIndent_joinDocLines {indent : Line} (blank : ∀ c ∈ indent, isBlank c = true)
    (text : List Char) : docIndent (joinDocLines text indent) = indent := by
  obtain ⟨first, rest, cut⟩ := List.exists_cons_of_ne_nil (lines_ne_nil text)
  simp only [docIndent, joinDocLines, cut, List.map_cons, List.headD_cons, List.append_assoc]
  exact takeWhile_append_stop blank (by simp [docMark, isBlank])

theorem head?_of_mem_sanitizeLines {bodies : List Line}
    (three : ∀ body ∈ bodies, body.head? ≠ some '/') {body : Line}
    (member : body ∈ Comment.sanitizeLines bodies) : body.head? ≠ some '/' := by
  have marker : ∀ (f : Comment.Fence) (tail : Line), f.Sound →
      (f.markerLine tail).head? ≠ some '/' := by
    intro f tail sound
    rw [sound.markerLine_eq, List.head?_append]
    cases e : f.indent.head? with
    | none =>
      rcases sound.mark with h | h <;> simp [h, Comment.Fence.backtick]
    | some c =>
      have pad := sound.indent c (List.mem_of_mem_head? e)
      rintro same
      obtain rfl : c = '/' := by simpa using same
      exact absurd pad (by decide)
  rcases Comment.mem_sanitizeLines member with old | ⟨f, sound, rfl | rfl⟩
  · exact three body old
  · exact marker f _ sound
  · rw [f.closer_eq]
    exact marker f _ sound

end ProtoModules.Source
