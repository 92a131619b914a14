import ProtoModules.Proofs.Identifier.Replacements
import ProtoModules.Proofs.Identifier.Stem
import ProtoModules.Proofs.Text.Lines

/-! Snake case in one pass. A name is cut before each word and at each run of other characters, and the
pieces that are not empty are its words. What the replacements write are the pieces with underscores
between them, and trimming drops the empty pieces at both ends. -/

namespace ProtoModules.Identifier
open Text

def addTo (later : List (List Char)) (c : Char) : List (List Char) :=
  if isAlnum c then later.modifyHead (c :: ·) else later

def pieces (before : Option Char) : List Char → List (List Char)
  | [] => [[]]
  | c :: rest =>
    let kept := addTo (pieces (some c) rest) c
    if cutsBefore before c rest.head? then [] :: kept else kept

def words (name : List Char) : List (List Char) :=
  (pieces none name).filter fun piece => !piece.isEmpty

theorem addTo_ne_nil {later : List (List Char)} (present : later ≠ []) (c : Char) :
    addTo later c ≠ [] := by
  rw [addTo]
  split
  · rwa [Ne, List.modifyHead_eq_nil_iff]
  · exact present

theorem pieces_ne_nil (before : Option Char) (s : List Char) : pieces before s ≠ [] := by
  induction s generalizing before with
  | nil => simp [pieces]
  | cons c rest ih =>
    rw [pieces]
    split
    · simp
    · exact addTo_ne_nil (ih (some c)) c

theorem joinWith_addTo (separator : Char) {later : List (List Char)} (present : later ≠ [])
    (c : Char) :
    joinWith separator (addTo later c) =
      (if isAlnum c then [c] else []) ++ joinWith separator later := by
  rw [addTo]
  split
  · obtain ⟨piece, more, rfl⟩ := List.exists_cons_of_ne_nil present
    cases more <;> rfl
  · rfl

theorem rewriteBy_word_eq (before : Option Char) (s : List Char) :
    rewriteBy wordRule before s = joinWith '_' (pieces before s) := by
  induction s generalizing before with
  | nil => rfl
  | cons c rest ih =>
    have present := pieces_ne_nil (some c) rest
    rw [rewriteBy, pieces, wordRule, ih]
    split
    · rw [joinWith_nil_cons '_' (addTo_ne_nil present c), joinWith_addTo '_' present]
      rfl
    · rw [joinWith_addTo '_' present]
      rfl

theorem flatten_pieces (before : Option Char) (s : List Char) :
    (pieces before s).flatten = s.filter isAlnum := by
  induction s generalizing before with
  | nil => rfl
  | cons c rest ih =>
    have kept : (addTo (pieces (some c) rest) c).flatten = (c :: rest).filter isAlnum := by
      obtain ⟨piece, more, later⟩ := List.exists_cons_of_ne_nil (pieces_ne_nil (some c) rest)
      have behind := ih (some c)
      rw [later] at behind
      rw [addTo, later, List.filter_cons, ← behind]
      split <;> simp
    rw [pieces]
    split
    · exact kept
    · exact kept

theorem pieces_behind {b : Char} (other : isAlnum b = false) {s : List Char}
    {rest : List (List Char)} (cut : pieces (some b) s = [] :: rest) : rest = [] := by
  induction s generalizing b with
  | nil => exact (List.cons.inj cut).2.symm
  | cons c tail ih =>
    by_cases word : isAlnum c = true
    · have none : isLower b = false ∧ isDigit b = false ∧ isUpper b = false := by
        simp only [isAlnum, Bool.or_eq_false_iff] at other
        exact ⟨other.1.2, other.2, other.1.1⟩
      obtain ⟨piece, more, later⟩ := List.exists_cons_of_ne_nil (pieces_ne_nil (some c) tail)
      simp [pieces, addTo, cutsBefore, startsWord, word, none, later] at cut
    · rw [Bool.not_eq_true] at word
      have same : pieces (some b) (c :: tail) = pieces (some c) tail := by
        simp [pieces, addTo, cutsBefore, word, other]
      rw [same] at cut
      exact ih word cut

theorem forall_mem_dropLast_cons {first : List Char} {rest : List (List Char)}
    (present : rest ≠ [] → first ≠ []) (inner : ∀ piece ∈ rest.dropLast, piece ≠ []) :
    ∀ piece ∈ (first :: rest).dropLast, piece ≠ [] := by
  intro piece member
  cases rest with
  | nil => simp at member
  | cons next more =>
    rw [List.dropLast_cons_of_ne_nil (by simp), List.mem_cons] at member
    rcases member with rfl | inside
    · exact present (by simp)
    · exact inner piece inside

theorem pieces_inner {before : Option Char} {s first : List Char} {rest : List (List Char)}
    (cut : pieces before s = first :: rest) : ∀ piece ∈ rest.dropLast, piece ≠ [] := by
  induction s generalizing before first rest with
  | nil =>
    obtain rfl := (List.cons.inj cut).2
    simp
  | cons c tail ih =>
    obtain ⟨piece, more, later⟩ := List.exists_cons_of_ne_nil (pieces_ne_nil (some c) tail)
    have inner := ih later
    obtain ⟨head, kept, present⟩ : ∃ head, addTo (pieces (some c) tail) c = head :: more ∧
        (more ≠ [] → head ≠ []) := by
      by_cases word : isAlnum c = true
      · exact ⟨c :: piece, by simp [addTo, word, later], by simp⟩
      · rw [Bool.not_eq_true] at word
        refine ⟨piece, by simp [addTo, word, later], fun more gone => more ?_⟩
        rw [gone] at later
        exact pieces_behind word later
    rw [pieces, kept] at cut
    split at cut
    · obtain ⟨rfl, rfl⟩ := List.cons.inj cut
      exact forall_mem_dropLast_cons present inner
    · obtain ⟨rfl, rfl⟩ := List.cons.inj cut
      exact inner

/-- No underscore at either end, and no two in a row. -/
structure Tidy (s : List Char) : Prop where
  begins : s.head? ≠ some '_'
  ends : s.getLast? ≠ some '_'
  single : ¬ ['_', '_'] <:+: s

theorem tidy_of_splitOn {s : List Char} (full : [] ∉ splitOn '_' s) : Tidy s where
  begins first := by
    obtain ⟨rest, rfl⟩ := List.head?_eq_some_iff.1 first
    rw [splitOn_cons_self] at full
    exact full List.mem_cons_self
  ends last := by
    obtain ⟨front, rfl⟩ := List.getLast?_eq_some_iff.1 last
    rw [splitOn_append_cons] at full
    exact full (List.mem_append_right _ (List.mem_singleton_self _))
  single double := by
    obtain ⟨front, back, rfl⟩ := double
    have shape : front ++ ['_', '_'] ++ back = front ++ '_' :: '_' :: back := by simp
    rw [shape, splitOn_append_cons, splitOn_cons_self] at full
    exact full (List.mem_append_right _ List.mem_cons_self)

theorem tidy_joinWith {ws : List (List Char)} (full : ∀ w ∈ ws, w ≠ [])
    (clean : ∀ w ∈ ws, '_' ∉ w) : Tidy (joinWith '_' ws) := by
  cases ws with
  | nil => exact ⟨by simp [joinWith], by simp [joinWith], by simp [joinWith]⟩
  | cons w rest =>
    apply tidy_of_splitOn
    rw [splitOn_joinWith (by simp) clean]
    exact fun member => full [] member rfl

theorem trimUnderscores_padded {lead s trail : List Char} (before : ∀ c ∈ lead, c = '_')
    (behind : ∀ c ∈ trail, c = '_') (tidy : Tidy s) :
    trimUnderscores (lead ++ s ++ trail) = s := by
  have marks : ∀ t : List Char, (∀ c ∈ t, c = '_') → ∀ c ∈ t, (c == '_') = true :=
    fun t all c member => by simp [all c member]
  cases s with
  | nil =>
    have gone : (lead ++ trail).dropWhile (· == '_') = [] :=
      List.dropWhile_eq_nil_iff.2 (marks _ (List.forall_mem_append.2 ⟨before, behind⟩))
    rw [trimUnderscores, List.append_nil, gone]
    rfl
  | cons c rest =>
    have begins : ∀ d ∈ (c :: rest ++ trail).head?, (d == '_') = false := by
      have first := tidy.begins
      simpa using first
    have ends : ∀ d ∈ (c :: rest).reverse.head?, (d == '_') = false := by
      intro d last
      rw [List.head?_reverse] at last
      have other := tidy.ends
      rw [Option.mem_def.1 last] at other
      simpa using other
    rw [trimUnderscores, List.append_assoc, dropWhile_append_stop (marks _ before) begins,
      List.reverse_append, dropWhile_append_stop (marks _ (by simpa using behind)) ends,
      List.reverse_reverse]

theorem exists_trail {ps : List (List Char)} (present : ps ≠ [])
    (inner : ∀ piece ∈ ps.dropLast, piece ≠ []) :
    ∃ trail, (∀ c ∈ trail, c = '_') ∧
      joinWith '_' ps = joinWith '_' (ps.filter fun piece => !piece.isEmpty) ++ trail := by
  obtain ⟨init, last, rfl⟩ := (List.eq_nil_or_concat' ps).resolve_left present
  rw [List.dropLast_concat] at inner
  have words : init.filter (fun piece => !piece.isEmpty) = init :=
    List.filter_eq_self.2 fun piece member => by simp [inner piece member]
  rw [List.filter_append, words]
  by_cases gone : last = []
  · subst gone
    by_cases none : init = []
    · subst none
      exact ⟨[], by simp, rfl⟩
    · refine ⟨['_'], by simp, ?_⟩
      rw [joinWith_append none (by simp)]
      simp [joinWith]
  · refine ⟨[], by simp, ?_⟩
    simp [gone]

theorem exists_padding (s : List Char) :
    ∃ lead trail, (∀ c ∈ lead, c = '_') ∧ (∀ c ∈ trail, c = '_') ∧
      joinWith '_' (pieces none s) = lead ++ joinWith '_' (words s) ++ trail := by
  obtain ⟨first, rest, cut⟩ := List.exists_cons_of_ne_nil (pieces_ne_nil none s)
  have inner := pieces_inner cut
  rw [words, cut]
  by_cases skipped : first = [] ∧ rest ≠ []
  · obtain ⟨rfl, more⟩ := skipped
    obtain ⟨trail, behind, whole⟩ := exists_trail more inner
    refine ⟨['_'], trail, by simp, behind, ?_⟩
    rw [joinWith_nil_cons '_' more, whole]
    rfl
  · have all : ∀ piece ∈ (first :: rest).dropLast, piece ≠ [] :=
      forall_mem_dropLast_cons (fun more gone => skipped ⟨gone, more⟩) inner
    obtain ⟨trail, behind, whole⟩ := exists_trail (List.cons_ne_nil first rest) all
    exact ⟨[], trail, by simp, behind, whole⟩

theorem ne_nil_of_mem_words {s w : List Char} (member : w ∈ words s) : w ≠ [] := by
  have full := (List.mem_filter.1 member).2
  simpa using full

theorem isAlnum_of_mem_words {s w : List Char} (member : w ∈ words s) {c : Char} (inside : c ∈ w) :
    isAlnum c = true := by
  have whole : c ∈ (pieces none s).flatten :=
    List.mem_flatten.2 ⟨w, (List.mem_filter.1 member).1, inside⟩
  rw [flatten_pieces] at whole
  exact (List.mem_filter.1 whole).2

theorem underscore_notMem_of_mem_words {s w : List Char} (member : w ∈ words s) : '_' ∉ w := by
  intro inside
  have word := isAlnum_of_mem_words member inside
  cases word

def lowerWords (s : List Char) : List (List Char) := (words s).map (List.map toLower)

theorem snakeCase_eq (s : List Char) : snakeCase s = joinWith '_' (lowerWords s) := by
  obtain ⟨lead, trail, before, behind, whole⟩ := exists_padding s
  have tidy : Tidy (joinWith '_' (words s)) :=
    tidy_joinWith (fun w => ne_nil_of_mem_words) fun w => underscore_notMem_of_mem_words
  rw [snakeCase, replaceAll_all, rewriteBy_word_eq, whole, trimUnderscores_padded before behind tidy,
    map_joinWith]
  rfl

theorem underscore_notMem_of_mem_lowerWords {s w : List Char} (member : w ∈ lowerWords s) :
    '_' ∉ w := by
  obtain ⟨v, own, rfl⟩ := List.mem_map.1 member
  intro inside
  obtain ⟨c, place, same⟩ := List.mem_map.1 inside
  rcases isLower_or_isDigit_toLower (isAlnum_of_mem_words own place) with small | digit
  · rw [same] at small
    cases small
  · rw [same] at digit
    cases digit

theorem tidy_snakeCase (s : List Char) : Tidy (snakeCase s) := by
  rw [snakeCase_eq]
  refine tidy_joinWith (fun w member => ?_) fun w => underscore_notMem_of_mem_lowerWords
  obtain ⟨v, own, rfl⟩ := List.mem_map.1 member
  simpa using ne_nil_of_mem_words own

theorem filter_snakeCase (s : List Char) :
    (snakeCase s).filter (· != '_') = (s.filter isAlnum).map toLower := by
  rw [snakeCase_eq, filter_joinWith fun w => underscore_notMem_of_mem_lowerWords, lowerWords,
    ← List.map_flatten, words, List.flatten_filter_not_isEmpty, flatten_pieces]

theorem not_isUpper_of_isStemChar {c : Char} (spelled : isStemChar c = true) :
    isUpper c = false := by
  simp only [isUpper, Bool.and_eq_false_iff, decide_eq_false_iff_not]
  rcases isStemChar_iff.1 spelled with small | digit | rfl
  · omega
  · omega
  · decide

theorem isAlnum_of_isStemChar {c : Char} (spelled : isStemChar c = true) (other : c ≠ '_') :
    isAlnum c = true := by
  simp only [isStemChar, Bool.or_eq_true, beq_iff_eq, other, or_false] at spelled
  simpa [isAlnum, or_assoc] using .inr spelled

theorem rewriteBy_word_of_tidy {before : Option Char} {s : List Char}
    (spelled : ∀ c ∈ s, isStemChar c = true) (single : ¬ ['_', '_'] <:+: s)
    (start : s.head? = some '_' → before.all isAlnum = true) : rewriteBy wordRule before s = s := by
  induction s generalizing before with
  | nil => rfl
  | cons c rest ih =>
    have later : rewriteBy wordRule (some c) rest = rest := by
      refine ih (fun d member => spelled d (List.mem_cons_of_mem c member))
        (fun double => single (double.trans (List.suffix_cons c rest).isInfix)) fun second => ?_
      obtain ⟨more, rfl⟩ := List.head?_eq_some_iff.1 second
      refine isAlnum_of_isStemChar (spelled c List.mem_cons_self) ?_
      rintro rfl
      exact single (List.prefix_append ['_', '_'] more).isInfix
    rw [rewriteBy, later, wordRule, cutsBefore]
    by_cases mark : c = '_'
    · subst mark
      have other : isAlnum '_' = false := rfl
      simp [other, start rfl]
    · have own := spelled c List.mem_cons_self
      simp [isAlnum_of_isStemChar own mark, startsWord, not_isUpper_of_isStemChar own]

theorem snakeCase_of_tidy {s : List Char} (spelled : ∀ c ∈ s, isStemChar c = true) (tidy : Tidy s) :
    snakeCase s = s := by
  have small : ∀ c ∈ s, toLower c = id c := fun c member =>
    toLower_of_not_isUpper (not_isUpper_of_isStemChar (spelled c member))
  have bare : trimUnderscores s = s := by
    have padded : trimUnderscores ([] ++ s ++ []) = s :=
      trimUnderscores_padded (by simp) (by simp) tidy
    rwa [List.nil_append, List.append_nil] at padded
  rw [snakeCase, replaceAll_all,
    rewriteBy_word_of_tidy spelled tidy.single fun first => absurd first tidy.begins, bare,
    List.map_congr_left small, List.map_id]

/-- Snake case in one pass: the name is cut before each word and at each run of other characters, empty
pieces are dropped, and the words are joined in small letters. So no underscore is at either end or
next to another one, all letters and digits are there in order, and it is its own snake case form. -/
theorem snakeCase_in_one_pass (s : List Char) :
    snakeCase s = joinWith '_' ((words s).map (List.map toLower)) ∧
    (snakeCase s).head? ≠ some '_' ∧ (snakeCase s).getLast? ≠ some '_' ∧
    ¬ ['_', '_'] <:+: snakeCase s ∧
    (snakeCase s).filter (· != '_') = (s.filter isAlnum).map toLower ∧
    snakeCase (snakeCase s) = snakeCase s :=
  have tidy := tidy_snakeCase s
  ⟨snakeCase_eq s, tidy.begins, tidy.ends, tidy.single, filter_snakeCase s,
    snakeCase_of_tidy (fun _ => isStemChar_of_mem_snakeCase) tidy⟩

example : words "HTTPServer2Go".toList = ["HTTP".toList, "Server2".toList, "Go".toList] := by decide

end ProtoModules.Identifier
