import ProtoModules.Proofs.Source.Words

/-! Names that are read from a line. Whatever the line is, a declaration has a name that is not empty and
is made of word characters, so no dot stands in it. -/

namespace ProtoModules.Source.Declaration
open Text

def FindsWord (found : Option Line) : Prop := ∀ name ∈ found, name ≠ [] ∧ ∀ c ∈ name, isWord c = true

variable {found other : Option Line} {read : Line → Option Line} {s : Line}

theorem findsWord_none : FindsWord none := by simp [FindsWord]

theorem FindsWord.orElse (first : FindsWord found) (second : FindsWord other) :
    FindsWord (found.orElse fun _ => other) := by
  cases found with
  | none => exact second
  | some name => exact first

theorem FindsWord.bind (always : ∀ s, FindsWord (read s)) (rest : Option Line) :
    FindsWord (rest.bind read) := by
  cases rest with
  | none => exact findsWord_none
  | some rest => exact always rest

theorem findsWord_word? (s : Line) : FindsWord (word? s) := by
  rw [word?]
  split
  · exact findsWord_none
  · rename_i name present
    intro name' same
    obtain rfl := Option.some.inj same
    exact ⟨present, fun c member => List.mem_takeWhile_imp member⟩

theorem findsWord_takeWhile {c : Char} (first : isWord c = true) (rest : Line) :
    FindsWord (some (c :: rest.takeWhile isWord)) := by
  intro name same
  obtain rfl := Option.some.inj same
  refine ⟨List.cons_ne_nil _ _, List.forall_mem_cons.2 ⟨first, fun d member => ?_⟩⟩
  exact List.mem_takeWhile_imp member

theorem findsWord_name? (s : Line) : FindsWord (name? s) := by
  rw [name?.eq_def]
  split
  · refine (findsWord_word? _).orElse ?_
    intro name same
    obtain rfl := Option.some.inj same
    exact ⟨by simp, by simp; decide⟩
  · exact findsWord_word? s

theorem FindsWord.behindVisibility (always : ∀ s, FindsWord (read s)) (s : Line) :
    FindsWord (behindVisibility read s) :=
  (FindsWord.bind always _).orElse (always s)

theorem findsWord_scope? (s : Line) : FindsWord (scope? s) :=
  FindsWord.behindVisibility (fun _ => FindsWord.bind findsWord_name? _) s

theorem findsWord_function? (s : Line) : FindsWord (function? s) :=
  FindsWord.behindVisibility (fun _ => FindsWord.bind findsWord_name? _) s

theorem findsWord_item? (s : Line) : FindsWord (item? s) := by
  refine FindsWord.behindVisibility (fun s => ?_) s
  refine FindsWord.bind (fun rest => ?_) _
  exact (FindsWord.bind findsWord_name? _).orElse (findsWord_name? rest)

theorem findsWord_fieldName? (s : Line) : FindsWord (fieldName? s) := by
  rw [fieldName?.eq_def]
  split
  · exact findsWord_none
  · split
    · rename_i first
      split
      · exact findsWord_none
      · refine findsWord_takeWhile (isWord_of_isNameChar ?_) _
        rcases Bool.or_eq_true_iff.1 first with small | underscore
        · simp [isNameChar, isAlnum, small]
        · simp [isNameChar, underscore]
      · exact findsWord_none
    · exact findsWord_none

theorem findsWord_field? (s : Line) : FindsWord (field? s) := by
  refine FindsWord.behindVisibility (fun s => ?_) s
  split
  · exact findsWord_fieldName? _
  · exact findsWord_fieldName? _

theorem findsWord_variant? (s : Line) : FindsWord (variant? s) := by
  rw [variant?.eq_def]
  split
  · exact findsWord_none
  · split
    · rename_i c rest capital
      have letter : isWord c = true := isWord_of_isNameChar (by simp [isNameChar, isAlnum, capital])
      split
      · exact findsWord_takeWhile letter _
      · split
        · exact findsWord_takeWhile letter _
        · exact findsWord_none
    · exact findsWord_none

theorem findsWord_pathEnd? (s : Line) : FindsWord (pathEnd? s) := by
  induction s with
  | nil => exact findsWord_none
  | cons c rest ih =>
    rw [pathEnd?.eq_def]
    simp only
    split
    · refine ih.orElse ?_
      split
      · exact findsWord_word? _
      · exact findsWord_none
    · exact findsWord_none

theorem findsWord_pathName? (s : Line) : FindsWord (pathName? s) :=
  (findsWord_pathEnd? s).orElse (findsWord_word? s)

theorem findsWord_implementor? (s : Line) : FindsWord (implementor? s) := by
  induction s with
  | nil => exact findsWord_none
  | cons c rest ih =>
    rw [implementor?.eq_def]
    simp only
    split
    · exact ih.orElse (FindsWord.bind findsWord_pathName? _)
    · exact findsWord_none

theorem findsWord_impl? (s : Line) : FindsWord (impl? s) := by
  rw [impl?]
  refine FindsWord.bind (fun rest => ?_) _
  refine FindsWord.bind (fun rest => ?_) _
  exact (findsWord_implementor? rest).orElse (findsWord_pathName? rest)

theorem name_of_ofLine? {d : Declaration} (found : ofLine? s = some d) :
    d.name ≠ [] ∧ ∀ c ∈ d.name, isWord c = true := by
  have scope : FindsWord ((scope? s).orElse fun _ => impl? s) :=
    (findsWord_scope? s).orElse (findsWord_impl? s)
  have member : FindsWord (((function? s).orElse fun _ => item? s).orElse fun _ =>
      (field? s).orElse fun _ => variant? s) :=
    ((findsWord_function? s).orElse (findsWord_item? s)).orElse
      ((findsWord_field? s).orElse (findsWord_variant? s))
  rw [ofLine?] at found
  cases opens : (scope? s).orElse fun _ => impl? s with
  | some name =>
    rw [opens] at found scope
    obtain rfl := Option.some.inj found
    exact scope name rfl
  | none =>
    rw [opens] at found
    obtain ⟨name, read, rfl⟩ := Option.map_eq_some_iff.1 found
    exact member name read

end ProtoModules.Source.Declaration
