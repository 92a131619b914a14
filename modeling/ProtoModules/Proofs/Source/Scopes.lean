import ProtoModules.Proofs.Source.Words

/-! Scopes as declarations. A reader looks for words of its own, behind the visibility or at the
beginning, and leaves a line that starts with another word to the readers after it; an implementation
is read up to the type that stands behind the trait. -/

namespace ProtoModules.Source.Declaration
open Text

variable {read : Line → Option Line} {words : List String} {v : Visibility} {w : String}
  {name : Ident} {s rest : Line}

theorem avoids_visible (given : v ≠ .inherited) (other : "pub" ∉ words) (s : Line) :
    Avoids words (v.text ++ s) := by
  cases v with
  | inherited => exact absurd rfl given
  | everywhere => exact @avoids_word words "pub" (' ' :: s) rfl (stops_cons (by decide) s) other
  | within scope plain =>
    have whole : Visibility.text (.within scope plain) ++ s =
        "pub".toList ++ '(' :: (scope ++ ')' :: ' ' :: s) := by
      simp [Visibility.text]
    rw [whole]
    exact avoids_word rfl (stops_cons (by decide) _) other

theorem behindVisibility_text (avoids : Avoids ["pub"] s) (begins : Begins s) {found : Line}
    (own : read s = some found) : behindVisibility read (v.text ++ s) = some found := by
  by_cases given : v = .inherited
  · subst given
    rw [Visibility.text, List.nil_append, behindVisibility, avoids.afterVisibility?, own]
    rfl
  · rw [behindVisibility, afterVisibility?_text given begins.ink, Option.bind_some, own]
    rfl

theorem behindVisibility_eq_none (avoids : Avoids ["pub"] s) (begins : Begins s)
    (own : read s = none) (whole : v ≠ .inherited → read (v.text ++ s) = none) :
    behindVisibility read (v.text ++ s) = none := by
  by_cases given : v = .inherited
  · subst given
    rw [Visibility.text, List.nil_append, behindVisibility, avoids.afterVisibility?, own]
    rfl
  · rw [behindVisibility, afterVisibility?_text given begins.ink, Option.bind_some, own, whole given]
    rfl

def scopeWords : List String := ["struct", "enum", "union", "trait", "mod"]

theorem letters_of_mem_scopeWords (member : w ∈ scopeWords) : w.toList.all isNameChar = true := by
  revert w
  decide

theorem begins_of_mem_scopeWords (member : w ∈ scopeWords) (rest : Line) :
    Begins (w.toList ++ rest) := by
  refine Begins.append ?_ rest
  revert w
  simp only [Begins]
  decide

theorem avoids_scopeWord (member : w ∈ scopeWords) (rest : Line) :
    Avoids ["pub", "unsafe", "impl"] (w.toList ++ ' ' :: rest) := by
  refine avoids_word (letters_of_mem_scopeWords member) (stops_cons (by decide) rest) ?_
  revert w
  decide

theorem scope?_eq_none (avoids : Avoids ["pub"] s) (begins : Begins s)
    (other : Avoids scopeWords (skipKeyword "unsafe" s)) : scope? (v.text ++ s) = none := by
  have none : ∀ {t : Line}, Avoids scopeWords t → afterOneOf? scopeWords t = none := fun avoids =>
    avoids.afterOneOf? fun _ => letters_of_mem_scopeWords
  refine behindVisibility_eq_none avoids begins ?_ fun given => ?_
  · change afterOneOf? scopeWords (skipKeyword "unsafe" s) >>= name? = Option.none
    rw [none other]
    rfl
  · have plain := @avoids_visible ["unsafe"] v given (by decide) s
    change afterOneOf? scopeWords (skipKeyword "unsafe" (v.text ++ s)) >>= name? = Option.none
    rw [plain.skipKeyword (by decide) (by decide), none (avoids_visible given (by decide) s)]
    rfl

theorem scope?_text {dangerous : Bool} (member : w ∈ scopeWords)
    (stop : ∀ c ∈ rest.head?, isWord c = false) (plain : rest.head? ≠ some '#') :
    scope? (v.text ++ (optional dangerous "unsafe" ++ (w.toList ++ ' ' :: (name.text ++ rest)))) =
      some name.chars := by
  have avoids := avoids_scopeWord member (name.text ++ rest)
  have begins := begins_of_mem_scopeWords member (' ' :: (name.text ++ rest))
  refine behindVisibility_text ?_ ?_ ?_
  · exact avoids_optional rfl (by decide) (avoids.mono (by decide))
  · exact begins.optional _ rfl
  change afterOneOf? scopeWords (skipKeyword "unsafe" _) >>= name? = _
  rw [skipKeyword_optional rfl (avoids.mono (by decide)) begins.ink,
    afterOneOf?_append member (fun _ => letters_of_mem_scopeWords) (name.begins.append rest).ink]
  exact name?_text name stop plain

theorem impl?_eq_none (other : Avoids ["impl"] (skipKeyword "unsafe" s)) :
    impl? (v.text ++ s) = none := by
  have none : ∀ {t : Line}, Avoids ["impl"] (skipKeyword "unsafe" t) → impl? t = Option.none := by
    intro t other
    rw [impl?]
    rcases afterWord?_cases "impl" (skipKeyword "unsafe" t) with none | ⟨rest, whole, found⟩
    · rw [none]
      rfl
    · obtain ⟨c, more, same, ink, -, open?⟩ :=
        other.exists_behind List.mem_cons_self (by decide) (whole ▸ List.prefix_append _ _)
      obtain rfl := List.append_cancel_left (whole.symm.trans same)
      have unbracketed : afterBracketed? '<' '>' (c :: more) = Option.none := by
        rw [afterBracketed?, if_neg open?]
      rw [found]
      simp only [Option.bind_eq_bind, Option.bind_some, unbracketed, Option.getD_none,
        afterBlanks?_eq_none (stops_cons ink more), Option.bind_none]
  by_cases given : v = .inherited
  · subst given
    exact none other
  · have visible := @avoids_visible ["unsafe", "impl"] v given (by decide) s
    refine none ?_
    rw [visible.skipKeyword (by decide) (by decide)]
    exact visible.mono (by decide)

def holdsFor : Line → Bool
  | [] => false
  | b :: rest => (isBlank b && (afterKeyword? "for" rest).isSome) || holdsFor rest

theorem holdsFor_of_afterBlanks? {found : Line} (blanks : afterBlanks? s = some found)
    (keyword : (afterKeyword? "for" found).isSome) : holdsFor s = true := by
  induction s with
  | nil => simp [afterBlanks?] at blanks
  | cons b more ih =>
    rw [afterBlanks?] at blanks
    split at blanks
    · rename_i blank
      rw [holdsFor, blank, Bool.true_and, Bool.or_eq_true]
      cases more with
      | nil =>
        obtain rfl : found = [] := by simpa using blanks.symm
        simp [afterKeyword?, afterWord?] at keyword
      | cons c more =>
        by_cases another : isBlank c = true
        · refine .inr (ih ?_)
          rw [afterBlanks?, if_pos another]
          rwa [List.dropWhile_cons_of_pos another] at blanks
        · obtain rfl : c :: more = found := by
            simpa [List.dropWhile_cons_of_neg another] using blanks
          exact .inl keyword
    · contradiction

theorem implementor?_eq_none (lone : holdsFor s.tail = false) : implementor? s = none := by
  induction s with
  | nil => rfl
  | cons c more ih =>
    rw [List.tail_cons] at lone
    have later : holdsFor more.tail = false := by
      cases more with
      | nil => rfl
      | cons d rest =>
        rw [holdsFor, Bool.or_eq_false_iff] at lone
        exact lone.2
    have here : (afterBlanks? more >>= afterKeyword? "for" >>= pathName?) = none := by
      cases blanks : afterBlanks? more with
      | none => rfl
      | some found =>
        have missing : afterKeyword? "for" found = none := by
          rw [← Option.not_isSome_iff_eq_none]
          intro keyword
          rw [holdsFor_of_afterBlanks? blanks keyword] at lone
          contradiction
        simp only [Option.bind_eq_bind, Option.bind_some, missing, Option.bind_none]
    rw [implementor?.eq_def]
    simp only [ih later, here]
    split <;> rfl

theorem pathEnd?_eq_none {letters : Line} (own : ∀ c ∈ letters, isNameChar c = true)
    (stop : ∀ c ∈ rest.head?, isWord c = false ∧ c ≠ ':') : pathEnd? (letters ++ rest) = none := by
  induction letters with
  | nil =>
    cases rest with
    | nil => rfl
    | cons c more =>
      obtain ⟨word, colon⟩ := stop c rfl
      rw [List.nil_append, pathEnd?.eq_def]
      simp only [word, Bool.false_or, beq_iff_eq, if_neg colon]
  | cons c more ih =>
    have later := fun d inside => own d (List.mem_cons_of_mem c inside)
    have colonless : ∀ name : Line, more ++ rest = ':' :: ':' :: name → False := by
      intro name same
      cases more with
      | nil => exact (stop ':' (by rw [← List.nil_append rest, same]; rfl)).2 rfl
      | cons d more =>
        obtain rfl : d = ':' := (List.cons.inj same).1
        exact absurd (later ':' List.mem_cons_self) (by decide)
    rw [List.cons_append, pathEnd?, ih later]
    · split <;> rfl
    · exact colonless

theorem pathName?_text (name : Ident) (stop : ∀ c ∈ rest.head?, isWord c = false ∧ c ≠ ':') :
    pathName? (name.chars ++ rest) = some name.chars := by
  rw [pathName?, pathEnd?_eq_none (List.all_eq_true.1 name.ascii) stop,
    word?_name name fun c first => (stop c first).1]
  rfl

theorem implementor?_text {path : Line} (present : path ≠ [])
    (plain : path.all inTraitPath = true) (begins : Begins s) (lone : holdsFor (' ' :: s) = false)
    {found : Line} (type : pathName? s = some found) :
    implementor? (path ++ (" for ".toList ++ s)) = some found := by
  have behind : afterBlanks? (" for ".toList ++ s) = some ("for".toList ++ ' ' :: s) :=
    afterBlanks?_space (stops_cons (by decide) _)
  have here : (afterBlanks? (" for ".toList ++ s) >>= afterKeyword? "for" >>= pathName?) =
      some found := by
    simp only [behind, Option.bind_eq_bind, Option.bind_some, afterKeyword?_append "for" begins.ink,
      type]
  have later : implementor? (" for ".toList ++ s) = none := implementor?_eq_none lone
  induction path with
  | nil => exact absurd rfl present
  | cons c more ih =>
    simp only [List.all_cons, Bool.and_eq_true] at plain
    rw [List.cons_append, implementor?, if_pos plain.1]
    cases more with
    | nil => rw [List.nil_append, later, here]; rfl
    | cons d rest => rw [ih (by simp) plain.2]; rfl

def IsBracketed (generics : Line) : Prop :=
  generics = [] ∨ ∃ inner, '>' ∉ inner ∧ generics = '<' :: (inner ++ ['>'])

theorem avoids_impl {generics : Line} (bracketed : IsBracketed generics) (other : "impl" ∉ words) :
    Avoids words ("impl".toList ++ (generics ++ ' ' :: s)) := by
  refine avoids_word rfl ?_ other
  rcases bracketed with rfl | ⟨inner, -, rfl⟩ <;> exact stops_cons (by decide) _

theorem impl?_text {dangerous : Bool} {generics found : Line} (bracketed : IsBracketed generics)
    (ink : ∀ c ∈ s.head?, isBlank c = false)
    (type : (implementor? s).orElse (fun _ => pathName? s) = some found) :
    impl? (optional dangerous "unsafe" ++ ("impl".toList ++ (generics ++ ' ' :: s))) =
      some found := by
  have begins : Begins ("impl".toList ++ (generics ++ ' ' :: s)) := rfl
  have behind : (afterBracketed? '<' '>' (generics ++ ' ' :: s)).getD (generics ++ ' ' :: s) =
      ' ' :: s := by
    rcases bracketed with rfl | ⟨inner, clean, rfl⟩
    · rw [List.nil_append, afterBracketed?, if_neg (by decide)]
      rfl
    · rw [List.cons_append, List.append_assoc, List.singleton_append,
        afterBracketed?_append clean, Option.getD_some]
  rw [impl?, skipKeyword_optional rfl (avoids_impl bracketed (by decide)) begins.ink,
    afterWord?_append]
  simp only [Option.bind_eq_bind, Option.bind_some, behind, afterBlanks?_space ink, type]

theorem ofLine?_of_scope {found : Line} (own : scope? s = some found) :
    ofLine? s = some ⟨found, true⟩ := by
  simp [ofLine?, own]

theorem ofLine?_of_impl {found : Line} (scope : scope? s = none) (own : impl? s = some found) :
    ofLine? s = some ⟨found, true⟩ := by
  simp [ofLine?, scope, own]

theorem ofLine?_implementation {dangerous : Bool} {generics found : Line}
    (bracketed : IsBracketed generics) (ink : ∀ c ∈ s.head?, isBlank c = false)
    (type : (implementor? s).orElse (fun _ => pathName? s) = some found) :
    ofLine? (optional dangerous "unsafe" ++ ("impl".toList ++ (generics ++ ' ' :: s))) =
      some ⟨found, true⟩ := by
  let behind := "impl".toList ++ (generics ++ ' ' :: s)
  have begins : Begins behind := rfl
  have other : Avoids scopeWords (skipKeyword "unsafe" (optional dangerous "unsafe" ++ behind)) := by
    rw [skipKeyword_optional rfl (avoids_impl bracketed (by decide)) begins.ink]
    exact avoids_impl bracketed (by decide)
  have scope : scope? (optional dangerous "unsafe" ++ behind) = none :=
    @scope?_eq_none .inherited _ (avoids_optional rfl (by decide) (avoids_impl bracketed (by decide)))
      (begins.optional _ (show Begins "unsafe".toList from rfl)) other
  exact ofLine?_of_impl scope (impl?_text bracketed ink type)

end ProtoModules.Source.Declaration
