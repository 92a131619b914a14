import ProtoModules.Proofs.Source.Scopes

/-! Members of scopes as declarations: functions, constants, fields and variants. The readers of scopes
find nothing in their lines, and each of them is found by its own reader and by none before it. -/

namespace ProtoModules.Source.Declaration
open Text

variable {words : List String} {v : Visibility} {w : String} {name : Ident} {s rest : Line}

def functionWords : List String := ["const", "async", "unsafe", "fn"]

def itemWords : List String := ["const", "static", "type"]

theorem letters_of_mem_itemWords (member : w ∈ itemWords) : w.toList.all isNameChar = true := by
  revert w
  decide

theorem function?_eq_none (avoids : Avoids ["pub"] s) (begins : Begins s)
    (other : Avoids functionWords (skipKeyword "const" s)) : function? (v.text ++ s) = none := by
  have none : ∀ {t : Line}, Avoids functionWords (skipKeyword "const" t) →
      (afterKeyword? "fn" (skipKeyword "unsafe" (skipKeyword "async" (skipKeyword "const" t))) >>=
        name?) = Option.none := by
    intro t other
    rw [other.skipKeyword (by decide) (by decide), other.skipKeyword (by decide) (by decide),
      other.afterKeyword? (by decide) (by decide)]
    rfl
  refine behindVisibility_eq_none avoids begins (none other) fun given => none ?_
  have visible := @avoids_visible functionWords v given (by decide) s
  rwa [visible.skipKeyword (by decide) (by decide)]

def functionText (constant asynchronous dangerous : Bool) (behind : Line) : Line :=
  optional constant "const" ++ (optional asynchronous "async" ++
    (optional dangerous "unsafe" ++ ("fn".toList ++ ' ' :: behind)))

variable {constant asynchronous dangerous : Bool}

theorem avoids_fn (other : "fn" ∉ words) (behind : Line) :
    Avoids words ("fn".toList ++ ' ' :: behind) :=
  avoids_word rfl (stops_cons (by decide) behind) other

theorem avoids_functionText (other : ∀ w ∈ functionWords, w ∉ words) (behind : Line) :
    Avoids words (functionText constant asynchronous dangerous behind) :=
  avoids_optional rfl (other _ (by decide)) <| avoids_optional rfl (other _ (by decide)) <|
    avoids_optional rfl (other _ (by decide)) <| avoids_fn (other _ (by decide)) behind

theorem begins_fn (dangerous : Bool) (behind : Line) :
    Begins (optional dangerous "unsafe" ++ ("fn".toList ++ ' ' :: behind)) := by
  have fn : Begins ("fn".toList ++ ' ' :: behind) := rfl
  exact fn.optional _ (show Begins "unsafe".toList from rfl)

theorem begins_async (asynchronous dangerous : Bool) (behind : Line) :
    Begins (optional asynchronous "async" ++
      (optional dangerous "unsafe" ++ ("fn".toList ++ ' ' :: behind))) :=
  (begins_fn dangerous behind).optional _ (show Begins "async".toList from rfl)

theorem begins_functionText (behind : Line) :
    Begins (functionText constant asynchronous dangerous behind) :=
  (begins_async asynchronous dangerous behind).optional _ (show Begins "const".toList from rfl)

theorem avoids_skipKeyword_functionText (other : ∀ w ∈ functionWords, w ∉ words) (behind : Line) :
    Avoids words (skipKeyword "unsafe" (functionText constant asynchronous dangerous behind)) := by
  have unskipped : Avoids ["unsafe"] (functionText constant asynchronous dangerous behind) →
      Avoids words (skipKeyword "unsafe" (functionText constant asynchronous dangerous behind)) := by
    intro avoids
    rw [avoids.skipKeyword (by decide) (by decide)]
    exact avoids_functionText other behind
  cases constant with
  | true =>
    exact unskipped (@avoids_word _ "const" (' ' :: _) rfl (stops_cons (by decide) _) (by decide))
  | false =>
    cases asynchronous with
    | true =>
      exact unskipped (@avoids_word _ "async" (' ' :: _) rfl (stops_cons (by decide) _) (by decide))
    | false =>
      have fn : Begins ("fn".toList ++ ' ' :: behind) := rfl
      change Avoids words (skipKeyword "unsafe" (optional dangerous "unsafe" ++ _))
      rw [skipKeyword_optional rfl (avoids_fn (by decide) behind) fn.ink]
      exact avoids_fn (other _ (by decide)) behind

theorem function?_text (stop : ∀ c ∈ rest.head?, isWord c = false) (plain : rest.head? ≠ some '#') :
    function? (v.text ++ functionText constant asynchronous dangerous (name.text ++ rest)) =
      some name.chars := by
  have fn : Begins ("fn".toList ++ ' ' :: (name.text ++ rest)) := rfl
  refine behindVisibility_text ?_ ?_ ?_
  · exact avoids_functionText (by decide) _
  · exact begins_functionText _
  rw [functionText, skipKeyword_optional rfl ?_ (begins_async _ _ _).ink,
    skipKeyword_optional rfl ?_ (begins_fn _ _).ink,
    skipKeyword_optional rfl (avoids_fn (by decide) _) fn.ink,
    afterKeyword?_append "fn" (name.begins.append rest).ink]
  · exact name?_text name stop plain
  · exact avoids_optional rfl (by decide) (avoids_fn (by decide) _)
  · exact avoids_optional rfl (by decide) (avoids_optional rfl (by decide) (avoids_fn (by decide) _))

theorem item?_eq_none (avoids : Avoids ("pub" :: itemWords) s) (begins : Begins s) :
    item? (v.text ++ s) = none := by
  have none : ∀ {t : Line}, Avoids itemWords t → afterOneOf? itemWords t = Option.none :=
    fun other => other.afterOneOf? fun _ => letters_of_mem_itemWords
  refine behindVisibility_eq_none (avoids.mono (by decide)) begins ?_ fun given => ?_
  · change (do let rest ← afterOneOf? itemWords s; _) = Option.none
    rw [none (avoids.mono (by decide))]
    rfl
  · change (do let rest ← afterOneOf? itemWords (v.text ++ s); _) = Option.none
    rw [none (avoids_visible given (by decide) s)]
    rfl

theorem item?_text : item? (v.text ++ ("const".toList ++ ' ' :: (name.text ++ ':' :: rest))) =
    some name.chars := by
  have ink := (name.begins.append (':' :: rest)).ink
  have mutable : afterKeyword? "mut" (name.text ++ ':' :: rest) = none :=
    (avoids_name_colon name rest ["mut"]).afterKeyword? (by decide) (by decide)
  refine behindVisibility_text ?_ ?_ ?_
  · exact avoids_word rfl (stops_cons (by decide) _) (by decide)
  · exact rfl
  change (do let rest ← afterOneOf? itemWords _; _) = _
  rw [afterOneOf?_append (by decide) (fun _ => letters_of_mem_itemWords) ink]
  simp only [Option.bind_eq_bind, Option.bind_some, mutable, Option.bind_none, Option.orElse_none]
  exact name?_text name (stops_cons (by decide) rest) (by simp)

def isSmall (c : Char) : Bool := isLower c || c == '_'

theorem Ident.exists_cons {p : Char → Bool} (first : name.chars.head?.any p = true) :
    ∃ c more, name.chars = c :: more ∧ p c = true ∧ ∀ d ∈ more, isWord d = true := by
  obtain ⟨c, more, shape⟩ := List.exists_cons_of_ne_nil name.present
  refine ⟨c, more, shape, by simpa [shape] using first, fun d member => ?_⟩
  exact Ident.isWord_of_mem (show d ∈ name.chars by simp [shape, member])

theorem fieldName?_text (small : name.chars.head?.any isSmall = true)
    (single : rest.head? ≠ some ':') : fieldName? (name.chars ++ ':' :: rest) = some name.chars := by
  obtain ⟨c, more, shape, first, word⟩ := Ident.exists_cons small
  have stop : ∀ d ∈ (':' :: rest).head?, isWord d = false := stops_cons (by decide) rest
  have blanks : (':' :: rest).dropWhile isBlank = ':' :: rest :=
    dropWhile_of_stop (stops_cons (by decide) rest)
  rw [isSmall] at first
  rw [shape, List.cons_append, fieldName?, if_pos first, dropWhile_append_stop word stop, blanks,
    takeWhile_append_stop word stop]
  cases rest with
  | nil => rfl
  | cons d rest =>
    have other : d ≠ ':' := fun same => single (by rw [same]; rfl)
    split
    · rename_i double
      exact absurd (List.cons.inj (List.cons.inj double).2).1 other
    · rfl
    · rename_i plain
      exact absurd rfl (plain _)

theorem field?_text (small : name.chars.head?.any isSmall = true) (single : rest.head? ≠ some ':') :
    field? (v.text ++ (name.text ++ ':' :: rest)) = some name.chars := by
  have found := fieldName?_text small single
  refine behindVisibility_text ?_ ?_ ?_
  · exact avoids_name_colon name rest _
  · exact name.begins.append _
  by_cases raw : name.raw = true
  · simp only [Ident.text, if_pos raw, List.cons_append]
    exact found
  · simp only [Ident.text, if_neg raw]
    split
    · rename_i marked more same
      exact absurd same (unmarked name (by simp) more)
    · exact found

theorem variant?_text (capital : name.chars.head?.any isUpper = true) (gap : Bool) {mark : Char}
    (marks : mark ∈ ['=', ',', '(']) :
    variant? (name.chars ++ ((if gap then [' '] else []) ++ mark :: rest)) = some name.chars := by
  obtain ⟨c, more, shape, first, word⟩ := Ident.exists_cons capital
  have ends : isWord mark = false ∧ isBlank mark = false ∧
      (mark == '=' || mark == ',' || mark == '(' || mark == '{') = true := by
    simp only [List.mem_cons, List.not_mem_nil, or_false] at marks
    rcases marks with rfl | rfl | rfl <;> decide
  have stop : ∀ d ∈ ((if gap then [' '] else []) ++ mark :: rest).head?, isWord d = false := by
    cases gap with
    | false => exact stops_cons ends.1 rest
    | true => exact stops_cons (by decide) (mark :: rest)
  have blanks : ((if gap then [' '] else []) ++ mark :: rest).dropWhile isBlank = mark :: rest := by
    refine dropWhile_append_stop (fun d member => ?_) (stops_cons ends.2.1 rest)
    cases gap with
    | false => simp at member
    | true =>
      obtain rfl : d = ' ' := by simpa using member
      decide
  rw [shape, List.cons_append, variant?, if_pos first, dropWhile_append_stop word stop, blanks,
    takeWhile_append_stop word stop]
  exact if_pos ends.2.2

theorem field?_eq_none (capital : name.chars.head?.any isUpper = true)
    (avoids : Avoids ["pub"] (name.chars ++ rest)) (plain : rest.head? ≠ some '#') :
    field? (name.chars ++ rest) = none := by
  obtain ⟨c, more, shape, first, -⟩ := Ident.exists_cons capital
  have large : (isLower c || c == '_') = false := by
    have underscore : c = '_' ↔ c.toNat = 0x5f := by
      rw [← Char.toNat_inj]
      rfl
    simp only [isUpper, Bool.and_eq_true, decide_eq_true_eq] at first
    simp only [isLower, Bool.or_eq_false_iff, Bool.and_eq_false_iff, decide_eq_false_iff_not,
      beq_eq_false_iff_ne, ne_eq, underscore]
    omega
  rw [field?, behindVisibility, avoids.afterVisibility?, Option.bind_none, Option.orElse]
  split
  · rename_i marked more same
    exact absurd same (unmarked name plain more)
  · rw [shape, List.cons_append, fieldName?, large]
    rfl

theorem ofLine?_of_member {found : Line} (scope : scope? s = none) (impl : impl? s = none)
    (own : (((function? s).orElse fun _ => item? s).orElse fun _ =>
      (field? s).orElse fun _ => variant? s) = some found) :
    ofLine? s = some ⟨found, false⟩ := by
  simp only [ofLine?, scope, impl, own]
  rfl

def keywords : List String := "pub" :: "impl" :: scopeWords ++ functionWords ++ itemWords

theorem ofLine?_function (constant asynchronous dangerous : Bool)
    (stop : ∀ c ∈ rest.head?, isWord c = false) (plain : rest.head? ≠ some '#') :
    ofLine? (v.text ++ functionText constant asynchronous dangerous (name.text ++ rest)) =
      some ⟨name.chars, false⟩ := by
  let s := functionText constant asynchronous dangerous (name.text ++ rest)
  have begins : Begins s := begins_functionText _
  have scope : scope? (v.text ++ s) = none :=
    scope?_eq_none (avoids_functionText (by decide) _) begins
      (avoids_skipKeyword_functionText (by decide) _)
  have impl : impl? (v.text ++ s) = none :=
    impl?_eq_none (avoids_skipKeyword_functionText (by decide) _)
  refine ofLine?_of_member scope impl ?_
  rw [function?_text stop plain]
  rfl

theorem ofLine?_constant :
    ofLine? (v.text ++ ("const".toList ++ ' ' :: (name.text ++ ':' :: rest))) =
      some ⟨name.chars, false⟩ := by
  let s := "const".toList ++ ' ' :: (name.text ++ ':' :: rest)
  have begins : Begins s := rfl
  have avoids : Avoids ("pub" :: "unsafe" :: "impl" :: scopeWords) s :=
    avoids_word rfl (stops_cons (by decide) _) (by decide)
  have unsafe? : skipKeyword "unsafe" s = s := avoids.skipKeyword (by decide) (by decide)
  have const? : skipKeyword "const" s = name.text ++ ':' :: rest := by
    rw [skipKeyword, afterKeyword?_append "const" (name.begins.append _).ink, Option.getD_some]
  have pub : Avoids ["pub"] s := avoids.mono (by decide)
  have scope : scope? (v.text ++ s) = none :=
    scope?_eq_none pub begins (by rw [unsafe?]; exact avoids.mono (by decide))
  have impl : impl? (v.text ++ s) = none :=
    impl?_eq_none (by rw [unsafe?]; exact avoids.mono (by decide))
  have function : function? (v.text ++ s) = none :=
    function?_eq_none pub begins (by rw [const?]; exact avoids_name_colon name rest _)
  refine ofLine?_of_member scope impl ?_
  rw [function, item?_text]
  rfl

theorem ofLine?_of_avoids (avoids : Avoids keywords s) (begins : Begins s) {found : Line}
    (own : ((field? (v.text ++ s)).orElse fun _ => variant? (v.text ++ s)) = some found) :
    ofLine? (v.text ++ s) = some ⟨found, false⟩ := by
  have pub : Avoids ["pub"] s := avoids.mono (by decide)
  have unsafe? : skipKeyword "unsafe" s = s := avoids.skipKeyword (by decide) (by decide)
  have const? : skipKeyword "const" s = s := avoids.skipKeyword (by decide) (by decide)
  have scope : scope? (v.text ++ s) = none :=
    scope?_eq_none pub begins (by rw [unsafe?]; exact avoids.mono (by decide))
  have impl : impl? (v.text ++ s) = none :=
    impl?_eq_none (by rw [unsafe?]; exact avoids.mono (by decide))
  have function : function? (v.text ++ s) = none :=
    function?_eq_none pub begins (by rw [const?]; exact avoids.mono (by decide))
  have item : item? (v.text ++ s) = none := item?_eq_none (avoids.mono (by decide)) begins
  refine ofLine?_of_member scope impl ?_
  rw [function, item]
  exact own

theorem ofLine?_field (small : name.chars.head?.any isSmall = true)
    (single : rest.head? ≠ some ':') : ofLine? (v.text ++ (name.text ++ ':' :: rest)) =
      some ⟨name.chars, false⟩ := by
  refine ofLine?_of_avoids (avoids_name_colon name rest keywords) (name.begins.append _) ?_
  rw [field?_text small single]
  rfl

theorem ofLine?_variant (capital : name.chars.head?.any isUpper = true) (unmarked : name.raw = false)
    (gap : Bool) {mark : Char} (marks : mark ∈ ['=', ',', '(']) :
    ofLine? (name.text ++ ((if gap then [' '] else []) ++ mark :: rest)) =
      some ⟨name.chars, false⟩ := by
  let behind := (if gap then [' '] else []) ++ mark :: rest
  have ends : isNameChar mark = false ∧ mark ≠ '#' := by
    simp only [List.mem_cons, List.not_mem_nil, or_false] at marks
    rcases marks with rfl | rfl | rfl <;> decide
  have stop : ∀ c ∈ behind.head?, isNameChar c = false := by
    cases gap with
    | false => exact stops_cons ends.1 rest
    | true => exact stops_cons (by decide) (mark :: rest)
  have plain : behind.head? ≠ some '#' := by
    cases gap with
    | false => exact fun hash => ends.2 (Option.some.inj hash)
    | true => simp [behind]
  have small : ∀ w ∈ keywords, w.toList.head?.any isUpper = false := by decide
  have avoids : Avoids keywords (name.chars ++ behind) :=
    ⟨name.chars, behind, rfl, List.all_eq_true.1 name.ascii, stop, fun w member same => by
      rw [← same, small w member] at capital
      contradiction⟩
  have begins : Begins name.text := name.begins
  rw [Ident.text_of_unmarked unmarked] at begins ⊢
  refine @ofLine?_of_avoids .inherited _ avoids (begins.append behind) _ ?_
  change ((field? (name.chars ++ behind)).orElse fun _ => variant? (name.chars ++ behind)) = _
  rw [field?_eq_none capital (avoids.mono (by decide)) plain, variant?_text capital gap marks]
  rfl

end ProtoModules.Source.Declaration
