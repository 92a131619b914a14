import Mathlib.Data.List.Basic
import ProtoModules.Proofs.Text.Trim
import ProtoModules.Source.Declaration

/-! Words at the beginning of a line. A text starts with a word, which ends where no word character
follows; a reader of a keyword takes the word and the blanks behind it if it is that keyword, and
finds nothing in a text that starts with another word. -/

namespace ProtoModules.Source
open Text

def isNameChar (c : Char) : Bool := c == '_' || isAlnum c

theorem isNameChar_iff {c : Char} : isNameChar c = true ↔
    c.toNat = 0x5f ∨ (0x41 ≤ c.toNat ∧ c.toNat ≤ 0x5a) ∨ (0x61 ≤ c.toNat ∧ c.toNat ≤ 0x7a) ∨
      (0x30 ≤ c.toNat ∧ c.toNat ≤ 0x39) := by
  have underscore : c = '_' ↔ c.toNat = 0x5f := by
    rw [← Char.toNat_inj]
    rfl
  simp only [isNameChar, isAlnum, isUpper, isLower, isDigit, Bool.or_eq_true, beq_iff_eq,
    Bool.and_eq_true, decide_eq_true_eq, underscore, or_assoc]

theorem isWord_of_isNameChar {c : Char} (ascii : isNameChar c = true) : isWord c = true := by
  have range := isNameChar_iff.1 ascii
  have small : c.toNat < 0x80 := by omega
  rw [isNameChar] at ascii
  rw [isWord, if_pos small, ascii]

theorem ink_of_isNameChar {c : Char} (ascii : isNameChar c = true) : isBlank c = false := by
  have range := isNameChar_iff.1 ascii
  simp only [isBlank, Bool.or_eq_false_iff, Bool.and_eq_false_iff, decide_eq_false_iff_not,
    beq_eq_false_iff_ne]
  omega

/-- An identifier, whose raw mark does not belong to the name. -/
structure Ident where
  raw : Bool := false
  chars : Line
  present : chars ≠ [] := by decide
  ascii : chars.all isNameChar = true := by decide

namespace Ident

def text (name : Ident) : Line := if name.raw then 'r' :: '#' :: name.chars else name.chars

theorem isWord_of_mem {name : Ident} {c : Char} (member : c ∈ name.chars) : isWord c = true :=
  isWord_of_isNameChar (List.all_eq_true.1 name.ascii c member)

theorem text_of_unmarked {name : Ident} (unmarked : name.raw = false) : name.text = name.chars := by
  rw [text, unmarked, if_neg Bool.false_ne_true]

end Ident

def Begins (s : Line) : Prop := s.head?.any isNameChar = true

theorem Begins.append {s : Line} (begins : Begins s) (rest : Line) : Begins (s ++ rest) := by
  cases s with
  | nil => simp [Begins] at begins
  | cons c more => exact begins

theorem Begins.head {s : Line} (begins : Begins s) : ∀ c ∈ s.head?, isNameChar c = true := by
  cases s with
  | nil => simp [Begins] at begins
  | cons c more => simpa [Begins] using begins

theorem Begins.ink {s : Line} (begins : Begins s) : ∀ c ∈ s.head?, isBlank c = false :=
  fun c first => ink_of_isNameChar (begins.head c first)

theorem Begins.head?_ne {s : Line} (begins : Begins s) {c : Char} (other : isNameChar c = false) :
    s.head? ≠ some c := fun first => by
  rw [begins.head c first] at other
  contradiction

theorem Ident.begins_chars (name : Ident) : Begins name.chars := by
  obtain ⟨c, more, shape⟩ := List.exists_cons_of_ne_nil name.present
  rw [shape]
  exact List.all_eq_true.1 name.ascii c (by simp [shape])

theorem Ident.begins (name : Ident) : Begins name.text := by
  rw [Ident.text]
  split
  · exact rfl
  · exact name.begins_chars

def optional (given : Bool) (word : String) : Line := if given then word.toList ++ [' '] else []

theorem Begins.optional {s : Line} (begins : Begins s) (given : Bool) {word : String}
    (own : Begins word.toList) : Begins (optional given word ++ s) := by
  cases given with
  | false => exact begins
  | true => exact (own.append [' ']).append s

inductive Visibility where
  | inherited
  | everywhere
  | within (scope : Line) (plain : scope.all (fun c => isNameChar c || c == ':' || c == ' ') = true)

def Visibility.text : Visibility → Line
  | inherited => []
  | everywhere => "pub ".toList
  | within scope _ => "pub(".toList ++ scope ++ ") ".toList

theorem Begins.visible {s : Line} (begins : Begins s) (v : Visibility) : Begins (v.text ++ s) := by
  cases v with
  | inherited => exact begins
  | everywhere => exact rfl
  | within scope plain => exact rfl

theorem stops_cons {p : Char → Bool} {c : Char} (no : p c = false) (rest : Line) :
    ∀ d ∈ (c :: rest).head?, p d = false := by
  simpa using no

namespace Declaration

/-- The text starts with none of the words, unless a colon or a raw mark behind the word shows that it
is no keyword. -/
def Avoids (words : List String) (s : Line) : Prop :=
  ∃ word rest : Line, s = word ++ rest ∧ (∀ c ∈ word, isNameChar c = true) ∧
    (∀ c ∈ rest.head?, isNameChar c = false) ∧
    ∀ w ∈ words, w.toList = word → rest.head? = some ':' ∨ rest.head? = some '#'

variable {words : List String} {w : String} {s rest : Line}

theorem Avoids.mono {more : List String} (avoids : Avoids more s) (fewer : words ⊆ more) :
    Avoids words s := by
  obtain ⟨word, rest, whole, letters, stop, other⟩ := avoids
  exact ⟨word, rest, whole, letters, stop, fun w member => other w (fewer member)⟩

theorem avoids_word (letters : w.toList.all isNameChar = true)
    (stop : ∀ c ∈ rest.head?, isNameChar c = false) (other : w ∉ words) :
    Avoids words (w.toList ++ rest) :=
  ⟨w.toList, rest, rfl, List.all_eq_true.1 letters, stop, fun _ member same =>
    absurd (String.toList_injective same ▸ member) other⟩

theorem avoids_optional {given : Bool} (letters : w.toList.all isNameChar = true)
    (other : w ∉ words) (later : Avoids words s) : Avoids words (optional given w ++ s) := by
  cases given with
  | false => exact later
  | true =>
    simp only [optional, if_true, List.append_assoc]
    exact avoids_word letters (stops_cons (by decide) s) other

theorem avoids_name_colon (name : Ident) (rest : Line) (words : List String) :
    Avoids words (name.text ++ ':' :: rest) := by
  rw [Ident.text]
  split
  · exact ⟨['r'], '#' :: (name.chars ++ ':' :: rest), rfl, List.forall_mem_singleton.2 rfl,
      stops_cons (by decide) _, fun _ _ _ => .inr rfl⟩
  · exact ⟨name.chars, ':' :: rest, rfl, List.all_eq_true.1 name.ascii,
      stops_cons (by decide) _, fun _ _ _ => .inl rfl⟩

theorem Avoids.exists_behind (avoids : Avoids words s) (member : w ∈ words)
    (letters : w.toList.all isNameChar = true) (found : w.toList <+: s) :
    ∃ c rest, s = w.toList ++ c :: rest ∧ isBlank c = false ∧ c ≠ '(' ∧ c ≠ '<' := by
  have inside : ∀ c, isNameChar c = true → isBlank c = false ∧ c ≠ '(' ∧ c ≠ '<' := fun c letter =>
    ⟨ink_of_isNameChar letter, by rintro rfl; revert letter; decide,
      by rintro rfl; revert letter; decide⟩
  have behind : ∀ rest : Line, rest.head? = some ':' ∨ rest.head? = some '#' →
      ∃ c more, rest = c :: more ∧ isBlank c = false ∧ c ≠ '(' ∧ c ≠ '<' := by
    intro rest mark
    rcases mark with colon | raw
    · obtain ⟨more, rfl⟩ := List.head?_eq_some_iff.1 colon
      exact ⟨':', more, rfl, by decide⟩
    · obtain ⟨more, rfl⟩ := List.head?_eq_some_iff.1 raw
      exact ⟨'#', more, rfl, by decide⟩
  obtain ⟨word, rest, rfl, own, stop, other⟩ := avoids
  rcases List.prefix_or_prefix_of_prefix found (List.prefix_append word rest) with
    ⟨more, same⟩ | ⟨more, same⟩
  · cases more with
    | nil =>
      rw [List.append_nil] at same
      obtain ⟨c, more, rfl, ink⟩ := behind rest (other w member same)
      exact ⟨c, more, by rw [same], ink⟩
    | cons c more =>
      exact ⟨c, more ++ rest, by simp [← same], inside c (own c (by simp [← same]))⟩
  · cases more with
    | nil =>
      rw [List.append_nil] at same
      obtain ⟨c, more, rfl, ink⟩ := behind rest (other w member same.symm)
      exact ⟨c, more, by rw [same], ink⟩
    | cons c more =>
      -- the keyword is longer than the word, so its next letter would belong to the word
      obtain ⟨end?, whole⟩ := found
      rw [← same, List.append_assoc, List.append_cancel_left_eq] at whole
      have letter := List.all_eq_true.1 letters c (by simp [← same])
      rw [← whole] at stop
      exact absurd letter (Bool.eq_false_iff.1 (stop c (by simp)))

theorem afterWord?_append (w : String) (rest : Line) :
    afterWord? w (w.toList ++ rest) = some rest := by
  rw [afterWord?, if_pos (List.isPrefixOf_iff_prefix.2 (List.prefix_append _ _)),
    ← String.length_toList, List.drop_left]

theorem afterWord?_cases (w : String) (s : Line) :
    afterWord? w s = none ∨ ∃ rest, s = w.toList ++ rest ∧ afterWord? w s = some rest := by
  by_cases found : w.toList <+: s
  · obtain ⟨rest, rfl⟩ := found
    exact .inr ⟨rest, rfl, afterWord?_append w rest⟩
  · exact .inl (by rw [afterWord?, if_neg (by simpa using found)])

theorem afterBlanks?_eq_none (ink : ∀ c ∈ s.head?, isBlank c = false) : afterBlanks? s = none := by
  cases s with
  | nil => rfl
  | cons c more => rw [afterBlanks?, if_neg (by simpa using ink c rfl)]

theorem afterBlanks?_space (ink : ∀ c ∈ rest.head?, isBlank c = false) :
    afterBlanks? (' ' :: rest) = some rest := by
  rw [afterBlanks?, if_pos (by decide), dropWhile_of_stop ink]

theorem afterKeyword?_append (w : String) (ink : ∀ c ∈ rest.head?, isBlank c = false) :
    afterKeyword? w (w.toList ++ ' ' :: rest) = some rest := by
  rw [afterKeyword?, afterWord?_append]
  exact afterBlanks?_space ink

theorem Avoids.afterKeyword? (avoids : Avoids words s) (member : w ∈ words)
    (letters : w.toList.all isNameChar = true) : afterKeyword? w s = none := by
  rw [Declaration.afterKeyword?]
  rcases afterWord?_cases w s with none | ⟨rest, whole, found⟩
  · rw [none]
    rfl
  · obtain ⟨c, more, same, ink, -⟩ :=
      avoids.exists_behind member letters (whole ▸ List.prefix_append _ _)
    obtain rfl := List.append_cancel_left (whole.symm.trans same)
    rw [found]
    exact afterBlanks?_eq_none (stops_cons ink more)

theorem Avoids.skipKeyword (avoids : Avoids words s) (member : w ∈ words)
    (letters : w.toList.all isNameChar = true) : skipKeyword w s = s := by
  rw [Declaration.skipKeyword, avoids.afterKeyword? member letters, Option.getD_none]

theorem skipKeyword_optional {given : Bool} (letters : w.toList.all isNameChar = true)
    (avoids : Avoids [w] s) (ink : ∀ c ∈ s.head?, isBlank c = false) :
    skipKeyword w (optional given w ++ s) = s := by
  cases given with
  | false => exact avoids.skipKeyword List.mem_cons_self letters
  | true =>
    simp only [optional, if_true, List.append_assoc, List.singleton_append]
    rw [Declaration.skipKeyword, afterKeyword?_append w ink, Option.getD_some]

theorem Avoids.afterOneOf? (avoids : Avoids words s)
    (letters : ∀ w ∈ words, w.toList.all isNameChar = true) : afterOneOf? words s = none := by
  rw [Declaration.afterOneOf?, List.findSome?_eq_none_iff]
  exact fun w member => avoids.afterKeyword? member (letters w member)

theorem afterOneOf?_append (member : w ∈ words)
    (letters : ∀ w ∈ words, w.toList.all isNameChar = true)
    (ink : ∀ c ∈ rest.head?, isBlank c = false) :
    afterOneOf? words (w.toList ++ ' ' :: rest) = some rest := by
  induction words with
  | nil => simp at member
  | cons first more ih =>
    have own : w.toList.all isNameChar = true := letters w member
    rw [Declaration.afterOneOf?, List.findSome?_cons]
    by_cases same : first = w
    · rw [same, afterKeyword?_append w ink]
    · have avoids : Avoids [first] (w.toList ++ ' ' :: rest) :=
        avoids_word own (stops_cons (by decide) rest) (by simpa using Ne.symm same)
      have later : w ∈ more := (List.mem_cons.1 member).resolve_left (Ne.symm same)
      rw [avoids.afterKeyword? List.mem_cons_self (letters first List.mem_cons_self)]
      exact ih later fun v inside => letters v (List.mem_cons_of_mem _ inside)

theorem takeWhile_isWord (name : Ident) (stop : ∀ c ∈ rest.head?, isWord c = false) :
    (name.chars ++ rest).takeWhile isWord = name.chars :=
  takeWhile_append_stop (fun _ => Ident.isWord_of_mem) stop

theorem word?_name (name : Ident) (stop : ∀ c ∈ rest.head?, isWord c = false) :
    word? (name.chars ++ rest) = some name.chars := by
  obtain ⟨c, more, shape⟩ := List.exists_cons_of_ne_nil name.present
  rw [word?, takeWhile_isWord name stop, shape]

theorem unmarked (name : Ident) (plain : rest.head? ≠ some '#') (more : Line) :
    name.chars ++ rest ≠ 'r' :: '#' :: more := by
  obtain ⟨c, letters, shape⟩ := List.exists_cons_of_ne_nil name.present
  intro same
  rw [shape, List.cons_append] at same
  obtain ⟨-, tail⟩ := List.cons.inj same
  cases letters with
  | nil => simp [show rest = '#' :: more from tail] at plain
  | cons d letters =>
    have hash : isNameChar d = true := List.all_eq_true.1 name.ascii d (by simp [shape])
    rw [(List.cons.inj tail).1] at hash
    exact absurd hash (by decide)

theorem name?_text (name : Ident) (stop : ∀ c ∈ rest.head?, isWord c = false)
    (plain : rest.head? ≠ some '#') : name? (name.text ++ rest) = some name.chars := by
  have word := word?_name name stop
  rw [Ident.text]
  split
  · rw [List.cons_append, List.cons_append, name?, word]
    rfl
  · rw [name?.eq_def]
    split
    · rename_i marked more same
      exact absurd same (unmarked name plain more)
    · exact word

theorem Avoids.afterVisibility? (avoids : Avoids ["pub"] s) : afterVisibility? s = none := by
  rw [Declaration.afterVisibility?]
  rcases afterWord?_cases "pub" s with none | ⟨rest, whole, found⟩
  · rw [none]
    rfl
  · obtain ⟨c, more, same, ink, other, -⟩ :=
      avoids.exists_behind List.mem_cons_self (by decide) (whole ▸ List.prefix_append _ _)
    obtain rfl := List.append_cancel_left (whole.symm.trans same)
    have open? : afterBracketed? '(' ')' (c :: more) = none := by rw [afterBracketed?, if_neg other]
    rw [found]
    simp only [Option.bind_eq_bind, Option.bind_some, open?, Option.getD_none]
    exact afterBlanks?_eq_none (stops_cons ink more)

theorem afterBracketed?_append {opening closing : Char} {inside : Line} (clean : closing ∉ inside)
    (rest : Line) :
    afterBracketed? opening closing (opening :: (inside ++ closing :: rest)) = some rest := by
  have other : ∀ c ∈ inside, (c != closing) = true := fun c member =>
    bne_iff_ne.2 fun same : c = closing => clean (same ▸ member)
  have gone : (inside ++ closing :: rest).dropWhile (· != closing) = closing :: rest :=
    dropWhile_append_stop other (by simp)
  simp only [afterBracketed?, if_true, gone]

theorem afterVisibility?_text {v : Visibility} (given : v ≠ .inherited)
    (ink : ∀ c ∈ s.head?, isBlank c = false) : afterVisibility? (v.text ++ s) = some s := by
  cases v with
  | inherited => exact absurd rfl given
  | everywhere =>
    have found : afterWord? "pub" (Visibility.text .everywhere ++ s) = some (' ' :: s) :=
      afterWord?_append "pub" (' ' :: s)
    rw [Declaration.afterVisibility?, found]
    exact afterBlanks?_space ink
  | within scope plain =>
    have whole : Visibility.text (.within scope plain) ++ s =
        "pub".toList ++ '(' :: (scope ++ ')' :: ' ' :: s) := by
      simp [Visibility.text]
    have clean : ')' ∉ scope := fun member =>
      absurd (List.all_eq_true.1 plain _ member) (by decide)
    rw [whole, Declaration.afterVisibility?, afterWord?_append]
    simp only [Option.bind_eq_bind, Option.bind_some, afterBracketed?_append clean, Option.getD_some]
    exact afterBlanks?_space ink

end Declaration

end ProtoModules.Source
