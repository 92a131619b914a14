import Mathlib.Data.List.Basic
import Mathlib.Tactic.Tauto
import ProtoModules.Identifier.Segment
import ProtoModules.Proofs.Text.Replace
import ProtoModules.Proofs.Text.Word

/-! What segments are spelled with. The file of a module is called by a stem: small letters, digits and
underscores, at least one of them. Whatever characters a segment has, its identifier is a stem or
the raw mark in front of one. -/

namespace ProtoModules

namespace Text

theorem decompose_of_ascii {c : Char} (ascii : c.toNat < 0x80) : decompose c = [c] := by
  simp [decompose, ascii]

theorem isMark_of_ascii {c : Char} (ascii : c.toNat < 0x80) : isMark c = false := by
  have low : ¬ 0x80 ≤ c.toNat := by omega
  simp [isMark, low]

theorem withoutMarks_of_ascii {s : List Char} (ascii : ∀ c ∈ s, c.toNat < 0x80) :
    withoutMarks s = s := by
  have same : s.flatMap decompose = s := by
    rw [List.flatMap_congr fun c member => decompose_of_ascii (ascii c member),
      List.flatMap_singleton']
  rw [withoutMarks, same, List.filter_eq_self]
  intro c member
  rw [isMark_of_ascii (ascii c member)]
  rfl

end Text

namespace Identifier
open Text

def isStemChar (c : Char) : Bool := isLower c || isDigit c || c == '_'

structure IsStem (w : List Char) : Prop where
  present : w ≠ []
  spelled : ∀ c ∈ w, isStemChar c = true

theorem isStemChar_iff {c : Char} : isStemChar c = true ↔
    (0x61 ≤ c.toNat ∧ c.toNat ≤ 0x7a) ∨ (0x30 ≤ c.toNat ∧ c.toNat ≤ 0x39) ∨ c = '_' := by
  simp [isStemChar, isLower, isDigit, or_assoc]

theorem ascii_of_isStemChar {c : Char} (spelled : isStemChar c = true) : c.toNat < 0x80 := by
  rcases isStemChar_iff.1 spelled with small | digit | rfl
  · omega
  · omega
  · decide

theorem isStemChar_toLower {c : Char} (word : isAlnum c = true ∨ c = '_') :
    isStemChar (toLower c) = true := by
  rcases word with word | rfl
  · rcases isLower_or_isDigit_toLower word with small | digit
    · simp [isStemChar, small]
    · simp [isStemChar, digit]
  · decide

theorem mem_of_mem_trimUnderscores {s : List Char} {c : Char} (member : c ∈ trimUnderscores s) :
    c ∈ s := by
  have inner := (List.dropWhile_sublist _).subset (List.mem_reverse.1 member)
  exact (List.dropWhile_sublist _).subset (List.mem_reverse.1 inner)

theorem word_of_mem_separated {s : List Char} {c : Char} (member : c ∈ replaceAll separatorRun? s) :
    isAlnum c = true ∨ c = '_' := by
  refine forall_mem_replaceFrom (P := fun c => isAlnum c = true ∨ c = '_')
    (fun s found here d own => ?_) (fun d rest none => ?_) 0 s c member
  · rw [separatorRun?] at here
    split at here
    · cases here
    · obtain rfl := Option.some.inj here
      exact .inr (List.mem_singleton.1 own)
  · rw [separatorRun?] at none
    split at none
    · rename_i run
      by_cases word : isAlnum d = true
      · exact .inl word
      · simp [word] at run
    · cases none

theorem isStemChar_of_mem_snakeCase {s : List Char} {c : Char} (member : c ∈ snakeCase s) :
    isStemChar c = true := by
  obtain ⟨d, cut, rfl⟩ := List.mem_map.1 member
  exact isStemChar_toLower (word_of_mem_separated (mem_of_mem_trimUnderscores cut))

structure IsIdentifier (w : List Char) : Prop extends IsStem w where
  begins : ∃ c ∈ w.head?, isLower c = true ∨ c = '_'
  named : w ≠ ['_']

theorem isIdentifier_unnamed : IsIdentifier unnamed where
  present := by decide
  spelled := List.all_eq_true.1 (by decide : unnamed.all isStemChar = true)
  begins := ⟨'_', by decide, .inr rfl⟩
  named := by decide

theorem legal_of_spelled {s : List Char} (spelled : ∀ c ∈ s, isStemChar c = true) :
    (withoutMarks s).map (fun c => if isAlnum c || c == '_' then c else '_') = s := by
  have kept : ∀ c ∈ s, (if isAlnum c || c == '_' then c else '_') = id c := by
    intro c member
    have word := spelled c member
    simp only [isStemChar, Bool.or_eq_true] at word
    rw [if_pos, id]
    simp only [isAlnum, Bool.or_eq_true]
    tauto
  rw [withoutMarks_of_ascii fun c member => ascii_of_isStemChar (spelled c member),
    List.map_congr_left kept, List.map_id]

theorem isIdentifier_legalize {s : List Char} (spelled : ∀ c ∈ s, isStemChar c = true) :
    IsIdentifier (legalize s) := by
  rw [legalize, legal_of_spelled spelled]
  split
  · exact isIdentifier_unnamed
  · exact isIdentifier_unnamed
  · rename_i c rest lone
    split
    · exact ⟨⟨by simp, List.forall_mem_cons.2 ⟨by decide, spelled⟩⟩, ⟨'_', rfl, .inr rfl⟩, by simp⟩
    · rename_i other
      refine ⟨⟨by simp, spelled⟩, ⟨c, rfl, ?_⟩, fun same => ?_⟩
      · have first := spelled c List.mem_cons_self
        simpa [isStemChar, other] using first
      · obtain ⟨rfl, rfl⟩ := List.cons.inj same
        exact lone rfl rfl

theorem fileStem_rawMark (w : List Char) : fileStem (rawMark ++ w) = w := rfl

theorem fileStem_of_ordinary {name : List Char} (ordinary : ¬ rawMark <+: name) :
    fileStem name = name := by
  rw [fileStem.eq_def]
  split
  · rename_i rest
    exact absurd (List.prefix_append rawMark rest) ordinary
  · rfl

theorem fileStem_of_isStem {w : List Char} (stem : IsStem w) : fileStem w = w := by
  refine fileStem_of_ordinary fun mark => ?_
  have marked := stem.spelled '#' (mark.subset (by decide))
  simp [isStemChar, isLower, isDigit] at marked

theorem isStem_append_underscore {w : List Char} (stem : IsStem w) : IsStem (w ++ ['_']) := by
  refine ⟨by simp, fun c member => ?_⟩
  rcases List.mem_append.1 member with own | last
  · exact stem.spelled c own
  · rw [List.mem_singleton.1 last]
    decide

theorem escapeKeyword_of_isStem {w : List Char} (stem : IsStem w) :
    IsStem (escapeKeyword w) ∨ escapeKeyword w = rawMark ++ w := by
  rw [escapeKeyword]
  split
  · exact .inl (isStem_append_underscore stem)
  · split
    · exact .inr rfl
    · exact .inl stem

/-- The name of the file, without its ending, for the module of a segment. -/
@[irreducible] def stem (segment : List Char) : List Char := fileStem (ofSegment segment)

theorem ofSegment_eq (segment : List Char) :
    IsStem (stem segment) ∧
      (ofSegment segment = stem segment ∨ ofSegment segment = rawMark ++ stem segment) := by
  have legal : IsStem (legalize (snakeCase (withoutMarks segment))) :=
    (isIdentifier_legalize fun c member => isStemChar_of_mem_snakeCase member).toIsStem
  rcases escapeKeyword_of_isStem legal with plain | raw
  · rw [stem, ofSegment, fileStem_of_isStem plain]
    exact ⟨plain, .inl rfl⟩
  · rw [stem, ofSegment, raw, fileStem_rawMark]
    exact ⟨legal, .inr rfl⟩

theorem isStem_stem (segment : List Char) : IsStem (stem segment) := (ofSegment_eq segment).1

theorem escapeKeyword_eq {w : List Char} (stem : IsStem w) :
    escapeKeyword w =
      (if keywords.contains (fileStem (escapeKeyword w)) then rawMark else [])
        ++ fileStem (escapeKeyword w) := by
  have suffixed : ∀ k ∈ unrawable, keywords.contains (k ++ ['_']) = false := by decide
  by_cases bare : unrawable.contains w = true
  · have unreserved := suffixed w (by simpa using bare)
    rw [escapeKeyword, if_pos bare, fileStem_of_isStem (isStem_append_underscore stem), unreserved]
    rfl
  · by_cases reserved : keywords.contains w = true
    · rw [escapeKeyword, if_neg bare, if_pos reserved, fileStem_rawMark, if_pos reserved]
    · rw [escapeKeyword, if_neg bare, if_neg reserved, fileStem_of_isStem stem, if_neg reserved]
      rfl

theorem ofSegment_eq_iff {a b : List Char} : ofSegment a = ofSegment b ↔ stem a = stem b := by
  constructor
  · intro same
    rw [stem, stem, same]
  · intro same
    have whole : ∀ s, ofSegment s = (if keywords.contains (stem s) then rawMark else []) ++ stem s := by
      intro s
      rw [stem, ofSegment]
      exact escapeKeyword_eq ((isIdentifier_legalize fun c member => isStemChar_of_mem_snakeCase member).toIsStem)
    rw [whole a, whole b, same]

end Identifier

end ProtoModules
