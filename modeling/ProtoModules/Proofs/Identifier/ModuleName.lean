import ProtoModules.Proofs.Identifier.Stem

/-! The names of modules. Whatever is left of a segment when its accents are dropped, what it is called is
a name that Rust accepts for a module: an identifier that is no reserved word, or the raw form of a
reserved word that has one. -/

namespace ProtoModules.Identifier
open Text

inductive IsModuleName : List Char → Prop where
  | raw {k : List Char} (reserved : k ∈ keywords) (rawable : k ∉ unrawable) :
      IsModuleName (rawMark ++ k)
  | plain {w : List Char} (legal : IsIdentifier w) (free : w ∉ keywords) : IsModuleName w

theorem isIdentifier_append_underscore {w : List Char} (legal : IsIdentifier w) :
    IsIdentifier (w ++ ['_']) where
  toIsStem := isStem_append_underscore legal.toIsStem
  begins := by
    obtain ⟨c, first, start⟩ := legal.begins
    exact ⟨c, by rw [List.head?_append, Option.mem_def.1 first, Option.some_or]; rfl, start⟩
  named same := legal.present (by simpa using same)

theorem append_underscore_notMem_keywords (w : List Char) : w ++ ['_'] ∉ keywords := by
  have none : ∀ k ∈ keywords, k.getLast? ≠ some '_' := by decide
  exact fun reserved => none _ reserved List.getLast?_concat

theorem isModuleName_escapeKeyword {w : List Char} (legal : IsIdentifier w) :
    IsModuleName (escapeKeyword w) := by
  rw [escapeKeyword]
  split
  · exact .plain (isIdentifier_append_underscore legal) (append_underscore_notMem_keywords w)
  · rename_i rawable
    split
    · rename_i reserved
      exact .raw (by simpa using reserved) (by simpa using rawable)
    · rename_i free
      exact .plain legal (by simpa using free)

theorem isModuleName_named (plain : List Char) :
    IsModuleName (escapeKeyword (legalize (snakeCase plain))) :=
  isModuleName_escapeKeyword (isIdentifier_legalize fun _ => isStemChar_of_mem_snakeCase)

/-- Every segment has a module name that Rust accepts and a file to go with it, and two segments share the
name exactly if they share the file. -/
theorem isModuleName_ofSegment (segment other : List Char) :
    IsModuleName (ofSegment segment) ∧ IsStem (fileStem (ofSegment segment)) ∧
      (ofSegment segment = ofSegment other ↔
        fileStem (ofSegment segment) = fileStem (ofSegment other)) := by
  refine ⟨isModuleName_named (withoutMarks segment), ?_, ?_⟩
  · have spelled := isStem_stem segment
    rwa [stem] at spelled
  · rw [ofSegment_eq_iff, stem, stem]

end ProtoModules.Identifier
