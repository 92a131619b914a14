import ProtoModules.Proofs.Source.Rewrite

/-! Sanitizing a unit more than once. A run that has been rewritten stays as it is, and the declarations
of the runs that are left do not change, so a second pass leaves out what its own patterns disable
and does nothing else. -/

namespace ProtoModules.Source
open Text Comment

variable {first second both : List (List Char)} {package : List Line}

theorem rewrittenRun_rewrittenRun (run : List Line) :
    rewrittenRun (rewrittenRun run) = rewrittenRun run := by
  have settled : Comment.sanitize (docText (rewrittenRun run)) = docText (rewrittenRun run) := by
    rw [docText_rewrittenRun, sanitize_idempotent]
  rw [rewrittenRun, if_pos settled]

theorem disables_union (first second : List (List Char)) (declaration : List Char) :
    Pattern.disables (first ∪ second) declaration =
      (Pattern.disables first declaration || Pattern.disables second declaration) := by
  rw [Bool.eq_iff_iff, Bool.or_eq_true]
  simp only [Pattern.disables, List.any_eq_true, List.mem_union_iff, or_and_right, exists_or]

theorem rewritten_rewritten
    (either : ∀ declaration, Pattern.disables both declaration =
      (Pattern.disables first declaration || Pattern.disables second declaration))
    (scan : Scan) (ps : List Piece) :
    rewritten second package scan (rewritten first package scan ps) =
      rewritten both package scan ps := by
  induction ps generalizing scan with
  | nil => rfl
  | cons p rest ih =>
    cases p with
    | code line => rw [rewritten, rewritten, rewritten, ih]
    | doc run =>
      rw [rewritten, rewritten, either]
      cases gone : Pattern.disables first (scan.declarationBelow package rest) with
      | true => simpa using ih scan
      | false =>
        -- the declaration is the same one in the second pass
        simp only [Bool.false_eq_true, if_false, Bool.false_or]
        rw [rewritten, declarationBelow_rewritten, ih, rewrittenRun_rewrittenRun]

namespace GeneratedUnit

variable {u : GeneratedUnit}

theorem sanitize_sanitize_of_either (own : u.comments = docComments package u.source)
    (either : ∀ declaration, Pattern.disables both declaration =
      (Pattern.disables first declaration || Pattern.disables second declaration)) :
    (u.sanitize first).sanitize second = u.sanitize both := by
  have cut := Piece.cut_ofLines (Text.lines u.source)
  have clean := newline_notMem_ofLines u.source
  rw [sanitize_extracted own first, sanitize_extracted own both,
    sanitize_pieces (cut_rewritten cut clean {}) (newline_notMem_rewritten cut clean {}) rfl rfl,
    rewritten_rewritten either]

/-- Sanitizing with two sets of patterns, one after the other, is sanitizing with all of them at once, and
doing it again changes nothing. -/
theorem sanitize_union (own : u.comments = docComments package u.source)
    (first second : List (List Char)) :
    (u.sanitize first).sanitize second = u.sanitize (first ∪ second) ∧
      (u.sanitize first).sanitize first = u.sanitize first :=
  ⟨sanitize_sanitize_of_either own (disables_union first second),
    sanitize_sanitize_of_either own fun _ => (Bool.or_self _).symm⟩

def annotated : GeneratedUnit :=
  ofSource ["p".toList]
    "/// a\n  /// b\n#[x]\n/// c\nstruct A \x7b\n  /// \x60\x60\x60\n  /// d\n  f: u8,\n\x7d\n/// e".toList
    "p.rs"

theorem sanitize_union_annotated :
    annotated.comments = docComments annotated.package annotated.source ∧
    (annotated.sanitize ["p".toList]).sanitize [".p.A.f".toList] =
      annotated.sanitize (["p".toList] ∪ [".p.A.f".toList]) ∧
    (annotated.sanitize ["p".toList]).sanitize ["p".toList] = annotated.sanitize ["p".toList] :=
  ⟨rfl, sanitize_union rfl ["p".toList] [".p.A.f".toList]⟩

example : (annotated.sanitize ["p".toList]).comments.map (fun c => (c.start, c.stop)) =
    [(0, 2), (3, 4), (5, 8)] := by
  decide +kernel

end GeneratedUnit

end ProtoModules.Source
