import ProtoModules.Comment.Program
import ProtoModules.Proofs.Text.Lines
import ProtoModules.Proofs.Text.Literal
import ProtoModules.Text.Blank

/-! Indenting a program. Whether code looks like a complete program does not depend on spaces at the
beginning of its lines: no literal ends elsewhere for them, they are no brackets, and nothing that
is looked for has a line break in it or begins with a space. -/

namespace ProtoModules.Comment
open Text

def shiftLine (n : Nat) (line : Line) : Line :=
  if allBlank line then line else List.replicate n ' ' ++ line

/-- The second text is the first one with spaces put in at the beginning of lines; `fresh` says whether
a line begins with the texts. -/
inductive Spaced : (fresh : Bool) → List Char → List Char → Prop where
  | done {fresh : Bool} : Spaced fresh [] []
  | space {s t : List Char} (more : Spaced true s t) : Spaced true s (' ' :: t)
  | same {fresh : Bool} {s t : List Char} (c : Char) (more : Spaced (c == '\n') s t) :
      Spaced fresh (c :: s) (c :: t)

variable {fresh : Bool} {s t : List Char}

theorem rel_map {R S : Nat → Nat → Prop} {a b : Option Nat} (rel : Option.Rel R a b)
    {f g : Nat → Nat} (moved : ∀ k m, R k m → S (f k) (g m)) :
    Option.Rel S (a.map f) (b.map g) := by
  cases rel with
  | none => exact .none
  | some here => exact .some (moved _ _ here)

theorem rel_literalLength? {fresh : Bool} {s t : List Char} (spaced : Spaced fresh s t) :
    Option.Rel (fun k m => Spaced false (s.drop k) (t.drop m)) (literalLength? s)
      (literalLength? t) := by
  match spaced with
  | .done => exact .none
  | .space (s := s) (t := t) more =>
    have moved := rel_map (f := id) (g := (· + 1)) (rel_literalLength? more)
      (S := fun k m => Spaced false (s.drop k) ((' ' :: t).drop m)) fun _ _ here => here
    rw [literalLength?_cons (by decide), if_neg (by decide)]
    rwa [Option.map_id] at moved
  | .same (s := s) (t := t) c more =>
    by_cases escape : c = '\\'
    · subst escape
      match more with
      | .done => exact .none
      | .same e later =>
        rw [literalLength?, literalLength?]
        split
        · exact .none
        · exact rel_map (rel_literalLength? later) fun _ _ here => here
    · rw [literalLength?_cons escape, literalLength?_cons escape]
      split
      · rename_i quote
        subst quote
        exact .some more
      · exact rel_map (rel_literalLength? more) fun _ _ here => here

theorem balancesAfter_cons {c : Char} {code other : List Char}
    (same : ∀ pending, balancesAfter pending code = balancesAfter pending other)
    (pending : List Char) : balancesAfter pending (c :: code) = balancesAfter pending (c :: other) := by
  by_cases opens : isOpener c = true
  · simp [balancesAfter, opens, same]
  · cases closes : openerOf? c with
    | none => simp [balancesAfter, opens, closes, same]
    | some o => cases pending <;> simp [balancesAfter, opens, closes, same]

theorem balancesAfter_plain {c : Char} (opens : isOpener c = false) (closes : openerOf? c = none)
    (pending code : List Char) : balancesAfter pending (c :: code) = balancesAfter pending code := by
  simp [balancesAfter, opens, closes]

theorem balancesAfter_of_spaced {fresh : Bool} {s t : List Char} (spaced : Spaced fresh s t)
    (pending : List Char) :
    balancesAfter pending (blankLiterals s) = balancesAfter pending (blankLiterals t) := by
  match spaced with
  | .done => rfl
  | .space more =>
    rw [blankLiterals_cons (by decide), balancesAfter_plain rfl rfl]
    exact balancesAfter_of_spaced more pending
  | .same (s := s) (t := t) c more =>
    by_cases quote : c = '"'
    · subst quote
      rw [blankLiterals_quote, blankLiterals_quote]
      have ends := rel_literalLength? more
      cases first : literalLength? s <;> cases second : literalLength? t
      all_goals rw [first, second] at ends
      · exact balancesAfter_cons (balancesAfter_of_spaced more) pending
      · cases ends
      · cases ends
      · rename_i k m
        cases ends with
        | some here =>
          exact balancesAfter_cons (balancesAfter_cons (balancesAfter_of_spaced here)) pending
    · rw [blankLiterals_cons quote, blankLiterals_cons quote]
      exact balancesAfter_cons (balancesAfter_of_spaced more) pending
termination_by s.length + t.length
decreasing_by
  all_goals simp only [List.length_cons, List.length_drop]
  all_goals omega

theorem Spaced.replicate (n : Nat) (spaced : Spaced true s t) :
    Spaced true s (List.replicate n ' ' ++ t) := by
  induction n with
  | zero => exact spaced
  | succ n ih => exact .space ih

theorem Spaced.append_line (line : Line) {more later : List Char} (spaced : Spaced true more later)
    (fresh : Bool) : Spaced fresh (line ++ '\n' :: more) (line ++ '\n' :: later) := by
  induction line generalizing fresh with
  | nil => exact .same '\n' spaced
  | cons c rest ih => exact .same c (ih _)

theorem spaced_self (fresh : Bool) (s : List Char) : Spaced fresh s s := by
  induction s generalizing fresh with
  | nil => exact .done
  | cons c rest ih => exact .same c (ih _)

theorem spaced_shiftLine (n : Nat) {line behind later : List Char}
    (spaced : Spaced true (line ++ behind) (line ++ later)) :
    Spaced true (line ++ behind) (shiftLine n line ++ later) := by
  rw [shiftLine]
  split
  · exact spaced
  · rw [List.append_assoc]
    exact spaced.replicate n

theorem spaced_unlines (n : Nat) (ls : List Line) :
    Spaced true (unlines ls) (unlines (ls.map (shiftLine n))) := by
  induction ls with
  | nil => exact .done
  | cons line rest ih =>
    cases rest with
    | nil =>
      have whole := spaced_shiftLine n (spaced_self true (line ++ []))
      simpa [unlines, joinWith] using whole
    | cons next more => exact spaced_shiftLine n (ih.append_line line true)

theorem infix_shiftLine_iff {word : List Char} (present : word ≠ []) (ink : word.head? ≠ some ' ')
    (n : Nat) (line : Line) : word <:+: shiftLine n line ↔ word <:+: line := by
  rw [shiftLine]
  split
  · rfl
  · induction n with
    | zero => simp
    | succ n ih =>
      rw [List.replicate_succ, List.cons_append, List.infix_cons_iff, ih]
      refine or_iff_right fun begins => ?_
      obtain ⟨c, more, rfl⟩ := List.exists_cons_of_ne_nil present
      simp [(List.cons_prefix_cons.1 begins).1] at ink

theorem holds_shift {word : List Char} (present : word ≠ []) (whole : '\n' ∉ word)
    (ink : word.head? ≠ some ' ') (n : Nat) (body : List Line) :
    holds word (unlines (body.map (shiftLine n))) = holds word (unlines body) := by
  rw [Bool.eq_iff_iff, holds_iff, holds_iff, infix_unlines_iff present whole,
    infix_unlines_iff present whole]
  simp [infix_shiftLine_iff present ink]

theorem looksRunnable_shift (n : Nat) (body : List Line) :
    looksRunnable (body.map (shiftLine n)) = looksRunnable body := by
  have main : holds "fn main".toList (unlines (body.map (shiftLine n))) = _ :=
    holds_shift (by decide) (by decide) (by decide) n body
  have dots : holds "...".toList (unlines (body.map (shiftLine n))) = _ :=
    holds_shift (by decide) (by decide) (by decide) n body
  have brackets := balancesAfter_of_spaced (spaced_unlines n body) []
  rw [looksRunnable, looksRunnable, main, dots, bracketsBalance, bracketsBalance, brackets]

end ProtoModules.Comment
