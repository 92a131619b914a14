import Mathlib.Computability.Language
import ProtoModules.Proofs.Text.Replace
import ProtoModules.Text.Literal

/-! String literals. A literal is a quote, then escapes and characters that are neither quotes nor
backslashes, then a quote. There is one way to empty the literals of a text from left to right, and
the search for the ends of literals finds it. -/

namespace ProtoModules.Text
open scoped Computability

/-- A backslash with the character it escapes, or a character for itself. -/
def literalPiece : Language Char :=
  {piece | (∃ c, c ≠ '\n' ∧ piece = ['\\', c]) ∨ ∃ c, c ≠ '"' ∧ c ≠ '\\' ∧ piece = [c]}

def stringLiteral : Language Char := {['"']} * literalPiece∗ * {['"']}

/-- The second text is the first one with an empty literal in place of each literal. Where a literal
begins it is taken whole, and the next one is looked for behind it. -/
inductive Emptied : List Char → List Char → Prop where
  | done : Emptied [] []
  | literal {quoted rest emptied : List Char} (whole : quoted ∈ stringLiteral)
      (more : Emptied rest emptied) : Emptied (quoted ++ rest) ('"' :: '"' :: emptied)
  | plain {c : Char} {rest emptied : List Char}
      (outside : ∀ quoted ∈ stringLiteral, ¬ quoted <+: c :: rest)
      (more : Emptied rest emptied) : Emptied (c :: rest) (c :: emptied)

theorem literalLength?_cons {c : Char} (plain : c ≠ '\\') (rest : List Char) :
    literalLength? (c :: rest) =
      if c = '"' then some 1 else (literalLength? rest).map (· + 1) := by
  cases rest with
  | nil => simp [literalLength?, plain]
  | cons d more => simp [literalLength?, plain]

theorem piece_append_mem {piece body : List Char} (first : piece ∈ literalPiece)
    (more : body ∈ literalPiece∗) : piece ++ body ∈ literalPiece∗ :=
  Set.mem_of_mem_of_subset (Language.append_mem_mul first more)
    (mul_kstar_le_kstar (a := literalPiece))

theorem quoted_mem_stringLiteral {body : List Char} (inside : body ∈ literalPiece∗) :
    '"' :: (body ++ ['"']) ∈ stringLiteral :=
  Language.append_mem_mul (Language.append_mem_mul (Set.mem_singleton ['"']) inside)
    (Set.mem_singleton ['"'])

theorem exists_of_mem_stringLiteral {quoted : List Char} (whole : quoted ∈ stringLiteral) :
    ∃ body ∈ literalPiece∗, quoted = '"' :: (body ++ ['"']) := by
  obtain ⟨_, ⟨_, rfl, body, inside, rfl⟩, _, rfl, rfl⟩ := whole
  exact ⟨body, inside, rfl⟩

theorem literalLength?_of_body {body : List Char} (inside : body ∈ literalPiece∗)
    (rest : List Char) : literalLength? (body ++ '"' :: rest) = some (body.length + 1) := by
  obtain ⟨pieces, rfl, each⟩ := Language.mem_kstar.1 inside
  clear inside
  induction pieces with
  | nil => exact literalLength?_cons (by decide) rest
  | cons piece pieces ih =>
    have behind := ih fun later member => each later (List.mem_cons_of_mem _ member)
    rw [List.flatten_cons, List.append_assoc]
    rcases each piece List.mem_cons_self with ⟨c, inLine, rfl⟩ | ⟨c, quote, escape, rfl⟩
    · simp only [List.cons_append, List.nil_append]
      rw [literalLength?, if_neg inLine, behind]
      rfl
    · simp only [List.cons_append, List.nil_append]
      rw [literalLength?_cons escape, if_neg quote, behind]
      rfl

theorem exists_of_literalLength? {s : List Char} {n : Nat} (ends : literalLength? s = some n) :
    ∃ body ∈ literalPiece∗, body ++ ['"'] <+: s := by
  fun_induction literalLength? s generalizing n with
  | case1 => cases ends
  | case2 => cases ends
  | case3 rest => cases ends
  | case4 c rest inLine ih =>
    obtain ⟨m, later, -⟩ := Option.map_eq_some_iff.1 ends
    obtain ⟨body, inside, begins⟩ := ih later
    exact ⟨'\\' :: c :: body, piece_append_mem (.inl ⟨c, inLine, rfl⟩) inside, by
      simpa using begins⟩
  | case5 rest => exact ⟨[], Language.nil_mem_kstar _, by simp⟩
  | case6 c rest lone escape quote ih =>
    obtain ⟨m, later, -⟩ := Option.map_eq_some_iff.1 ends
    obtain ⟨body, inside, begins⟩ := ih later
    have unescaped : c ≠ '\\' := by
      rintro rfl
      cases rest with
      | nil => exact lone rfl rfl
      | cons d more => exact escape d more rfl rfl
    exact ⟨c :: body, piece_append_mem (.inr ⟨c, quote, unescaped, rfl⟩) inside, by
      simpa using begins⟩

theorem blankLiterals_cons {c : Char} (plain : c ≠ '"') (rest : List Char) :
    blankLiterals (c :: rest) = c :: blankLiterals rest := by
  simp [blankLiterals, replaceAll, replaceFrom, literal?, plain]

theorem blankLiterals_quote (rest : List Char) :
    blankLiterals ('"' :: rest) = match literalLength? rest with
      | some n => '"' :: '"' :: blankLiterals (rest.drop n)
      | none => '"' :: blankLiterals rest := by
  rw [blankLiterals, replaceAll, replaceFrom, literal?]
  cases literalLength? rest with
  | none => rfl
  | some n =>
    simp only [Option.map_some, List.cons_append, List.nil_append]
    rw [replaceFrom_drop]
    rfl

theorem blankLiterals_literal {quoted : List Char} (whole : quoted ∈ stringLiteral)
    (rest : List Char) : blankLiterals (quoted ++ rest) = '"' :: '"' :: blankLiterals rest := by
  obtain ⟨body, inside, rfl⟩ := exists_of_mem_stringLiteral whole
  have behind : (body ++ '"' :: rest).drop (body.length + 1) = rest := by
    rw [List.drop_append]
    simp
  simp only [List.cons_append, List.append_assoc, List.nil_append]
  rw [blankLiterals_quote, literalLength?_of_body inside]
  simp only [behind]

theorem blankLiterals_plain {c : Char} {rest : List Char}
    (outside : ∀ quoted ∈ stringLiteral, ¬ quoted <+: c :: rest) :
    blankLiterals (c :: rest) = c :: blankLiterals rest := by
  by_cases quote : c = '"'
  · subst quote
    rw [blankLiterals_quote]
    cases ends : literalLength? rest with
    | none => rfl
    | some n =>
      obtain ⟨body, inside, begins⟩ := exists_of_literalLength? ends
      exact absurd ((List.prefix_cons_inj _).2 begins)
        (outside _ (quoted_mem_stringLiteral inside))
  · exact blankLiterals_cons quote rest

theorem Emptied.eq_blankLiterals {s emptied : List Char} (replaced : Emptied s emptied) :
    emptied = blankLiterals s := by
  induction replaced with
  | done => rfl
  | literal whole _ ih => rw [blankLiterals_literal whole, ih]
  | plain outside _ ih => rw [blankLiterals_plain outside, ih]

theorem emptied_blankLiterals (s : List Char) : Emptied s (blankLiterals s) := by
  -- a literal is taken whole, so the induction is on the length
  induction size : s.length using Nat.strongRecOn generalizing s with
  | ind n ih =>
    cases s with
    | nil => exact .done
    | cons c rest =>
      by_cases begins : ∃ quoted ∈ stringLiteral, quoted <+: c :: rest
      · obtain ⟨quoted, whole, behind, split⟩ := begins
        rw [← split, blankLiterals_literal whole]
        refine .literal whole (ih _ ?_ behind rfl)
        obtain ⟨body, -, rfl⟩ := exists_of_mem_stringLiteral whole
        rw [← size, ← split, List.length_append, List.length_cons]
        omega
      · push Not at begins
        rw [blankLiterals_plain begins]
        refine .plain begins (ih _ ?_ rest rfl)
        simp [← size]

theorem emptied_iff {s emptied : List Char} : Emptied s emptied ↔ emptied = blankLiterals s := by
  constructor
  · exact Emptied.eq_blankLiterals
  · rintro rfl
    exact emptied_blankLiterals s

end ProtoModules.Text
