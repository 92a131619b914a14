import ProtoModules.Text.Replace

/-! Replacements that are local. Where a pattern only ever looks for places that are told by the
characters on both sides, replacing from left to right comes to rewriting character by character. -/

namespace ProtoModules.Text

theorem replaceFrom_drop (find : List Char → Option Found) (skip : Nat) (s : List Char) :
    replaceFrom find skip s = replaceFrom find 0 (s.drop skip) := by
  induction skip generalizing s with
  | zero => rfl
  | succ skip ih =>
    cases s with
    | nil => simp [replaceFrom]
    | cons c rest => rw [replaceFrom, ih, List.drop_succ_cons]

theorem forall_mem_replaceFrom {find : List Char → Option Found} {P : Char → Prop}
    (hit : ∀ s found, find s = some found → ∀ c ∈ found.replacement, P c)
    (miss : ∀ c rest, find (c :: rest) = none → P c) (skip : Nat) (s : List Char) :
    ∀ c ∈ replaceFrom find skip s, P c := by
  induction s generalizing skip with
  | nil => simp [replaceFrom]
  | cons c rest ih =>
    cases skip with
    | succ skip => exact ih skip
    | zero =>
      intro d member
      rw [replaceFrom] at member
      split at member
      · rename_i found here
        rcases List.mem_append.1 member with own | later
        · exact hit _ found here d own
        · exact ih _ d later
      · rename_i none
        rcases List.mem_cons.1 member with rfl | later
        · exact miss _ rest none
        · exact ih 0 d later

theorem replaceAll_of_miss {find : List Char → Option Found} {c : Char} {rest : List Char}
    (here : find (c :: rest) = none) :
    replaceAll find (c :: rest) = c :: replaceAll find rest := by
  simp only [replaceAll, replaceFrom, here]

theorem replaceAll_of_hit {find : List Char → Option Found} {c : Char} {rest : List Char}
    {found : Found} (here : find (c :: rest) = some found) :
    replaceAll find (c :: rest) =
      found.replacement ++ replaceAll find (rest.drop found.more) := by
  simp only [replaceAll, replaceFrom, here]
  rw [replaceFrom_drop]

/-- What a character becomes, told the ones before it and behind it. -/
abbrev Rule := Option Char → Char → Option Char → List Char

def rewriteBy (rule : Rule) (before : Option Char) : List Char → List Char
  | [] => []
  | c :: rest => rule before c rest.head? ++ rewriteBy rule (some c) rest

/-- A pattern replaces what a rule rewrites, wherever the search is at a place that is `ready`: what it
passes over the rule keeps, and what it takes the rule turns into the replacement. -/
structure Follows (find : List Char → Option Found) (rule : Rule)
    (ready : Option Char → List Char → Prop) : Prop where
  miss {before : Option Char} {c : Char} {rest : List Char} : ready before (c :: rest) →
    find (c :: rest) = none → rule before c rest.head? = [c] ∧ ready (some c) rest
  hit {before : Option Char} {c : Char} {rest : List Char} {found : Found} :
    ready before (c :: rest) → find (c :: rest) = some found →
    ∃ last, ready (some last) (rest.drop found.more) ∧ rewriteBy rule before (c :: rest) =
      found.replacement ++ rewriteBy rule (some last) (rest.drop found.more)

theorem Follows.replaceAll_eq {find : List Char → Option Found} {rule : Rule}
    {ready : Option Char → List Char → Prop} (follows : Follows find rule ready)
    {before : Option Char} {s : List Char} (start : ready before s) :
    replaceAll find s = rewriteBy rule before s := by
  -- the search goes on behind what it took, so the induction is on the length
  induction size : s.length using Nat.strongRecOn generalizing s before with
  | ind n ih =>
    cases s with
    | nil => rfl
    | cons c rest =>
      cases here : find (c :: rest) with
      | none =>
        obtain ⟨kept, ready⟩ := follows.miss start here
        have shorter : rest.length < n := by simp [← size]
        rw [replaceAll_of_miss here, rewriteBy, kept, ih _ shorter ready rfl, List.singleton_append]
      | some found =>
        obtain ⟨last, ready, whole⟩ := follows.hit start here
        have shorter : (rest.drop found.more).length < n := by
          rw [← size, List.length_drop, List.length_cons]
          omega
        rw [replaceAll_of_hit here, whole, ih _ shorter ready rfl]

end ProtoModules.Text
