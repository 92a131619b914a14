import Mathlib.Data.List.Basic
import Mathlib.Data.List.TakeWhile
import Mathlib.Tactic.Tauto
import ProtoModules.Identifier.Case
import ProtoModules.Proofs.Text.Replace
import ProtoModules.Proofs.Text.Trim
import ProtoModules.Proofs.Text.Word

/-! The replacements behind snake case. Each of the three is local: what it makes of a character is told
by the characters on both sides of it. One after the other they put an underscore where a word starts
and in place of every run of other characters. -/

namespace ProtoModules.Identifier
open Text

/-- A capital starts a word behind a small letter or a digit, and behind a capital if a small letter
follows it. -/
def startsWord (before : Option Char) (c : Char) (next : Option Char) : Bool :=
  isUpper c && (before.any (fun b => isLower b || isDigit b)
    || (before.any isUpper && next.any isLower))

def cutsBefore (before : Option Char) (c : Char) (next : Option Char) : Bool :=
  if isAlnum c then startsWord before c next else before.all isAlnum

def acronymRule : Rule := fun before c next =>
  if before.any isUpper && isUpper c && next.any isLower then ['_', c] else [c]

def capitalRule : Rule := fun before c _ =>
  if before.any (fun b => isLower b || isDecimal b) && isUpper c then ['_', c] else [c]

def separatorRule : Rule := fun before c _ =>
  if isAlnum c then [c] else if before.all isAlnum then ['_'] else []

theorem rewriteBy_acronym {b last next : Char} {run : List Char} (behind : isUpper b = true)
    (capitals : ∀ c ∈ run, isUpper c = true) (final : isUpper last = true)
    (small : isLower next = true) (rest : List Char) :
    rewriteBy acronymRule (some b) (run ++ last :: next :: rest) =
      run ++ '_' :: last :: next :: rewriteBy acronymRule (some next) rest := by
  have plain : isUpper next = false := not_isUpper_of_isLower small
  induction run generalizing b with
  | nil => simp [rewriteBy, acronymRule, behind, final, small, plain]
  | cons c run ih =>
    have here : isUpper c = true := capitals c List.mem_cons_self
    have more : ∀ d ∈ run, isUpper d = true := fun d member =>
      capitals d (List.mem_cons_of_mem c member)
    have ahead : (run ++ last :: next :: rest).head?.any isLower = false := by
      cases run with
      | nil => simp [not_isLower_of_isUpper final]
      | cons d run => simp [not_isLower_of_isUpper (more d List.mem_cons_self)]
    rw [List.cons_append, rewriteBy, ih here more]
    simp only [acronymRule, ahead, Bool.and_false, Bool.false_eq_true, if_false]
    rfl

theorem acronymEnd?_eq_some {s : List Char} {found : Found} (here : acronymEnd? s = some found) :
    ∃ c run last next rest, s = c :: (run ++ last :: next :: rest) ∧
      (∀ d ∈ c :: run, isUpper d = true) ∧ isUpper last = true ∧ isLower next = true ∧
      found = ⟨run.length + 2, c :: run ++ ['_', last, next]⟩ := by
  rw [acronymEnd?] at here
  split at here
  · rename_i last before next rest reversed dropped
    split at here
    · rename_i both
      simp only [Bool.and_eq_true, Bool.not_eq_true', List.isEmpty_eq_false_iff] at both
      have whole : s.takeWhile isUpper = before.reverse ++ [last] := by
        rw [← List.reverse_reverse (s.takeWhile isUpper), reversed, List.reverse_cons]
      have capitals : ∀ d ∈ before.reverse ++ [last], isUpper d = true := by
        rw [← whole]
        exact fun d member => List.mem_takeWhile_imp member
      obtain ⟨c, run, shape⟩ := List.exists_cons_of_ne_nil (by simpa using both.2 : before.reverse ≠ [])
      rw [shape] at capitals whole here
      refine ⟨c, run, last, next, rest, ?_, fun d member => capitals d (by simp at member ⊢; tauto),
        capitals last (by simp), both.1, ?_⟩
      · rw [← List.takeWhile_append_dropWhile (p := isUpper) (l := s), whole, dropped]
        simp
      · rw [← Option.some.inj here, whole]
        simp
    · cases here
  · cases here

theorem acronymEnd?_run {run rest : List Char} {last next : Char} (present : run ≠ [])
    (capitals : ∀ c ∈ run, isUpper c = true) (final : isUpper last = true)
    (small : isLower next = true) :
    acronymEnd? (run ++ last :: next :: rest) =
      some ⟨run.length + 1, run ++ ['_', last, next]⟩ := by
  have all : ∀ c ∈ run ++ [last], isUpper c = true := by
    intro c member
    rcases List.mem_append.1 member with early | late
    · exact capitals c early
    · rwa [List.mem_singleton.1 late]
  have stop : ∀ c ∈ (next :: rest).head?, isUpper c = false := by
    rintro c ⟨⟩
    exact not_isUpper_of_isLower small
  have shape : run ++ last :: next :: rest = (run ++ [last]) ++ next :: rest := by simp
  rw [acronymEnd?, shape, takeWhile_append_stop all stop, dropWhile_append_stop all stop]
  simp [small, present]

def OutsideAcronym (before : Option Char) (s : List Char) : Prop :=
  before.any isUpper = true → s.head?.any isUpper = true →
    (s.dropWhile isUpper).head?.any isLower = false

theorem outsideAcronym_of_miss {c : Char} {rest : List Char}
    (none : acronymEnd? (c :: rest) = none) : OutsideAcronym (some c) rest := by
  intro capital more
  by_contra small
  obtain ⟨next, later, dropped⟩ : ∃ next later, rest.dropWhile isUpper = next :: later := by
    refine List.exists_cons_of_ne_nil fun gone => ?_
    simp [gone] at small
  have present : rest.takeWhile isUpper ≠ [] := by
    cases rest with
    | nil => cases more
    | cons d tail => simp [show isUpper d = true from more]
  obtain ⟨init, last, ended⟩ := (List.eq_nil_or_concat' _).resolve_left present
  have capitals : ∀ d ∈ init ++ [last], isUpper d = true := by
    rw [← ended]
    exact fun d member => List.mem_takeWhile_imp member
  have whole : c :: rest = (c :: init) ++ last :: next :: later := by
    rw [← List.takeWhile_append_dropWhile (p := isUpper) (l := rest), ended, dropped]
    simp
  have run : ∀ d ∈ c :: init, isUpper d = true := by
    intro d member
    rcases List.mem_cons.1 member with rfl | inside
    · exact capital
    · exact capitals d (List.mem_append_left _ inside)
  rw [whole, acronymEnd?_run (List.cons_ne_nil c init) run (capitals last (by simp))
    (by simpa [dropped] using small)] at none
  cases none

theorem follows_acronym : Follows acronymEnd? acronymRule OutsideAcronym where
  miss {before c rest} outside none := by
    refine ⟨?_, outsideAcronym_of_miss none⟩
    rw [acronymRule]
    split
    · rename_i both
      simp only [Bool.and_eq_true] at both
      obtain ⟨⟨behind, capital⟩, small⟩ := both
      have stop : rest.dropWhile isUpper = rest := dropWhile_of_stop fun d first => by
        rw [Option.mem_def.1 first] at small
        exact not_isUpper_of_isLower small
      have large := outside behind (by simpa using capital)
      rw [List.dropWhile_cons_of_pos capital, stop, small] at large
      cases large
    · rfl
  hit {before c rest found} outside here := by
    obtain ⟨d, run, last, next, tail, whole, capitals, final, small, rfl⟩ :=
      acronymEnd?_eq_some here
    obtain ⟨rfl, rfl⟩ := List.cons.inj whole
    have first : isUpper c = true := capitals c List.mem_cons_self
    have more : ∀ d ∈ run, isUpper d = true := fun d member =>
      capitals d (List.mem_cons_of_mem c member)
    have ahead : (run ++ last :: next :: tail).head?.any isLower = false := by
      cases run with
      | nil => simp [not_isLower_of_isUpper final]
      | cons d run => simp [not_isLower_of_isUpper (more d List.mem_cons_self)]
    have taken : (run ++ last :: next :: tail).drop (run.length + 2) = tail := by simp
    refine ⟨next, ?_, ?_⟩
    · intro capital
      rw [Option.any_some, not_isUpper_of_isLower small] at capital
      cases capital
    · rw [rewriteBy, rewriteBy_acronym first more final small]
      simp only [acronymRule, ahead, Bool.and_false, Bool.false_eq_true, if_false, taken]
      simp

def OutsideCapital (before : Option Char) (s : List Char) : Prop :=
  before.any (fun b => isLower b || isDecimal b) = true → s.head?.any isUpper = false

theorem follows_capital : Follows capitalStart? capitalRule OutsideCapital where
  miss {before c rest} outside none := by
    refine ⟨?_, fun small => ?_⟩
    · rw [capitalRule]
      split
      · rename_i both
        rw [Bool.and_eq_true] at both
        have capital := outside both.1
        rw [List.head?_cons, Option.any_some, both.2] at capital
        cases capital
      · rfl
    · cases rest with
      | nil => rfl
      | cons d tail =>
        by_contra capital
        rw [Option.any_some] at small
        rw [List.head?_cons, Option.any_some, Bool.not_eq_false] at capital
        simp [capitalStart?, small, capital] at none
  hit {before c rest found} outside here := by
    cases rest with
    | nil => cases here
    | cons d tail =>
      rw [capitalStart?] at here
      split at here
      · rename_i both
        obtain rfl := Option.some.inj here
        rw [Bool.and_eq_true] at both
        refine ⟨d, fun small => ?_, ?_⟩
        · rw [Option.any_some, not_isLower_of_isUpper both.2, not_isDecimal_of_isUpper both.2]
            at small
          cases small
        · have first : capitalRule before c (d :: tail).head? = [c] := by
            rw [capitalRule, if_neg]
            rw [Bool.and_eq_true]
            rintro ⟨small, capital⟩
            have plain := outside small
            rw [List.head?_cons, Option.any_some, capital] at plain
            cases plain
          have second : capitalRule (some c) d tail.head? = ['_', d] := by
            rw [capitalRule, if_pos]
            rwa [Bool.and_eq_true]
          rw [rewriteBy, first, rewriteBy, second]
          rfl
      · cases here

def OutsideSeparators (before : Option Char) (s : List Char) : Prop :=
  before.all isAlnum = false → s.head?.all isAlnum = true

theorem exists_rewriteBy_separators {b : Char} {run : List Char} (other : isAlnum b = false)
    (others : ∀ c ∈ run, isAlnum c = false) (rest : List Char) :
    ∃ last, isAlnum last = false ∧
      rewriteBy separatorRule (some b) (run ++ rest) = rewriteBy separatorRule (some last) rest := by
  induction run generalizing b with
  | nil => exact ⟨b, other, rfl⟩
  | cons c run ih =>
    have here : isAlnum c = false := others c List.mem_cons_self
    obtain ⟨last, own, same⟩ := ih here fun d member => others d (List.mem_cons_of_mem c member)
    refine ⟨last, own, ?_⟩
    rw [List.cons_append, rewriteBy, same]
    simp [separatorRule, here, other]

theorem separatorRun?_cons (c : Char) (rest : List Char) :
    separatorRun? (c :: rest) = if isAlnum c then none
      else some ⟨(rest.takeWhile fun d => !isAlnum d).length, ['_']⟩ := by
  rw [separatorRun?]
  by_cases word : isAlnum c = true <;> simp [word]

theorem follows_separator : Follows separatorRun? separatorRule OutsideSeparators where
  miss {before c rest} outside none := by
    have word : isAlnum c = true := by
      by_contra other
      rw [separatorRun?_cons, if_neg other] at none
      cases none
    refine ⟨by simp [separatorRule, word], fun other => ?_⟩
    rw [Option.all_some, word] at other
    cases other
  hit {before c rest found} outside here := by
    rw [separatorRun?_cons] at here
    split at here
    · cases here
    · rename_i other
      obtain rfl := Option.some.inj here
      rw [Bool.not_eq_true] at other
      have others : ∀ d ∈ rest.takeWhile fun d => !isAlnum d, isAlnum d = false := fun d member => by
        simpa using List.mem_takeWhile_imp member
      have behind := List.takeWhile_append_dropWhile (p := fun d => !isAlnum d) (l := rest)
      obtain ⟨last, own, same⟩ := exists_rewriteBy_separators other others
        (rest.dropWhile fun d => !isAlnum d)
      have taken : rest.drop (rest.takeWhile fun d => !isAlnum d).length =
          rest.dropWhile fun d => !isAlnum d := by
        calc
          _ = (_ ++ rest.dropWhile fun d => !isAlnum d).drop _ := by rw [behind]
          _ = _ := List.drop_left' rfl
      -- no separator stands in front of the run, so its first character is not dropped
      have first : before.all isAlnum = true := by
        by_contra inside
        have word := outside (by simpa using inside)
        rw [List.head?_cons, Option.all_some, other] at word
        cases word
      refine ⟨last, fun _ => ?_, ?_⟩
      · have stop := List.head?_dropWhile_not (fun d => !isAlnum d) rest
        rw [taken]
        cases ahead : (rest.dropWhile fun d => !isAlnum d).head? with
        | none => rfl
        | some d => simpa [ahead] using stop
      · rw [taken, ← same, behind, rewriteBy]
        simp [separatorRule, other, first]

/-- Where the first two replacements put an underscore. A digit of any script counts for them, but the
other scripts' digits are separators for the third one. -/
def marksStart (before : Option Char) (c : Char) (next : Option Char) : Bool :=
  isUpper c && (before.any (fun b => isLower b || isDecimal b)
    || (before.any isUpper && next.any isLower))

theorem startsWord_eq (before : Option Char) (c : Char) (next : Option Char) :
    startsWord before c next = (marksStart before c next && before.all isAlnum) := by
  cases before with
  | none => simp [startsWord, marksStart]
  | some b =>
    rw [startsWord, marksStart]
    by_cases word : isAlnum b = true
    · have digit := isDecimal_eq (ascii_of_isAlnum word)
      simp [word, digit]
    · have none : isUpper b = false ∧ isLower b = false ∧ isDigit b = false := by
        simpa [isAlnum, and_assoc] using word
      simp [word, none]

def startRule : Rule := fun before c next => if marksStart before c next then ['_', c] else [c]

def wordRule : Rule := fun before c next =>
  (if cutsBefore before c next then ['_'] else []) ++ if isAlnum c then [c] else []

theorem capitalRule_underscore (before next : Option Char) :
    capitalRule before '_' next = ['_'] := by
  rw [capitalRule, show isUpper '_' = false from rfl, Bool.and_false]
  rfl

theorem capitalRule_behind_underscore (c : Char) (next : Option Char) :
    capitalRule (some '_') c next = [c] := by
  rw [capitalRule, Option.any_some, isDecimal_eq (by decide)]
  rfl

theorem rewriteBy_capital_acronym (before : Option Char) (s : List Char) :
    rewriteBy capitalRule before (rewriteBy acronymRule before s) = rewriteBy startRule before s := by
  induction s generalizing before with
  | nil => rfl
  | cons c rest ih =>
    rw [rewriteBy, rewriteBy, ← ih, acronymRule, startRule]
    by_cases acronym : (before.any isUpper && isUpper c && rest.head?.any isLower) = true
    · have marked : marksStart before c rest.head? = true := by
        simp only [Bool.and_eq_true] at acronym
        simp [marksStart, acronym]
      rw [if_pos acronym, if_pos marked, List.cons_append, rewriteBy, List.cons_append, rewriteBy,
        capitalRule_underscore, capitalRule_behind_underscore]
      rfl
    · have only : (before.any (fun b => isLower b || isDecimal b) && isUpper c) =
          marksStart before c rest.head? := by
        rw [marksStart]
        cases capital : isUpper c with
        | false => simp
        | true =>
          have none : (before.any isUpper && rest.head?.any isLower) = false := by
            simpa [capital] using acronym
          simp [none]
      rw [if_neg acronym, List.singleton_append, rewriteBy, capitalRule, only]

theorem rewriteBy_separator_start (before : Option Char) (s : List Char) :
    rewriteBy separatorRule before (rewriteBy startRule before s) = rewriteBy wordRule before s := by
  have other : isAlnum '_' = false := by decide
  induction s generalizing before with
  | nil => rfl
  | cons c rest ih =>
    rw [rewriteBy, rewriteBy, ← ih, startRule, wordRule, cutsBefore, startsWord_eq]
    by_cases marked : marksStart before c rest.head? = true
    · have word : isAlnum c = true := by
        rw [marksStart, Bool.and_eq_true] at marked
        simp [isAlnum, marked.1]
      cases inside : before.all isAlnum <;>
        simp [marked, word, inside, other, rewriteBy, separatorRule]
    · by_cases word : isAlnum c = true <;>
        simp [marked, word, rewriteBy, separatorRule]

theorem replaceAll_all (s : List Char) :
    replaceAll separatorRun? (replaceAll capitalStart? (replaceAll acronymEnd? s)) =
      rewriteBy wordRule none s := by
  have acronyms : ∀ t, replaceAll acronymEnd? t = rewriteBy acronymRule none t :=
    fun t => follows_acronym.replaceAll_eq nofun
  have capitals : ∀ t, replaceAll capitalStart? t = rewriteBy capitalRule none t :=
    fun t => follows_capital.replaceAll_eq nofun
  have separators : ∀ t, replaceAll separatorRun? t = rewriteBy separatorRule none t :=
    fun t => follows_separator.replaceAll_eq nofun
  rw [acronyms, capitals, separators, rewriteBy_capital_acronym, rewriteBy_separator_start]

end ProtoModules.Identifier
