import Mathlib.Data.Char
import Mathlib.Data.List.Lex
import Mathlib.Data.List.Sort
import ProtoModules.Proofs.Disk.Path

/-! Sorted paths. Of paths that have been read the key tells which one it is, so sorting puts each of
them in one place, and there is only one list of the same paths that is sorted. -/

namespace ProtoModules.Disk.Path
open Text

variable {paths : List Path}

theorem le_iff (p q : Path) : le p q = true ↔ p.key ≤ q.key := by simp [le]

theorem pairwise_sorted (paths : List Path) : (sorted paths).Pairwise fun p q => p.key ≤ q.key :=
  pairwise_mergeSort_of_iff le_iff _

theorem nodup_eraseDups {α : Type} [BEq α] [LawfulBEq α] (xs : List α) : xs.eraseDups.Nodup := by
  match xs with
  | [] => exact List.nodup_nil
  | x :: rest =>
    rw [List.eraseDups_cons, List.nodup_cons, List.mem_eraseDups]
    exact ⟨by simp, nodup_eraseDups _⟩
termination_by xs.length
decreasing_by exact Nat.lt_succ_of_le (List.length_filter_le _ _)

theorem slash_mem_rootOf {s : List Char} (anchored : rootOf s ≠ []) : '/' ∈ rootOf s := by
  revert anchored
  rw [rootOf.eq_def]
  split <;> simp

theorem key_parse_injective {s t : List Char} (same : (parse s).key = (parse t).key) :
    parse s = parse t := by
  have apart {u v : List Char} (anchored : rootOf v ≠ []) : namesOf u ≠ rootOf v :: namesOf v := by
    intro names
    have part : IsPart (rootOf v) := isPart_of_mem_namesOf (s := u) (names ▸ List.mem_cons_self)
    exact part.whole (slash_mem_rootOf anchored)
  by_cases first : rootOf s = [] <;> by_cases second : rootOf t = []
  · exact eq_of_key first second same
  · simp only [key, parse, first, second, List.isEmpty_iff, if_true, if_false] at same
    exact absurd same (apart second)
  · simp only [key, parse, first, second, List.isEmpty_iff, if_true, if_false] at same
    exact absurd same.symm (apart first)
  · simp only [key, parse, first, second, List.isEmpty_iff, if_false, List.cons.injEq] at same
    rw [parse, parse, same.1, same.2]

theorem eq_of_key_of_mem {texts : List String} {p q : Path} (first : p ∈ texts.map ofString)
    (second : q ∈ texts.map ofString) (same : p.key = q.key) : p = q := by
  obtain ⟨s, -, rfl⟩ := List.mem_map.1 first
  obtain ⟨t, -, rfl⟩ := List.mem_map.1 second
  exact key_parse_injective same

theorem forall_mem_iff_iff {paths' : List Path} :
    (∀ path, path ∈ paths ↔ path ∈ paths') ↔ paths ⊆ paths' ∧ paths' ⊆ paths := by
  simp only [iff_def, forall_and, List.subset_def]

/-- Texts that stand for the same paths, however they are ordered, repeated and spelled. -/
def SamePaths (texts texts' : List String) : Prop :=
  ∀ path, path ∈ texts.map ofString ↔ path ∈ texts'.map ofString

instance (texts texts' : List String) : Decidable (SamePaths texts texts') :=
  decidable_of_iff' _ forall_mem_iff_iff

structure Listed (texts : List String) (paths : List Path) : Prop where
  mem_iff : ∀ path, path ∈ paths ↔ path ∈ texts.map ofString
  ascending : paths.Pairwise fun p q => p.key < q.key

theorem listed_sorted (texts : List String) : Listed texts (sorted (texts.map ofString)) := by
  refine ⟨fun path => mem_sorted_iff, pairwise_lt_mergeSort_of_iff le_iff (nodup_eraseDups _) ?_⟩
  exact fun p first q second =>
    eq_of_key_of_mem (List.mem_eraseDups.1 first) (List.mem_eraseDups.1 second)

namespace Listed

variable {texts texts' : List String} (listed : Listed texts paths)

include listed

theorem congr (same : SamePaths texts texts') : Listed texts' paths :=
  ⟨fun path => (listed.mem_iff path).trans (same path), listed.ascending⟩

theorem eq_sorted : paths = sorted (texts.map ofString) := by
  have irrefl : Std.Irrefl fun p q : Path => p.key < q.key := ⟨fun p => lt_irrefl p.key⟩
  have antisymm : Std.Antisymm fun p q : Path => p.key < q.key :=
    ⟨fun _ _ less more => absurd more (lt_asymm less)⟩
  have order := listed_sorted texts
  exact listed.ascending.eq_of_mem_iff order.ascending fun path =>
    (listed.mem_iff path).trans (order.mem_iff path).symm

end Listed

end ProtoModules.Disk.Path
