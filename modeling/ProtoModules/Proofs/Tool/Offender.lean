import ProtoModules.Proofs.Disk.Effect
import ProtoModules.Proofs.Disk.Sorted
import ProtoModules.Proofs.Tool.Compilation

/-! The file that a failed run is put down to. It is the first definition file whose name occurs anywhere
in the messages, also as a part of a longer name. Messages that all begin with the name of one file
are put down to it unless the name of a file before it occurs in them. -/

namespace ProtoModules.Tool
open Text Disk Disk.Path

variable {paths : List Path} {file : Path}

theorem exists_offending {messages : String} (member : file ∈ paths)
    (named : file.name <:+: messages.toList) :
    ∃ found ∈ paths, Protoc.offending? (sorted paths) messages = some found ∧
      found.name <:+: messages.toList ∧
      ∀ other ∈ paths, other.key < found.key → ¬ other.name <:+: messages.toList := by
  have some : (Protoc.offending? (sorted paths) messages).isSome = true :=
    List.find?_isSome.2 ⟨file, mem_sorted_iff.2 member, (holds_iff _ _).2 named⟩
  obtain ⟨found, first⟩ := Option.isSome_iff_exists.1 some
  obtain ⟨holding, before, behind, cut, none⟩ := List.find?_eq_some_iff_append.1 first
  refine ⟨found, mem_sorted_iff.1 (cut ▸ by simp), first, (holds_iff _ _).1 holding,
    fun other member less within => ?_⟩
  have order := pairwise_sorted paths
  have place := mem_sorted_iff.2 member
  rw [cut] at order place
  rcases List.mem_append.1 place with early | late
  · -- what stands before the first one is not named
    have clean := none other early
    rw [(holds_iff _ _).2 within] at clean
    cases clean
  · rcases List.mem_cons.1 late with rfl | late
    · exact lt_irrefl _ less
    · have above := (List.pairwise_cons.1 (List.pairwise_append.1 order).2.1).1 other late
      exact not_lt_of_ge above less

theorem offending?_eq_iff {definitions : List String} {messages : String}
    (member : file ∈ definitions.map Path.ofString) (named : file.name <:+: messages.toList) :
    Protoc.offending? (sorted (definitions.map Path.ofString)) messages = some file ↔
      ∀ other ∈ definitions.map Path.ofString, other.key < file.key →
        ¬ other.name <:+: messages.toList := by
  obtain ⟨found, there, first, holding, none⟩ := exists_offending member named
  rw [first, Option.some.injEq]
  constructor
  · rintro rfl
    exact none
  · intro clean
    rcases lt_trichotomy found.key file.key with before | same | behind
    · exact absurd holding (clean found there before)
    · exact eq_of_key_of_mem there member same
    · exact absurd named (none file member behind)

structure Diagnostic where
  line : Nat
  column : Nat
  message : List Char

variable {name : Name} {errors : List Char} {ds : List Diagnostic}

def Diagnostic.written (name : Name) (g : Diagnostic) : Line :=
  name ++ ':' :: (Nat.toDigits 10 g.line ++ ':' :: (Nat.toDigits 10 g.column ++ ':' :: ' ' :: g.message))

/-- A text of diagnostics of one file, perhaps with a line break at the end. -/
def Reports (name : Name) (ds : List Diagnostic) (errors : List Char) : Prop :=
  errors = unlines (ds.map (Diagnostic.written name)) ∨
    errors = unlines (ds.map (Diagnostic.written name)) ++ ['\n']

/-- Such a name is no part of the punctuation and of the numbers around it. -/
structure IsOrdinary (name : Name) : Prop where
  whole : ':' ∉ name ∧ '\n' ∉ name
  begins : name.head? ≠ some ' '
  ink : ∃ c ∈ name, c.isDigit = false

theorem name_infix_of_reports (reports : Reports name ds errors) (some : ds ≠ []) :
    name <:+: errors := by
  obtain ⟨g, more, rfl⟩ := List.exists_cons_of_ne_nil some
  have begins : name <+: unlines ((g :: more).map (Diagnostic.written name)) := by
    rw [List.map_cons, Diagnostic.written]
    cases more with
    | nil => exact List.prefix_append _ _
    | cons next more => exact (List.prefix_append _ _).trans (List.prefix_append _ _)
  rcases reports with rfl | rfl
  · exact begins.isInfix
  · exact begins.isInfix.trans (List.infix_append' [] _ _)

theorem not_infix_toDigits (ink : ∃ c ∈ name, c.isDigit = false) (n : Nat) :
    ¬ name <:+: Nat.toDigits 10 n := by
  obtain ⟨c, member, other⟩ := ink
  intro within
  have digit := Nat.isDigit_of_mem_toDigits (by decide) (by decide) (within.subset member)
  rw [other] at digit
  cases digit

theorem infix_written_iff {word : Name} (ordinary : IsOrdinary word) (g : Diagnostic) :
    word <:+: g.written name ↔ word <:+: name ∨ word <:+: g.message := by
  have spaced : word <:+: ' ' :: g.message ↔ word <:+: g.message := by
    rw [List.infix_cons_iff]
    refine or_iff_right fun begins => ?_
    obtain ⟨c, member, -⟩ := ordinary.ink
    obtain ⟨first, rest, rfl⟩ := List.exists_cons_of_ne_nil (List.ne_nil_of_mem member)
    obtain ⟨rfl, -⟩ := List.cons_prefix_cons.1 begins
    exact ordinary.begins rfl
  have colon := ordinary.whole.1
  rw [Diagnostic.written, infix_append_cons_iff colon, infix_append_cons_iff colon,
    infix_append_cons_iff colon, spaced]
  simp only [not_infix_toDigits ordinary.ink, false_or]

theorem infix_reports_iff {word : Name} (ordinary : IsOrdinary word)
    (reports : Reports name ds errors) (some : ds ≠ []) (silent : ∀ g ∈ ds, ¬ word <:+: g.message) :
    word <:+: errors ↔ word <:+: name := by
  obtain ⟨c, member, -⟩ := ordinary.ink
  have present : word ≠ [] := List.ne_nil_of_mem member
  have lines : word <:+: unlines (ds.map (Diagnostic.written name)) ↔ word <:+: name := by
    rw [infix_unlines_iff present ordinary.whole.2]
    simp only [List.mem_map, exists_exists_and_eq_and, infix_written_iff ordinary]
    constructor
    · rintro ⟨g, listed, own | message⟩
      · exact own
      · exact absurd message (silent g listed)
    · intro own
      obtain ⟨g, listed⟩ := List.exists_mem_of_ne_nil ds some
      exact ⟨g, listed, .inl own⟩
  rcases reports with rfl | rfl
  · exact lines
  · rw [infix_append_cons_iff ordinary.whole.2, lines, List.infix_nil]
    exact or_iff_left present

/-- The definition files and the directories to search are there, and the compiler fails with diagnostics
of one of the files that name no file in their messages. -/
structure FailsOn (tools : Toolchain) (g : Protoc) (scratch : Path) (definitions searched : List String)
    (d : Disk) (file : Path) (status : Int) (messages : String) (ds : List Diagnostic) : Prop where
  present : ∀ path ∈ definitions.map Path.ofString, d.hasFile path = true
  searchable : ∀ path ∈ searched.map Path.ofString, d.hasDirectory path = true
  ran : ∃ run output, g.compilation? tools scratch d (sorted (definitions.map Path.ofString))
    (sorted (searched.map Path.ofString)) = some run ∧ run.exit = .exited status output messages
  failed : status ≠ 0
  member : file ∈ definitions.map Path.ofString
  told : ds ≠ []
  reports : Reports file.name ds messages.toList
  silent : ∀ g ∈ ds, ∀ path ∈ definitions.map Path.ofString, ¬ path.name <:+: g.message

theorem FailsOn.generate_eq {tools : Toolchain} {g : Protoc} {scratch : Path}
    {definitions searched : List String} {s : Session} {status : Int} {messages : String}
    (fails : FailsOn tools g scratch definitions searched s.disk file status messages ds) :
    ((g.generate tools scratch definitions searched).run s).1 =
      .error (.error (.generation (.exited g.executable status)
        ((Protoc.offending? (sorted (definitions.map Path.ofString)) messages).map Path.toString)
        (some messages))) := by
  obtain ⟨run, output, ran, exit⟩ := fails.ran
  refine Protoc.generate_of_failed (Protoc.refusal?_eq_none_iff.2 ⟨?_, ?_, ?_⟩) ran exit fails.failed
  · exact List.ne_nil_of_mem (mem_sorted_iff.2 fails.member)
  · exact fun path member => fails.present path (mem_sorted_iff.1 member)
  · exact fun path member => fails.searchable path (mem_sorted_iff.1 member)

/-- A failed run whose diagnostics all begin with the name of one definition file is put down to some
definition file. It is this one exactly if the name of no file before it occurs in the diagnostics;
for ordinary names that is, if the name of no file before it is a part of this file's name. -/
theorem path_of_failure {tools : Toolchain} {g : Protoc} {scratch : Path}
    {definitions searched : List String} {s : Session} {status : Int} {messages : String}
    (fails : FailsOn tools g scratch definitions searched s.disk file status messages ds) :
    ∃ path ∈ definitions.map Path.ofString,
      ((g.generate tools scratch definitions searched).run s).1 =
        .error (.error (.generation (.exited g.executable status) (some path.toString)
          (some messages))) ∧
      (path.toString = file.toString ↔ ∀ other ∈ definitions.map Path.ofString,
        other.key < file.key → ¬ other.name <:+: messages.toList) ∧
      ((∀ other ∈ definitions.map Path.ofString, IsOrdinary other.name) →
        (path.toString = file.toString ↔ ∀ other ∈ definitions.map Path.ofString,
          other.key < file.key → ¬ other.name <:+: file.name)) := by
  have named := name_infix_of_reports fails.reports fails.told
  obtain ⟨found, there, first, -⟩ := exists_offending fails.member named
  have result := fails.generate_eq
  rw [first] at result
  have same : found.toString = file.toString ↔ ∀ other ∈ definitions.map Path.ofString,
      other.key < file.key → ¬ other.name <:+: messages.toList := by
    rw [← offending?_eq_iff fails.member named, first, Option.some.injEq]
    exact ⟨eq_of_toString_of_mem there fails.member, fun same => same ▸ rfl⟩
  refine ⟨found, there, result, same, fun ordinary => same.trans ?_⟩
  refine forall₂_congr fun other member => imp_congr_right fun _ => not_congr ?_
  exact infix_reports_iff (ordinary other member) fails.reports fails.told fun g listed =>
    fails.silent g listed other member

def failing (messages : String) : Toolchain where
  compile _ _ := ⟨.exited 1 "" messages, []⟩
  version _ := .exited 1 "" ""
  format _ input := .exited 0 input ""

def paired (first second : String) : Disk :=
  [first, second].foldl (fun d file => d.store (Path.ofString file) (.file file.toUTF8)) Disk.empty

def unexpected : List Diagnostic := [⟨3, 1, "Expected top-level statement.".toList⟩]

def unexpectedIn (file : String) : String := file ++ ":3:1: Expected top-level statement.\n"

theorem failsOn_separate :
    FailsOn (failing (unexpectedIn "b.proto")) {} (Path.ofString "aside") ["b.proto", "a.proto"] ["."]
      (paired "a.proto" "b.proto") (Path.ofString "b.proto") 1 (unexpectedIn "b.proto") unexpected where
  present := by decide +kernel
  searchable := by decide +kernel
  ran := ⟨_, _, rfl, rfl⟩
  failed := by decide
  member := by decide +kernel
  told := by simp [unexpected]
  reports := .inr (by decide +kernel)
  silent := by decide +kernel

theorem path_of_separate :
    ((Protoc.generate (failing (unexpectedIn "b.proto")) {} (Path.ofString "aside")
        ["b.proto", "a.proto"] ["."]).run ⟨paired "a.proto" "b.proto", []⟩).1 =
      .error (.error (.generation (.exited "protoc" 1) (some "b.proto")
        (some (unexpectedIn "b.proto")))) := by
  obtain ⟨path, -, result, same, -⟩ :=
    path_of_failure (s := ⟨paired "a.proto" "b.proto", []⟩) failsOn_separate
  have clean : ∀ other ∈ ["b.proto", "a.proto"].map Path.ofString,
      other.key < (Path.ofString "b.proto").key →
        ¬ other.name <:+: (unexpectedIn "b.proto").toList := by decide +kernel
  have written : (Path.ofString "b.proto").toString = "b.proto" := by decide +kernel
  rw [result, same.2 clean, written]

theorem failsOn_nested :
    FailsOn (failing (unexpectedIn "my_api.proto")) {} (Path.ofString "aside")
      ["api.proto", "my_api.proto"] ["."] (paired "api.proto" "my_api.proto")
      (Path.ofString "my_api.proto") 1 (unexpectedIn "my_api.proto") unexpected where
  present := by decide +kernel
  searchable := by decide +kernel
  ran := ⟨_, _, rfl, rfl⟩
  failed := by decide
  member := by decide +kernel
  told := by simp [unexpected]
  reports := .inr (by decide +kernel)
  silent := by decide +kernel

theorem not_path_of_nested :
    ¬ ∀ (tools : Toolchain) (g : Protoc) (scratch : Path) (definitions searched : List String)
        (s : Session) (file : Path) (status : Int) (messages : String) (ds : List Diagnostic),
      FailsOn tools g scratch definitions searched s.disk file status messages ds →
      (∀ a ∈ definitions.map Path.ofString, ∀ b ∈ definitions.map Path.ofString,
        a.name = b.name → a = b) →
      ((g.generate tools scratch definitions searched).run s).1 =
        .error (.error (.generation (.exited g.executable status) (some file.toString)
          (some messages))) := by
  intro right
  have distinct : ∀ a ∈ ["api.proto", "my_api.proto"].map Path.ofString,
      ∀ b ∈ ["api.proto", "my_api.proto"].map Path.ofString, a.name = b.name → a = b := by
    decide +kernel
  have claimed := right _ _ _ _ _ ⟨paired "api.proto" "my_api.proto", []⟩ _ _ _ _ failsOn_nested distinct
  have result := FailsOn.generate_eq (s := ⟨paired "api.proto" "my_api.proto", []⟩) failsOn_nested
  have first : Protoc.offending? (sorted (["api.proto", "my_api.proto"].map Path.ofString))
      (unexpectedIn "my_api.proto") = some (Path.ofString "api.proto") :=
    (offending?_eq_iff (by decide +kernel) (by decide +kernel)).2
      (by decide +kernel)
  have differ : (Path.ofString "api.proto").toString ≠ (Path.ofString "my_api.proto").toString := by
    decide +kernel
  rw [result, first] at claimed
  simp only [Option.map_some, Except.error.injEq, Failure.error.injEq, Error.generation.injEq,
    Option.some.injEq] at claimed
  exact differ claimed.2.1

end ProtoModules.Tool
