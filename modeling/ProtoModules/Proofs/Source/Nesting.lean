import ProtoModules.Proofs.Source.Code

/-! Depth and scopes along a scan. Balanced lines leave both as they are, whatever their lines declare; a
line that opens one brace more than it closes opens the scope that it declares, and the line that
closes the brace drops it again. -/

namespace ProtoModules.Source
open Text

def openedBy (line : Line) : Option Line :=
  ((Declaration.ofLine? line).filter (·.opensScope)).map (·.name)

/-- One brace more is opened on the line than is closed. -/
def Opens (line : Line) : Prop :=
  (Declaration.codePart line).count '{' = (Declaration.codePart line).count '}' + 1

theorem IsLevel.opens {s : Line} (level : IsLevel s) : Opens (s ++ ['{']) := by
  obtain ⟨outline, same, found⟩ := level ['{'] (by simp)
  have brace : Declaration.codePart ['{'] = ['{'] := rfl
  rw [Opens, found, brace, List.count_append, List.count_append, same]
  rfl

namespace Scan

def pass (line : Line) (scan : Scan) : Scan :=
  scan.enter (Declaration.ofLine? line) (Declaration.codePart line)

def Tops (scan : Scan) : Prop := ∀ scope ∈ scan.scopes.head?, scope.depth ≤ scan.depth

variable {scan : Scan} {extra base : List Scope} {floor : Nat}

theorem exists_enter (declaration : Option Declaration) (code : Line)
    (scopes : scan.scopes = extra ++ base) (above : ∀ scope ∈ extra, floor < scope.depth)
    (below : ∀ scope ∈ base.head?, scope.depth ≤ floor) (before : floor ≤ scan.depth)
    (behind : floor ≤ scan.depth + code.count '{' - code.count '}') :
    ∃ extra', scan.enter declaration code =
        { scan with depth := scan.depth + code.count '{' - code.count '}', scopes := extra' ++ base } ∧
      (∀ scope ∈ extra', floor < scope.depth) ∧
      (scan.depth + code.count '{' - code.count '}' = floor → extra' = []) := by
  let depth := scan.depth + code.count '{' - code.count '}'
  -- dropping the scopes that have ended stops at the base, which is not deeper than the floor
  have kept : ∀ opened : List Scope, (opened ++ base).dropWhile (fun scope => depth < scope.depth) =
      opened.dropWhile (fun scope => depth < scope.depth) ++ base := by
    intro opened
    have stays : base.dropWhile (fun scope => depth < scope.depth) = base :=
      dropWhile_of_stop fun scope first => by
        have low := below scope first
        simp only [decide_eq_false_iff_not]
        omega
    rw [List.dropWhile_append, stays]
    split
    · rename_i none
      rw [List.isEmpty_iff.1 none, List.nil_append]
    · rfl
  obtain ⟨opened, entered, high⟩ : ∃ opened, scan.enter declaration code =
      { scan with depth := depth
                  scopes := (opened ++ base).dropWhile fun scope => depth < scope.depth } ∧
      ∀ scope ∈ opened, floor < scope.depth := by
    cases declaration with
    | none => exact ⟨extra, by simp only [enter, scopes, depth], above⟩
    | some d =>
      by_cases opens : (d.opensScope && scan.depth < depth) = true
      · refine ⟨⟨d.name, depth⟩ :: extra, ?_, List.forall_mem_cons.2 ⟨?_, above⟩⟩
        · simp only [enter, if_pos opens, scopes, List.cons_append, depth]
        · simp only [Bool.and_eq_true, decide_eq_true_eq] at opens
          exact Nat.lt_of_le_of_lt before opens.2
      · exact ⟨extra, by simp only [enter, if_neg opens, scopes, depth], above⟩
  refine ⟨opened.dropWhile fun scope => depth < scope.depth, by rw [entered, kept], ?_, ?_⟩
  · exact fun scope member => high scope ((List.dropWhile_sublist _).mem member)
  · intro ends
    refine List.dropWhile_eq_nil_iff.2 fun scope member => ?_
    have deep := high scope member
    simp only [decide_eq_true_eq]
    omega

theorem foldl_pass_of_balances {ls : List Line} {depth : Nat}
    (balanced : balances depth (ls.map Declaration.codePart) = true)
    (deep : scan.depth = floor + depth)
    (scopes : scan.scopes = extra ++ base) (above : ∀ scope ∈ extra, floor < scope.depth)
    (below : ∀ scope ∈ base.head?, scope.depth ≤ floor) (flat : depth = 0 → extra = []) :
    ls.foldl (fun scan line => scan.pass line) scan =
      { scan with depth := floor, scopes := base } := by
  induction ls generalizing scan depth extra with
  | nil =>
    obtain rfl : depth = 0 := by simpa [balances] using balanced
    obtain rfl := flat rfl
    rw [Nat.add_zero] at deep
    rw [List.foldl_nil, ← deep, ← List.nil_append base, ← scopes]
  | cons line rest ih =>
    simp only [List.map_cons, balances, Bool.and_eq_true, decide_eq_true_eq] at balanced
    obtain ⟨extra', entered, above', flat'⟩ := exists_enter (Declaration.ofLine? line)
      (Declaration.codePart line) scopes above below (by omega) (by omega)
    rw [List.foldl_cons, pass, entered]
    exact ih balanced.2 (by simp only; omega) rfl above' fun none => flat' (by omega)

theorem foldl_pass (tops : scan.Tops) {ls : List Line}
    (balanced : balances 0 (ls.map Declaration.codePart) = true) :
    ls.foldl (fun scan line => scan.pass line) scan = scan :=
  @foldl_pass_of_balances scan [] scan.scopes scan.depth ls 0 balanced rfl rfl (by simp) tops
    fun _ => rfl

theorem pass_level (tops : scan.Tops) {line : Line} (level : IsLevel line) :
    scan.pass line = scan :=
  @foldl_pass scan tops [line] (balances_of_isLevel level)

theorem foldl_pass_level (tops : scan.Tops) {ls : List Line} (level : ∀ line ∈ ls, IsLevel line) :
    ls.foldl (fun scan line => scan.pass line) scan = scan := by
  induction ls with
  | nil => rfl
  | cons line rest ih =>
    rw [List.foldl_cons, pass_level tops (level line List.mem_cons_self)]
    exact ih fun other member => level other (List.mem_cons_of_mem _ member)

def inside (scan : Scan) (opened : Option Line) : Scan :=
  { scan with depth := scan.depth + 1
              scopes := (opened.map fun name => ⟨name, scan.depth + 1⟩).toList ++ scan.scopes }

theorem Tops.inside (tops : scan.Tops) (opened : Option Line) : (scan.inside opened).Tops := by
  intro scope first
  cases opened with
  | none =>
    have low := tops scope first
    exact Nat.le_succ_of_le low
  | some name =>
    obtain rfl : _ = scope := Option.some.inj first
    exact Nat.le_refl _

theorem pass_opening (tops : scan.Tops) {line : Line} (opens : Opens line) :
    scan.pass line = scan.inside (openedBy line) := by
  have deeper : scan.depth + (Declaration.codePart line).count '{' -
      (Declaration.codePart line).count '}' = scan.depth + 1 := by
    rw [opens]
    omega
  have stays : ∀ opened, ((scan.inside opened).scopes.dropWhile fun scope =>
      scan.depth + 1 < scope.depth) = (scan.inside opened).scopes := fun opened =>
    dropWhile_of_stop fun scope first => by
      have low : scope.depth ≤ scan.depth + 1 := tops.inside opened scope first
      simpa using low
  simp only [pass, openedBy, enter, deeper]
  have entered : ∀ opened, { scan with
      depth := scan.depth + 1
      scopes := (scan.inside opened).scopes.dropWhile fun scope => scan.depth + 1 < scope.depth } =
      scan.inside opened := by
    intro opened
    rw [stays opened]
    rfl
  cases Declaration.ofLine? line with
  | none => exact entered none
  | some d =>
    have next : scan.depth < scan.depth + 1 := Nat.lt_succ_self _
    cases opens : d.opensScope
    · simp only [Option.filter_some, opens, Bool.false_and, Bool.false_eq_true, if_false]
      exact entered none
    · simp only [Option.filter_some, opens, next, decide_true, Bool.and_self, if_true]
      exact entered (some d.name)

theorem pass_closing (tops : scan.Tops) (opened : Option Line) :
    (scan.inside opened).pass ['}'] = scan := by
  have deep : ∀ scope ∈ (opened.map fun name => (⟨name, scan.depth + 1⟩ : Scope)).toList,
      scan.depth < scope.depth := by simp
  have brace : Declaration.codePart ['}'] = ['}'] := rfl
  obtain ⟨extra, entered, -, flat⟩ := @exists_enter (scan.inside opened) _ scan.scopes scan.depth
    (Declaration.ofLine? ['}']) ['}'] rfl deep tops (Nat.le_succ _) (by simp [inside])
  rw [pass, brace, entered, flat (by simp [inside])]
  simp [inside]

end Scan

end ProtoModules.Source
