import Mathlib.Data.List.Forall2
import ProtoModules.Proofs.Source.Attribution
import ProtoModules.Proofs.Source.Named

/-! Layouts of a source. A forest can be laid out with the arguments of attributes and the braces of
headers on lines of their own. The scan is not thrown off by such lines, but documentation above a
broken attribute is taken to be about the first argument, and the scope of a header whose brace is
moved is missed. Layouts where neither happens are steady, and no others leave the declarations of a
legible source as they are. -/

namespace ProtoModules.Source
open Text

namespace Mark

/-- Below each run, the first line that is neither documentation nor an attribute declares what the
item does on one line, which is `flat`; `first` is the line that the item starts with. -/
def isSteady (first flat : Line) : (fresh : Bool) → List Mark → Bool
  | _, [] => true
  | fresh, doc _ _ :: rest =>
    (!fresh || declaredBelow (rest.flatMap lines ++ [first]) == declaredBy flat) &&
      isSteady first flat false rest
  | _, tag _ :: rest => isSteady first flat true rest

end Mark

namespace Forest

/-- Every run is steady, and a block whose brace is moved holds no documentation. -/
def isSteady : Forest → Bool
  | nil => true
  | blank next => next.isSteady
  | leaf marks item next => Mark.isSteady item.first item.first true marks && next.isSteady
  | block marks header inside next =>
    Mark.isSteady header.first header.straight.first true marks &&
      (!header.moved || !inside.isDocumented) && inside.isSteady && next.isSteady

end Forest

namespace Mark

variable {first flat : Line} {around outer : List Line}

theorem length_seen (ms : List Mark) (i j : Nat) (fresh : Bool) :
    (seen around first i fresh ms).length =
      (seen outer flat j fresh (ms.map straight)).length := by
  induction ms generalizing i j fresh with
  | nil => rfl
  | cons m ms ih =>
    cases m with
    | doc body three =>
      rw [List.map_cons, straight, seen, seen, List.length_append, List.length_append, ih]
      cases fresh <;> rfl
    | tag a => exact ih _ _ _

theorem seen_eq_iff (plain : isDocLine flat = false) (code : Scan.isAttribute flat = false)
    (around : List Line) (ms : List Mark) (i j : Nat) (fresh : Bool) :
    (seen around first i fresh ms).map Prod.snd =
      (seen around flat j fresh (ms.map straight)).map Prod.snd ↔
      isSteady first flat fresh ms = true := by
  induction ms generalizing i j fresh with
  | nil => simp [seen, isSteady]
  | cons m ms ih =>
    cases m with
    | doc body three =>
      rw [List.map_cons, straight, seen, seen, declaredBelow_straight plain code, isSteady,
        Bool.and_eq_true, ← ih (i + 1) (j + 1) false]
      cases fresh with
      | false => simp
      | true =>
        have toList : ∀ x y : Option Line, x.toList = y.toList ↔ x = y := by
          intro x y
          cases x <;> cases y <;> simp
        simp [toList]
    | tag a => exact ih _ _ true

theorem undocumented_of_seen {index : Nat} {ms : List Mark}
    (nothing : seen around first index true ms = []) : ms.any isDoc = false := by
  induction ms generalizing index with
  | nil => rfl
  | cons m ms ih =>
    cases m with
    | doc body three => simp [seen] at nothing
    | tag a => exact ih nothing

theorem shorter_seen (plain : isDocLine flat = false) (code : Scan.isAttribute flat = false)
    {name : Line} (declared : declaredBy flat = some name) (deeper : around.length < outer.length)
    (ms : List Mark) (i j : Nat) (fresh : Bool) :
    List.Forall₂ (fun x y : Nat × List Line => x.2.length < y.2.length)
      (seen around first i fresh ms) (seen outer flat j fresh (ms.map straight)) := by
  induction ms generalizing i j fresh with
  | nil => exact .nil
  | cons m ms ih =>
    cases m with
    | doc body three =>
      rw [List.map_cons, straight, seen, seen, declaredBelow_straight plain code, declared]
      cases fresh with
      | false => exact ih _ _ _
      | true =>
        refine .cons ?_ (ih _ _ _)
        cases declaredBelow (ms.flatMap lines ++ [first]) <;> simp <;> omega
    | tag a => exact ih _ _ _

end Mark

namespace Forest

theorem length_seen (forest : Forest) (i j : Nat) (around outer : List Line) :
    (forest.seen i around).length = (forest.straight.seen j outer).length := by
  induction forest generalizing i j around outer with
  | nil => rfl
  | blank next ih => exact ih _ _ _ _
  | leaf marks item next ih =>
    simp only [straight, seen, List.length_append]
    rw [ih _ _ around outer, Mark.length_seen marks]
  | block marks header inside next ihInside ihNext =>
    simp only [straight, seen, List.length_append]
    rw [ihInside _ _ _ _, ihNext _ _ around outer, Mark.length_seen marks]

theorem undocumented_of_seen {forest : Forest} {index : Nat} {around : List Line}
    (nothing : forest.seen index around = []) : forest.isDocumented = false := by
  induction forest generalizing index around with
  | nil => rfl
  | blank next ih => exact ih nothing
  | leaf marks item next ih =>
    rw [seen, List.append_eq_nil_iff] at nothing
    rw [isDocumented, Mark.undocumented_of_seen nothing.1, ih nothing.2]
    rfl
  | block marks header inside next ihInside ihNext =>
    simp only [seen, List.append_eq_nil_iff] at nothing
    rw [isDocumented, Mark.undocumented_of_seen nothing.1.1, ihInside nothing.1.2, ihNext nothing.2]
    rfl

theorem opened_of_unmoved {header : Header} (unmoved : header.moved = false) :
    header.opened = header.straight.opened := by
  rw [Header.opened, unmoved]
  rfl

theorem seen_of_steady {forest : Forest} (steady : forest.isSteady = true) (i j : Nat)
    (around : List Line) : (forest.seen i around).map Prod.snd =
      (forest.straight.seen j around).map Prod.snd := by
  induction forest generalizing i j around with
  | nil => rfl
  | blank next ih => exact ih steady _ _ _
  | leaf marks item next ih =>
    rw [isSteady, Bool.and_eq_true] at steady
    have marked := (Mark.seen_eq_iff (item.isDocLine_of_mem _ List.mem_cons_self)
      (isAttribute_of_begins item.begins_first) around marks i j true).2 steady.1
    simp only [straight, seen, List.map_append]
    rw [marked, ih steady.2]
  | block marks header inside next ihInside ihNext =>
    simp only [isSteady, Bool.and_eq_true] at steady
    obtain ⟨⟨⟨own, moved⟩, inner⟩, later⟩ := steady
    have marked := (Mark.seen_eq_iff header.straight.isDocLine_first
      (isAttribute_of_begins header.straight.begins_first) around marks i j true).2 own
    have within : ∀ i j, (inside.seen i (around ++ header.opened.toList)).map Prod.snd =
        (inside.straight.seen j (around ++ header.straight.opened.toList)).map Prod.snd := by
      intro i j
      rcases Bool.or_eq_true_iff.1 moved with unmoved | none
      · rw [opened_of_unmoved (by simpa using unmoved)]
        exact ihInside inner i j _
      · have none : inside.isDocumented = false := by simpa using none
        rw [(seen_of_undocumented none i _).1,
          (seen_of_undocumented (inside.isDocumented_straight.trans none) j _).1]
    simp only [straight, seen, List.map_append]
    rw [marked, within, ihNext later]

theorem shorter_seen {forest : Forest} (legible : forest.isLegible = true) {around outer : List Line}
    (deeper : around.length < outer.length) (i j : Nat) :
    List.Forall₂ (fun x y : Nat × List Line => x.2.length < y.2.length)
      (forest.seen i around) (forest.straight.seen j outer) := by
  induction forest generalizing i j around outer with
  | nil => exact .nil
  | blank next ih => exact ih legible deeper _ _
  | leaf marks item next ih =>
    rw [isLegible, Bool.and_eq_true, Bool.or_eq_true, Bool.not_eq_true'] at legible
    refine List.rel_append ?_ (ih legible.2 deeper _ _)
    rcases legible.1 with own | none
    · have declared := declaredBy_eq_some (Leaf.ofLine?_first own) item.name.present
      exact Mark.shorter_seen (item.isDocLine_of_mem _ List.mem_cons_self)
        (isAttribute_of_begins item.begins_first) declared deeper marks i j true
    · have straight := none
      rw [← Mark.any_isDoc_straight] at straight
      rw [(Mark.seen_of_undocumented none _ _ _ _).1, (Mark.seen_of_undocumented straight _ _ _ _).1]
      exact .nil
  | block marks header inside next ihInside ihNext =>
    simp only [isLegible, Bool.and_eq_true, Bool.or_eq_true, Bool.not_eq_true'] at legible
    refine List.rel_append (List.rel_append ?_ ?_) (ihNext legible.2 deeper _ _)
    · rcases legible.1.1 with own | none
      · have read := @Header.ofLine?_line header own
        have declared : declaredBy header.straight.first = some header.head.name.chars :=
          declaredBy_eq_some read header.head.name.present
        exact Mark.shorter_seen header.straight.isDocLine_first
          (isAttribute_of_begins header.straight.begins_first) declared deeper marks i j true
      · rw [Bool.or_eq_false_iff] at none
        have straight := none.1
        rw [← Mark.any_isDoc_straight] at straight
        rw [(Mark.seen_of_undocumented none.1 _ _ _ _).1,
          (Mark.seen_of_undocumented straight _ _ _ _).1]
        exact .nil
    · rcases legible.1.1 with own | none
      · refine ihInside legible.1.2 ?_ _ _
        rw [Header.opened_straight own]
        cases header.opened <;> simp <;> omega
      · rw [Bool.or_eq_false_iff] at none
        rw [(seen_of_undocumented none.2 _ _).1,
          (seen_of_undocumented (inside.isDocumented_straight.trans none.2) _ _).1]
        exact .nil

theorem nil_of_shorter {xs ys : List (Nat × List Line)}
    (shorter : List.Forall₂ (fun x y : Nat × List Line => x.2.length < y.2.length) xs ys)
    (same : xs.map Prod.snd = ys.map Prod.snd) : xs = [] := by
  cases shorter with
  | nil => rfl
  | cons first later =>
    rw [List.map_cons, List.map_cons] at same
    rw [(List.cons.inj same).1] at first
    exact absurd first (Nat.lt_irrefl _)

theorem steady_of_seen {forest : Forest} (legible : forest.isLegible = true) {i j : Nat}
    {around : List Line} (same : (forest.seen i around).map Prod.snd =
      (forest.straight.seen j around).map Prod.snd) : forest.isSteady = true := by
  induction forest generalizing i j around with
  | nil => rfl
  | blank next ih => exact ih legible same
  | leaf marks item next ih =>
    rw [isLegible, Bool.and_eq_true] at legible
    simp only [straight, seen, List.map_append] at same
    obtain ⟨own, later⟩ := List.append_inj same (by
      rw [List.length_map, List.length_map]
      exact Mark.length_seen marks _ _ _)
    rw [isSteady, Bool.and_eq_true]
    exact ⟨(Mark.seen_eq_iff (item.isDocLine_of_mem _ List.mem_cons_self)
      (isAttribute_of_begins item.begins_first) around marks i j true).1 own, ih legible.2 later⟩
  | block marks header inside next ihInside ihNext =>
    simp only [isLegible, Bool.and_eq_true, Bool.or_eq_true, Bool.not_eq_true'] at legible
    simp only [straight, seen, List.map_append, List.append_assoc] at same
    obtain ⟨own, rest⟩ := List.append_inj same (by
      rw [List.length_map, List.length_map]
      exact Mark.length_seen marks _ _ _)
    obtain ⟨inner, later⟩ := List.append_inj rest (by
      rw [List.length_map, List.length_map]
      exact length_seen _ _ _ _ _)
    have marked := (Mark.seen_eq_iff header.straight.isDocLine_first
      (isAttribute_of_begins header.straight.begins_first) around marks i j true).1 own
    simp only [isSteady, Bool.and_eq_true, Bool.or_eq_true, Bool.not_eq_true']
    by_cases moved : header.moved = true
    · -- no scope is opened, so names inside would be shorter than in the straight layout
      have none : inside.isDocumented = false := by
        rcases legible.1.1 with own | none
        · refine undocumented_of_seen (nil_of_shorter (shorter_seen legible.1.2 ?_ _ _) inner)
          rw [Header.opened_straight own, Header.opened, if_pos moved]
          simp
        · exact (Bool.or_eq_false_iff.1 none).2
      have empty := (seen_of_undocumented none i around).1
      have empty' := (seen_of_undocumented (inside.isDocumented_straight.trans none) j around).1
      exact ⟨⟨⟨marked, .inr none⟩, ihInside legible.1.2 (by rw [empty, empty'])⟩,
        ihNext legible.2 later⟩
    · rw [opened_of_unmoved (by simpa using moved)] at inner
      exact ⟨⟨⟨marked, .inl (by simpa using moved)⟩, ihInside legible.1.2 inner⟩,
        ihNext legible.2 later⟩

end Forest

def IsSegment (name : Line) : Prop := name ≠ [] ∧ '.' ∉ name

theorem isSegment_of_ofLine? {line : Line} {d : Declaration}
    (found : Declaration.ofLine? line = some d) : IsSegment d.name := by
  have word := Declaration.name_of_ofLine? found
  exact ⟨word.1, fun dot => absurd (word.2 '.' dot) (by decide)⟩

theorem isSegment_of_declaredBelow (ls : List Line) : ∀ name ∈ declaredBelow ls, IsSegment name := by
  induction ls with
  | nil => simp [declaredBelow]
  | cons line rest ih =>
    rw [declaredBelow]
    split
    · exact ih
    · intro name found
      rw [Option.mem_def, declaredBy, Option.filter_eq_some_iff, Option.map_eq_some_iff] at found
      obtain ⟨⟨d, read, rfl⟩, -⟩ := found
      exact isSegment_of_ofLine? read

theorem isSegment_of_opened (header : Header) : ∀ name ∈ header.opened, IsSegment name := by
  intro name found
  rw [Header.opened] at found
  split at found
  · simp at found
  · rw [openedBy, Option.mem_def, Option.map_eq_some_iff] at found
    obtain ⟨d, read, rfl⟩ := found
    exact isSegment_of_ofLine? (Option.filter_eq_some_iff.1 read).1

theorem Mark.isSegment_of_seen {first : Line} {around : List Line}
    (outer : ∀ name ∈ around, IsSegment name) {ms : List Mark} {index : Nat} {fresh : Bool} :
    ∀ run ∈ Mark.seen around first index fresh ms, ∀ name ∈ run.2, IsSegment name := by
  induction ms generalizing index fresh with
  | nil => simp [seen]
  | cons m ms ih =>
    cases m with
    | doc body three =>
      intro run member
      rcases List.mem_append.1 member with own | later
      · cases fresh with
        | false => simp at own
        | true =>
          obtain rfl := List.mem_singleton.1 own
          intro name inside
          rcases List.mem_append.1 inside with above | below
          · exact outer name above
          · exact isSegment_of_declaredBelow _ name (Option.mem_toList.1 below)
      · exact ih run later
    | tag a => exact ih

theorem Forest.isSegment_of_seen {forest : Forest} {index : Nat} {around : List Line}
    (outer : ∀ name ∈ around, IsSegment name) :
    ∀ run ∈ forest.seen index around, ∀ name ∈ run.2, IsSegment name := by
  induction forest generalizing index around with
  | nil => simp [seen]
  | blank next ih => exact ih outer
  | leaf marks item next ih =>
    intro run member
    rcases List.mem_append.1 member with own | later
    · exact Mark.isSegment_of_seen outer run own
    · exact ih outer run later
  | block marks header inside next ihInside ihNext =>
    intro run member
    rcases List.mem_append.1 member with front | later
    · rcases List.mem_append.1 front with own | inner
      · exact Mark.isSegment_of_seen outer run own
      · refine ihInside (fun name inside => ?_) run inner
        rcases List.mem_append.1 inside with above | opened
        · exact outer name above
        · exact isSegment_of_opened header name (Option.mem_toList.1 opened)
    · exact ihNext outer run later

theorem joinWith_injOn {xs ys : List Line} (left : ∀ name ∈ xs, IsSegment name)
    (right : ∀ name ∈ ys, IsSegment name) (same : joinWith '.' xs = joinWith '.' ys) : xs = ys := by
  have none : ∀ {names : List Line}, (∀ name ∈ names, IsSegment name) →
      joinWith '.' names = [] → names = [] := by
    intro names segments empty
    cases names with
    | nil => rfl
    | cons name more =>
      have present := (segments name List.mem_cons_self).1
      cases more <;> simp [joinWith, present] at empty
  by_cases first : xs = []
  · subst first
    exact (none right same.symm).symm
  · by_cases second : ys = []
    · subst second
      exact none left same
    · rw [← splitOn_joinWith first fun name member => (left name member).2, same,
        splitOn_joinWith second fun name member => (right name member).2]

theorem dotted_injOn {package xs ys : List Line} (left : ∀ name ∈ xs, IsSegment name)
    (right : ∀ name ∈ ys, IsSegment name) (same : dotted package xs = dotted package ys) :
    xs = ys := by
  by_cases top : package = []
  · subst top
    exact joinWith_injOn left right same
  · have behind : ∀ {names : List Line}, names ≠ [] →
        dotted package names = joinWith '.' package ++ '.' :: joinWith '.' names :=
      fun some => joinWith_append top some
    have package? : dotted package [] = joinWith '.' package := by rw [dotted, List.append_nil]
    by_cases first : xs = []
    · by_cases second : ys = []
      · rw [first, second]
      · rw [first, package?, behind second] at same
        simp at same
    · by_cases second : ys = []
      · rw [second, package?, behind first] at same
        simp at same
      · rw [behind first, behind second] at same
        exact joinWith_injOn left right (List.cons.inj (List.append_cancel_left same)).2

theorem map_dotted_injOn {package : List Line} {xss yss : List (List Line)}
    (left : ∀ names ∈ xss, ∀ name ∈ names, IsSegment name)
    (right : ∀ names ∈ yss, ∀ name ∈ names, IsSegment name)
    (same : xss.map (dotted package) = yss.map (dotted package)) : xss = yss := by
  induction xss generalizing yss with
  | nil => exact (List.map_eq_nil_iff.1 same.symm).symm
  | cons xs xss ih =>
    cases yss with
    | nil => simp at same
    | cons ys yss =>
      obtain ⟨first, later⟩ := List.cons.inj same
      rw [dotted_injOn (left xs List.mem_cons_self) (right ys List.mem_cons_self) first,
        ih (fun names member => left names (List.mem_cons_of_mem _ member))
          (fun names member => right names (List.mem_cons_of_mem _ member)) later]

/-- A steady layout of a source leaves its declarations as they are, and of a legible source no other
layout does. -/
theorem declarations_of_layout (package : List Line) {forest : Forest} {source laid : List Char}
    (written : (lines source).map trim = forest.straight.lines)
    (layout : (lines laid).map trim = forest.lines) :
    (forest.isSteady = true → (docComments package laid).map (·.declaration) =
      (docComments package source).map (·.declaration)) ∧
    (forest.isLegible = true → (docComments package laid).map (·.declaration) =
      (docComments package source).map (·.declaration) → forest.isSteady = true) := by
  have declarations : ∀ {forest : Forest} {source : List Char},
      (lines source).map trim = forest.lines → (docComments package source).map (·.declaration) =
        ((forest.seen 0 []).map Prod.snd).map (dotted package) := by
    intro forest source written
    have places := congrArg (List.map Prod.snd) (Forest.docComments_of_lines package written)
    rw [List.map_map, List.map_map] at places
    rw [List.map_map]
    exact places
  have segments : ∀ forest : Forest, ∀ names ∈ (forest.seen 0 []).map Prod.snd,
      ∀ name ∈ names, IsSegment name := by
    intro forest names member
    obtain ⟨run, inside, rfl⟩ := List.mem_map.1 member
    exact Forest.isSegment_of_seen (by simp) run inside
  rw [declarations layout, declarations written]
  refine ⟨fun steady => by rw [Forest.seen_of_steady steady 0 0], fun legible same => ?_⟩
  exact Forest.steady_of_seen legible (map_dotted_injOn (segments _) (segments _) same)

def laidShape : Forest :=
  .block [.tag (.listed { tokens := plainTokens "derive" }
        [{ tokens := plainTokens "Clone" }, { tokens := plainTokens "Debug" }] (some true)),
      .doc " A shape of any size.".toList]
    Forest.shapeHeader
    (.leaf [.doc " How large it is.".toList]
      (.field {
        visibility := .everywhere, name := { chars := "size".toList }
        type := { tokens := plainTokens " Option<T>," } }) .nil)
    (.block [.doc " Circles are round.".toList]
      { head := .implementation {
          generics := some { tokens := plainTokens "R" }, path := some { tokens := plainTokens "Round" }
          type := { chars := "Circle".toList }, behind := { tokens := plainTokens "<R>" } }
        clauses := [{ tokens := plainTokens "where" }, { tokens := plainTokens "R: Clone," }]
        moved := true }
      (.leaf []
        (.constant {
          visibility := .inherited, name := { chars := "SIDES".toList }
          value := { tokens := plainTokens " u8 = 0;" } }) .nil)
      .nil)

def brokenShape : Forest :=
  .block [.doc " A shape of any size.".toList, .tag (.listed { tokens := plainTokens "derive" }
        [{ tokens := plainTokens "Clone" }, { tokens := plainTokens "Debug" }] (some true))]
    Forest.shapeHeader .nil .nil

theorem declarations_of_laidShape :
    let source := unlines laidShape.straight.lines
    let laid := unlines laidShape.lines
    let broken := unlines brokenShape.lines
    ((lines source).map trim = laidShape.straight.lines ∧ (lines laid).map trim = laidShape.lines ∧
      laidShape.isSteady = true) ∧
    (docComments [] laid).map (·.declaration) = (docComments [] source).map (·.declaration) ∧
    brokenShape.isLegible = true ∧ (docComments [] broken).map (·.declaration) ≠
      (docComments [] (unlines brokenShape.straight.lines)).map (·.declaration) := by
  have written : (lines (unlines laidShape.straight.lines)).map trim = laidShape.straight.lines := by
    decide +kernel
  have layout : (lines (unlines laidShape.lines)).map trim = laidShape.lines := by decide +kernel
  have steady : laidShape.isSteady = true := by decide +kernel
  have legible : brokenShape.isLegible = true := by decide
  have whole : (lines (unlines brokenShape.straight.lines)).map trim = brokenShape.straight.lines := by
    decide +kernel
  have cut : (lines (unlines brokenShape.lines)).map trim = brokenShape.lines := by decide +kernel
  have unsteady : brokenShape.isSteady = false := by decide +kernel
  refine ⟨⟨written, layout, steady⟩, (declarations_of_layout [] written layout).1 steady, legible,
    fun same => ?_⟩
  rw [(declarations_of_layout [] whole cut).2 legible same] at unsteady
  contradiction

theorem not_same_of_broken_attribute :
    ¬ ∀ (package : List Line) (forest : Forest) (source laid : List Char), forest.isLegible = true →
      (lines source).map trim = forest.straight.lines → (lines laid).map trim = forest.lines →
        (docComments package laid).map (·.declaration) =
          (docComments package source).map (·.declaration) := by
  intro law
  have same := law [] brokenShape (unlines brokenShape.straight.lines) (unlines brokenShape.lines)
    (by decide) (by decide +kernel) (by decide +kernel)
  have argument : (docComments [] (unlines brokenShape.lines)).map (·.declaration) =
      ["Clone".toList] := by decide +kernel
  have item : (docComments [] (unlines brokenShape.straight.lines)).map (·.declaration) =
      ["Shape".toList] := by decide +kernel
  exact absurd ((argument.symm.trans same).trans item) (by decide)

end ProtoModules.Source
