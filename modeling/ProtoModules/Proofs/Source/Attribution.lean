import ProtoModules.Proofs.Source.Seen

/-! What the documentation of a legible forest is about: the package, the blocks around it from the
outermost in, and the item below it. -/

namespace ProtoModules.Source
open Text

theorem declaredBy_eq_some {line : Line} {d : Declaration} (found : Declaration.ofLine? line = some d)
    (present : d.name ≠ []) : declaredBy line = some d.name := by
  have named : d.name.isEmpty = false := by simpa using present
  simp [declaredBy, found, Option.filter, named]

namespace Mark

theorem any_isDoc_straight (ms : List Mark) : (ms.map straight).any isDoc = ms.any isDoc := by
  rw [List.any_map]
  congr 1
  funext m
  cases m <;> rfl

theorem declaredBelow_straight {first : Line} (plain : isDocLine first = false)
    (code : Scan.isAttribute first = false) (ms : List Mark) :
    declaredBelow ((ms.map straight).flatMap lines ++ [first]) = declaredBy first := by
  induction ms with
  | nil => simp [declaredBelow, plain, code]
  | cons m ms ih =>
    cases m with
    | doc body three =>
      rw [List.map_cons, List.flatMap_cons, straight, lines, List.append_assoc, List.singleton_append,
        declaredBelow, isDocLine_doc three, Bool.true_or, if_pos rfl, ih]
    | tag a =>
      obtain ⟨line, single, skipped⟩ : ∃ line, a.straight.lines = [line] ∧
          Scan.isAttribute line = true := by
        cases a <;> exact ⟨_, rfl, rfl⟩
      rw [List.map_cons, List.flatMap_cons, straight, lines, single, List.append_assoc,
        List.singleton_append, declaredBelow, skipped, Bool.or_true, if_pos rfl, ih]

theorem seen_straight {first name : Line} (plain : isDocLine first = false)
    (code : Scan.isAttribute first = false) (declared : declaredBy first = some name)
    (around : List Line) (ms : List Mark) (index : Nat) (fresh : Bool) :
    seen around first index fresh (ms.map straight) =
      (starts index fresh (ms.map straight)).map (·, around ++ [name]) := by
  induction ms generalizing index fresh with
  | nil => rfl
  | cons m ms ih =>
    cases m with
    | doc body three =>
      rw [List.map_cons, straight, seen, starts, declaredBelow_straight plain code, declared, ih,
        List.map_append]
      cases fresh <;> rfl
    | tag a => exact ih _ _

theorem seen_of_undocumented {ms : List Mark} (none : ms.any isDoc = false) (around : List Line)
    (first : Line) (index : Nat) (fresh : Bool) :
    seen around first index fresh ms = [] ∧ starts index fresh ms = [] := by
  induction ms generalizing index fresh with
  | nil => exact ⟨rfl, rfl⟩
  | cons m ms ih =>
    cases m with
    | doc body three => simp [isDoc] at none
    | tag a => exact ih none _ _

end Mark

namespace Forest

theorem isDocumented_straight (forest : Forest) :
    forest.straight.isDocumented = forest.isDocumented := by
  induction forest with
  | nil => rfl
  | blank next ih => exact ih
  | leaf marks item next ih => simp only [straight, isDocumented, Mark.any_isDoc_straight, ih]
  | block marks header inside next ihInside ihNext =>
    simp only [straight, isDocumented, Mark.any_isDoc_straight, ihInside, ihNext]

theorem seen_of_undocumented {forest : Forest} (none : forest.isDocumented = false) (index : Nat)
    (around : List Line) : forest.seen index around = [] ∧ forest.attributed index around = [] := by
  induction forest generalizing index around with
  | nil => exact ⟨rfl, rfl⟩
  | blank next ih => exact ih none _ _
  | leaf marks item next ih =>
    rw [isDocumented, Bool.or_eq_false_iff] at none
    have marked := Mark.seen_of_undocumented none.1 around item.first index true
    simp [seen, attributed, marked, ih none.2]
  | block marks header inside next ihInside ihNext =>
    rw [isDocumented, Bool.or_eq_false_iff, Bool.or_eq_false_iff] at none
    have marked := Mark.seen_of_undocumented none.1.1 around header.first index true
    simp [seen, attributed, marked, ihInside none.1.2, ihNext none.2]

theorem seen_straight {forest : Forest} (legible : forest.isLegible = true) (index : Nat)
    (around : List Line) :
    forest.straight.seen index around = forest.straight.attributed index around := by
  induction forest generalizing index around with
  | nil => rfl
  | blank next ih => exact ih legible _ _
  | leaf marks item next ih =>
    rw [isLegible, Bool.and_eq_true, Bool.or_eq_true, Bool.not_eq_true'] at legible
    rw [straight, seen, attributed, ih legible.2]
    congr 1
    rcases legible.1 with own | none
    · have declared := declaredBy_eq_some (Leaf.ofLine?_first own) item.name.present
      exact Mark.seen_straight (item.isDocLine_of_mem _ List.mem_cons_self)
        (isAttribute_of_begins item.begins_first) declared around marks index true
    · rw [← Mark.any_isDoc_straight] at none
      have marked := Mark.seen_of_undocumented none around item.first index true
      rw [marked.1, marked.2]
      rfl
  | block marks header inside next ihInside ihNext =>
    simp only [isLegible, Bool.and_eq_true, Bool.or_eq_true, Bool.not_eq_true'] at legible
    rcases legible.1.1 with own | none
    · have read := @Header.ofLine?_line header own
      have declared : declaredBy header.straight.first = some header.head.name.chars :=
        declaredBy_eq_some read header.head.name.present
      have opened : header.straight.opened = some header.head.name.chars :=
        Header.opened_straight own
      have marked := fun index => Mark.seen_straight header.straight.isDocLine_first
        (isAttribute_of_begins header.straight.begins_first) declared around marks index true
      simp only [straight, seen, attributed, opened, Option.toList_some, ihInside legible.1.2,
        ihNext legible.2, marked]
      rfl
    · rw [Bool.or_eq_false_iff, ← Mark.any_isDoc_straight, ← isDocumented_straight] at none
      have marked := fun index =>
        Mark.seen_of_undocumented none.1 around header.straight.first index true
      have inner := fun index around => seen_of_undocumented none.2 index around
      simp only [straight, seen, attributed, ihNext legible.2, marked, inner]
      rfl

/-- The comments of a legible source belong to the names around them: every run of documentation, by
the line it starts on, is about the package, the blocks from the outermost in, and the item below. -/
theorem docComments_of_forest (package : List Line) {forest : Forest}
    (legible : forest.isLegible = true) {source : List Char}
    (written : (Text.lines source).map trim = forest.straight.lines) :
    (docComments package source).map (fun c => (c.start, c.declaration)) =
      (forest.straight.attributed 0 []).map (place package) := by
  rw [docComments_of_lines package written, seen_straight legible]

def shapeHeader : Header where
  head := .scope {
    visibility := .everywhere, word := "struct", name := { chars := "Shape".toList }
    behind := { tokens := plainTokens "<T>" } }
  clauses := [{ tokens := plainTokens "where T: Clone," }]

def shapeBlock (next : Forest) : Forest :=
  .block [.doc " A shape.".toList, .tag (.plain { tokens := plainTokens "must_use" }),
      .doc " With a tag.".toList]
    shapeHeader
    (.leaf [.tag (.listed { tokens := plainTokens "prost" }
          [{ tokens := plainTokens "tag = " ++ [.literal ['{']] },
            { tokens := plainTokens "optional" }]),
        .doc " Its kind.".toList]
      (.field {
        visibility := .within "crate".toList (by decide)
        name := { raw := true, chars := "type".toList }, type := { tokens := plainTokens " T," } }) .nil)
    next

def implBlock (next : Forest) : Forest :=
  .block []
    { head := .implementation {
        generics := some { tokens := plainTokens "T" }
        path := some { tokens := plainTokens "From<T>" }, type := { chars := "Shape".toList }
        behind := { tokens := plainTokens "<T>" } } }
    (.leaf [.doc " Made of its kind.".toList]
      (.function {
        visibility := .inherited, name := { chars := "from".toList }
        signature := { tokens := plainTokens "(t: T) -> Self \x7b" }
        body := [
          { code := { tokens := plainTokens "log(" ++ [.literal ['}', '}']] ++ plainTokens "); " }
            remark := some " \x7d or not".toList },
          { code := { tokens := plainTokens "\x7d" } }] }) .nil)
    next

def shapes : Forest :=
  .block [.doc " Shapes \x7b of all kinds.".toList]
    { head := .scope {
        visibility := .everywhere, word := "mod", name := { chars := "shapes".toList }
        behind := { tokens := [] } } }
    (shapeBlock (.blank (implBlock (.block []
      { head := .scope {
          visibility := .everywhere, word := "enum", name := { chars := "Kind".toList }
          behind := { tokens := [] } } }
      (.leaf [.doc " None.".toList]
        (.variant {
          name := { chars := "Unspecified".toList }, gap := true, mark := '='
          value := { tokens := plainTokens " 0," } }) .nil)
      .nil))))
    .nil

def shapesSource : List Char := unlines [
  "/// Shapes \x7b of all kinds.".toList,
  "pub mod shapes \x7b".toList,
  "    /// A shape.".toList,
  "    #[must_use]".toList,
  "    /// With a tag.".toList,
  "    pub struct Shape<T> where T: Clone, \x7b".toList,
  "        #[prost(tag = \"\x7b\", optional)]".toList,
  "        /// Its kind.".toList,
  "        pub(crate) r#type: T,".toList,
  "    \x7d".toList,
  "".toList,
  "    impl<T> From<T> for Shape<T> \x7b".toList,
  "        /// Made of its kind.".toList,
  "        fn from(t: T) -> Self \x7b".toList,
  "            log(\"\x7d\x7d\"); // \x7d or not".toList,
  "        \x7d".toList,
  "    \x7d".toList,
  "    pub enum Kind \x7b".toList,
  "        /// None.".toList,
  "        Unspecified = 0,".toList,
  "    \x7d".toList,
  "\x7d".toList]

theorem docComments_of_shapes :
    shapes.isLegible = true ∧ (Text.lines shapesSource).map trim = shapes.straight.lines ∧
    (docComments ["pkg".toList] shapesSource).map (fun c => (c.start, c.declaration)) =
      [(0, "pkg.shapes".toList), (2, "pkg.shapes.Shape".toList), (4, "pkg.shapes.Shape".toList),
        (7, "pkg.shapes.Shape.type".toList), (12, "pkg.shapes.Shape.from".toList),
        (18, "pkg.shapes.Kind.Unspecified".toList)] := by
  have legible : shapes.isLegible = true := by decide
  have written : (Text.lines shapesSource).map trim = shapes.straight.lines := by decide +kernel
  exact ⟨legible, written,
    (docComments_of_forest ["pkg".toList] legible written).trans (by decide +kernel)⟩

def rawBlock : Forest :=
  .block []
    { head := .implementation {
        type := { raw := true, chars := "type".toList }, behind := { tokens := [] } } }
    (.leaf [.doc " Doc.".toList]
      (.function {
        visibility := .everywhere, name := { chars := "get".toList }
        signature := { tokens := plainTokens "() \x7b" }
        body := [{ code := { tokens := plainTokens "\x7d" } }] }) .nil)
    .nil

theorem not_attributed_of_raw_type :
    ¬ ∀ (package : List Line) (forest : Forest) (source : List Char),
      (Text.lines source).map trim = forest.straight.lines →
        (docComments package source).map (fun c => (c.start, c.declaration)) =
          (forest.straight.attributed 0 []).map (place package) := by
  intro law
  have written : (Text.lines (unlines rawBlock.lines)).map trim = rawBlock.straight.lines := by
    decide +kernel
  have read : (docComments ["pkg".toList] (unlines rawBlock.lines)).map (·.declaration) =
      ["pkg.r.get".toList] := by decide +kernel
  have wanted : (rawBlock.straight.attributed 0 []).map (fun run => dotted ["pkg".toList] run.2) =
      ["pkg.type.get".toList] := by decide +kernel
  have same := congrArg (List.map Prod.snd) (law ["pkg".toList] rawBlock _ written)
  rw [List.map_map, List.map_map] at same
  exact absurd ((read.symm.trans same).trans wanted) (by decide)

end Forest

end ProtoModules.Source
