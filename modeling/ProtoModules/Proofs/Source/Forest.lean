import ProtoModules.Proofs.Source.Headers

/-! Sources as forests of documented items: blocks nested to any depth and the members in them, with
documentation and attributes above each. A forest is written one construct to a line, except where
the arguments of an attribute or the brace of a header have lines of their own. -/

namespace ProtoModules.Source
open Text

/-- Arguments with the commas between them, and with one behind the last if it is `trailing`. -/
def separated (trailing : Bool) : List Code → List Code
  | [] => []
  | [last] => [if trailing then last.comma else last]
  | argument :: rest => argument.comma :: separated trailing rest

/-- An attribute above an item. Broken arguments have a line each, the last with a comma or without. -/
inductive Attribute where
  | plain (content : Code) (level : content.isLevel = true := by decide)
  | listed (path : Code) (arguments : List Code) (broken : Option Bool := none)
      (level : (path :: arguments).all Code.isLevel = true := by decide)

namespace Attribute

def lines : Attribute → List Line
  | plain content _ => ["#[".toList ++ (content.text ++ [']'])]
  | listed path arguments (some trailing) _ =>
    ("#[".toList ++ (path.text ++ ['('])) ::
      ((separated trailing arguments).map Code.text ++ [")]".toList])
  | listed path arguments none _ =>
    ["#[".toList ++ (path.text ++ '(' ::
      (joinWith ' ' ((separated false arguments).map Code.text) ++ ")]".toList))]

def straight : Attribute → Attribute
  | plain content level => plain content level
  | listed path arguments _ level => listed path arguments none level

end Attribute

inductive Mark where
  | doc (body : Line) (three : body.head? ≠ some '/' := by decide)
  | tag (a : Attribute)

namespace Mark

def lines : Mark → List Line
  | doc body _ => [docMark ++ body]
  | tag a => a.lines

def straight : Mark → Mark
  | doc body three => doc body three
  | tag a => tag a.straight

def isDoc : Mark → Bool
  | doc _ _ => true
  | tag _ => false

/-- The lines that a run of documentation starts on; `fresh` tells that none goes on before the marks. -/
def starts : (index : Nat) → (fresh : Bool) → List Mark → List Nat
  | _, _, [] => []
  | index, fresh, doc _ _ :: rest => (if fresh then [index] else []) ++ starts (index + 1) false rest
  | index, _, tag a :: rest => starts (index + a.lines.length) true rest

end Mark

inductive Forest where
  | nil
  | blank (next : Forest)
  | leaf (marks : List Mark) (item : Leaf) (next : Forest)
  | block (marks : List Mark) (header : Header) (inside next : Forest)

namespace Forest

def lines : Forest → List Line
  | nil => []
  | blank next => [] :: next.lines
  | leaf marks item next => marks.flatMap Mark.lines ++ (item.lines ++ next.lines)
  | block marks header inside next =>
    marks.flatMap Mark.lines ++ (header.lines ++ (inside.lines ++ ['}'] :: next.lines))

def straight : Forest → Forest
  | nil => nil
  | blank next => blank next.straight
  | leaf marks item next => leaf (marks.map Mark.straight) item next.straight
  | block marks header inside next =>
    block (marks.map Mark.straight) header.straight inside.straight next.straight

def isDocumented : Forest → Bool
  | nil => false
  | blank next => next.isDocumented
  | leaf marks _ next => marks.any Mark.isDoc || next.isDocumented
  | block marks _ inside next => marks.any Mark.isDoc || inside.isDocumented || next.isDocumented

/-- What is documented, and what holds documentation, is legible. -/
def isLegible : Forest → Bool
  | nil => true
  | blank next => next.isLegible
  | leaf marks item next => (item.isLegible || !marks.any Mark.isDoc) && next.isLegible
  | block marks header inside next =>
    (header.isLegible || !(marks.any Mark.isDoc || inside.isDocumented)) && inside.isLegible &&
      next.isLegible

/-- The runs of documentation, each by its first line and by the names from the outermost block to the
item below it. -/
def attributed : (index : Nat) → (around : List Line) → Forest → List (Nat × List Line)
  | _, _, nil => []
  | index, around, blank next => next.attributed (index + 1) around
  | index, around, leaf marks item next =>
    let behind := index + (marks.flatMap Mark.lines).length + item.lines.length
    (Mark.starts index true marks).map (·, around ++ [item.name.chars]) ++
      next.attributed behind around
  | index, around, block marks header inside next =>
    let within := around ++ [header.head.name.chars]
    let first := index + (marks.flatMap Mark.lines).length + header.lines.length
    (Mark.starts index true marks).map (·, within) ++ inside.attributed first within ++
      next.attributed (first + inside.lines.length + 1) around

end Forest

theorem isLevel_separated (trailing : Bool) {codes : List Code}
    (level : codes.all Code.isLevel = true) : (separated trailing codes).all Code.isLevel = true := by
  induction codes with
  | nil => rfl
  | cons code more ih =>
    simp only [List.all_cons, Bool.and_eq_true] at level
    cases more with
    | nil => cases trailing <;> simp [separated, level.1, Code.isLevel_comma level.1]
    | cons next rest =>
      rw [separated, List.all_cons, Code.isLevel_comma level.1, ih level.2]
      · rfl
      · simp

theorem isLevel_joinWith {codes : List Code} (level : codes.all Code.isLevel = true) :
    IsLevel (joinWith ' ' (codes.map Code.text)) := by
  induction codes with
  | nil => exact isLevel_of_quiet rfl
  | cons code more ih =>
    simp only [List.all_cons, Bool.and_eq_true] at level
    have own := Code.isLevel_text level.1
    cases more with
    | nil => exact own
    | cons next rest => exact own.append ((ih level.2).cons (by decide)) (by simp)

theorem Attribute.isLevel_of_mem (a : Attribute) : ∀ line ∈ a.lines, IsLevel line := by
  intro line member
  cases a with
  | plain content level =>
    obtain rfl := List.mem_singleton.1 member
    exact ((Code.isLevel_text level).append (isLevel_of_quiet rfl) (by decide)).quiet_append rfl
  | listed path arguments broken level =>
    simp only [List.all_cons, Bool.and_eq_true] at level
    have path := Code.isLevel_text level.1
    cases broken with
    | none =>
      obtain rfl := List.mem_singleton.1 member
      have closing : IsLevel ")]".toList := isLevel_of_quiet (by decide)
      have inner := (isLevel_joinWith (isLevel_separated false level.2)).append closing (by decide)
      exact (path.append (inner.cons (by decide)) (by simp)).quiet_append rfl
    | some trailing =>
      have arguments := isLevel_separated trailing level.2
      rcases List.mem_cons.1 member with rfl | behind
      · exact (path.append (isLevel_of_quiet rfl) (by decide)).quiet_append rfl
      · rcases List.mem_append.1 behind with argument | bracket
        · obtain ⟨code, inside, rfl⟩ := List.mem_map.1 argument
          exact Code.isLevel_text (List.all_eq_true.1 arguments code inside)
        · obtain rfl := List.mem_singleton.1 bracket
          exact isLevel_of_quiet rfl

theorem Attribute.isDocLine_of_mem (a : Attribute) : ∀ line ∈ a.lines, isDocLine line = false := by
  have marked : ∀ s : Line, isDocLine ("#[".toList ++ s) = false := fun s =>
    isDocLine_eq_false (by simp; decide) (by simp)
  intro line member
  cases a with
  | plain content level =>
    obtain rfl := List.mem_singleton.1 member
    exact marked _
  | listed path arguments broken level =>
    cases broken with
    | none =>
      obtain rfl := List.mem_singleton.1 member
      exact marked _
    | some trailing =>
      rcases List.mem_cons.1 member with rfl | behind
      · exact marked _
      · rcases List.mem_append.1 behind with argument | bracket
        · obtain ⟨code, -, rfl⟩ := List.mem_map.1 argument
          exact code.isDocLine_text
        · obtain rfl := List.mem_singleton.1 bracket
          decide

theorem Attribute.lines_ne_nil (a : Attribute) : a.lines ≠ [] := by
  cases a with
  | plain content level => simp [lines]
  | listed path arguments broken level => cases broken <;> simp [lines]

theorem isDocLine_doc {body : Line} (three : body.head? ≠ some '/') :
    isDocLine (docMark ++ body) = true :=
  @isDocLine_docLine [] (by simp) body three

end ProtoModules.Source
