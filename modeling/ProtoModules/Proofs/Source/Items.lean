import Mathlib.Data.List.Forall2
import ProtoModules.Proofs.Source.Members
import ProtoModules.Proofs.Source.Nesting

/-! Items of a source in the lines they are written in: fields, variants, constants and functions with
their bodies, and the headers of blocks. Their lines balance, no line of theirs is documentation, and
the first line declares the name of a legible item. -/

namespace ProtoModules.Source
open Text

theorem quiet_of_ascii {s : Line} (ascii : s.all isNameChar = true) : s.all isQuiet = true := by
  rw [List.all_eq_true] at ascii ⊢
  intro c member
  have range := isNameChar_iff.1 (ascii c member)
  have other : ∀ d : Char, c = d ↔ c.toNat = d.toNat := fun d => Char.toNat_inj.symm
  have slash : '/'.toNat = 0x2f ∧ '"'.toNat = 0x22 ∧ '{'.toNat = 0x7b ∧ '}'.toNat = 0x7d := by decide
  simp only [isQuiet, Bool.and_eq_true, bne_iff_ne, ne_eq, other, slash]
  omega

theorem Ident.quiet (name : Ident) : name.text.all isQuiet = true := by
  have plain := quiet_of_ascii name.ascii
  rw [Ident.text]
  split
  · rw [List.all_cons, List.all_cons, plain]
    rfl
  · exact plain

theorem Visibility.quiet (v : Visibility) : v.text.all isQuiet = true := by
  cases v with
  | inherited => rfl
  | everywhere => rfl
  | within scope plain =>
    have inner : scope.all isQuiet = true := by
      rw [List.all_eq_true] at plain ⊢
      intro c member
      have known := plain c member
      rw [Bool.or_eq_true, Bool.or_eq_true] at known
      rcases known with (letter | colon) | blank
      · exact List.all_eq_true.1 (@quiet_of_ascii [c] (by simpa using letter)) c (by simp)
      · obtain rfl := beq_iff_eq.1 colon
        decide
      · obtain rfl := beq_iff_eq.1 blank
        decide
    rw [Visibility.text, List.all_append, List.all_append, inner]
    rfl

theorem quiet_optional (given : Bool) {word : String} (own : word.toList.all isQuiet = true) :
    (optional given word).all isQuiet = true := by
  cases given with
  | false => rfl
  | true => rw [optional, if_pos rfl, List.all_append, own]; rfl

structure Field where
  visibility : Visibility
  name : Ident
  /-- The type with the comma behind it. -/
  type : Code
  small : name.chars.head?.any Declaration.isSmall = true := by decide
  single : type.text.head? ≠ some ':' := by decide
  level : type.isLevel = true := by decide

/-- A variant without fields of its own, with its value, or with types in brackets. -/
structure Variant where
  name : Ident
  gap : Bool := false
  mark : Char
  value : Code
  capital : name.chars.head?.any isUpper = true := by decide
  marked : mark ∈ ['=', ',', '('] := by decide
  level : value.isLevel = true := by decide

structure Constant where
  visibility : Visibility
  name : Ident
  value : Code
  level : value.isLevel = true := by decide

structure BodyLine where
  code : Code
  remark : Option Line := none
  plain : isDocLine (code.text ++ remark.elim [] (['/', '/'] ++ ·)) = false := by decide

structure Function where
  visibility : Visibility
  constant : Bool := false
  asynchronous : Bool := false
  dangerous : Bool := false
  /-- The name of a foreign calling convention, a literal. -/
  convention : Option Code := none
  name : Ident
  signature : Code
  body : List BodyLine
  bracket : signature.text.head?.all (fun c => c == '(' || c == '<') = true := by decide
  level : convention.all Code.isLevel = true := by decide
  balanced : balances 0 (signature.outline :: body.map fun line => line.code.outline) = true := by decide

inductive Leaf where
  | field (item : Field)
  | variant (item : Variant)
  | constant (item : Constant)
  | function (item : Function)

def BodyLine.text (line : BodyLine) : Line :=
  line.code.text ++ line.remark.elim [] (['/', '/'] ++ ·)

def Function.qualifiers (f : Function) : Line :=
  optional f.constant "const" ++ (optional f.asynchronous "async" ++
    (optional f.dangerous "unsafe" ++ f.convention.elim [] fun c => "extern ".toList ++ c.text ++ [' ']))

namespace Leaf

def name : Leaf → Ident
  | field item => item.name
  | variant item => item.name
  | constant item => item.name
  | function item => item.name

def front : Leaf → Line
  | field item => item.visibility.text ++ (item.name.text ++ [':'])
  | variant item => item.name.text ++ ((if item.gap then [' '] else []) ++ [item.mark])
  | constant item => item.visibility.text ++ ("const ".toList ++ (item.name.text ++ [':']))
  | function item => item.visibility.text ++ (item.qualifiers ++ ("fn ".toList ++ item.name.text))

def code : Leaf → Code
  | field item => item.type
  | variant item => item.value
  | constant item => item.value
  | function item => item.signature

def body : Leaf → List BodyLine
  | function item => item.body
  | _ => []

def first (item : Leaf) : Line := item.front ++ item.code.text

def lines (item : Leaf) : List Line := item.first :: item.body.map BodyLine.text

/-- A raw variant is not read by its name, and neither is a function of a foreign convention. -/
def isLegible : Leaf → Bool
  | variant item => !item.name.raw
  | function item => item.convention.isNone
  | _ => true

end Leaf

theorem BodyLine.same_braces (line : BodyLine) :
    (Declaration.codePart line.text).count '{' + line.code.outline.count '}' =
      line.code.outline.count '{' + (Declaration.codePart line.text).count '}' := by
  have counts : ∀ b, b ≠ '/' →
      (Declaration.codePart line.text).count b = line.code.outline.count b := by
    intro b other
    rw [text]
    cases line.remark with
    | none =>
      have nothing : Declaration.codePart [] = [] := rfl
      rw [Option.elim_none, codePart_append line.code (by simp), nothing, List.append_nil]
    | some remark => exact count_codePart_remark line.code remark other
  rw [counts '{' (by decide), counts '}' (by decide), Nat.add_comm]

theorem Function.isLevel_qualifiers (f : Function) : IsLevel f.qualifiers := by
  have foreign : IsLevel (f.convention.elim [] fun c => "extern ".toList ++ c.text ++ [' ']) := by
    cases given : f.convention with
    | none => exact isLevel_of_quiet rfl
    | some c =>
      have level : c.isLevel = true := by simpa [given] using f.level
      have blank : IsLevel (c.text ++ [' ']) :=
        (Code.isLevel_text level).append (isLevel_of_quiet rfl) (by decide)
      rw [Option.elim_some, List.append_assoc]
      exact blank.quiet_append rfl
  exact ((foreign.quiet_append (quiet_optional _ rfl)).quiet_append (quiet_optional _ rfl)).quiet_append
    (quiet_optional _ rfl)

theorem Function.begins_qualifiers (f : Function) (behind : Line) :
    Begins (f.qualifiers ++ ("fn ".toList ++ behind)) := by
  have foreign : Begins ((f.convention.elim [] fun c => "extern ".toList ++ c.text ++ [' ']) ++
      ("fn ".toList ++ behind)) := by
    cases f.convention <;> exact rfl
  have qualified := ((foreign.optional f.dangerous (show Begins "unsafe".toList from rfl)).optional
    f.asynchronous (show Begins "async".toList from rfl)).optional
    f.constant (show Begins "const".toList from rfl)
  rwa [qualifiers, List.append_assoc, List.append_assoc, List.append_assoc]

theorem Function.text_of_native {f : Function} (native : f.convention = none) (behind : Line) :
    f.qualifiers ++ ("fn ".toList ++ behind) =
      Declaration.functionText f.constant f.asynchronous f.dangerous behind := by
  rw [qualifiers, native, Declaration.functionText]
  simp

namespace Leaf

theorem begins_first (item : Leaf) : Begins item.first := by
  cases item with
  | field item => exact ((item.name.begins.append _).visible _).append _
  | variant item => exact (item.name.begins.append _).append _
  | constant item => exact (Begins.visible (show Begins ("const ".toList ++ _) from rfl) _).append _
  | function item => exact ((item.begins_qualifiers _).visible _).append _

theorem isDocLine_of_mem (item : Leaf) : ∀ line ∈ item.lines, isDocLine line = false := by
  intro line member
  rcases List.mem_cons.1 member with rfl | later
  · exact isDocLine_eq_false item.begins_first.ink (item.begins_first.head?_ne (by decide))
  · obtain ⟨behind, -, rfl⟩ := List.mem_map.1 later
    exact behind.plain

theorem exists_codePart_first (item : Leaf) : ∃ outline : Line,
    outline.count '{' = outline.count '}' ∧
      Declaration.codePart item.first = outline ++ item.code.outline := by
  have own : Declaration.codePart item.code.text = item.code.outline := by
    have nothing : Declaration.codePart [] = [] := rfl
    have whole := @codePart_append [] item.code (by simp)
    rwa [nothing, List.append_nil, List.append_nil] at whole
  have quiet : item.front.all isQuiet = true → ∃ outline : Line,
      outline.count '{' = outline.count '}' ∧
        Declaration.codePart item.first = outline ++ item.code.outline := by
    intro plain
    have none := count_of_quiet plain
    exact ⟨item.front, none.1.trans none.2.symm, by rw [first, codePart_quiet plain, own]⟩
  cases item with
  | field item =>
    exact quiet (by simp only [front, List.all_append, item.visibility.quiet, item.name.quiet]; rfl)
  | variant item =>
    have mark : isQuiet item.mark = true := by
      have marked := item.marked
      simp only [List.mem_cons, List.not_mem_nil, or_false] at marked
      rcases marked with same | same | same <;> rw [same] <;> rfl
    refine quiet ?_
    cases gap : item.gap with
    | false => simp [front, item.name.quiet, gap, mark]
    | true =>
      simp only [front, List.all_append, item.name.quiet, gap, if_true, List.all_cons, mark]
      decide
  | constant item =>
    exact quiet (by simp only [front, List.all_append, item.visibility.quiet, item.name.quiet]; rfl)
  | function item =>
    have apart : ("fn ".toList ++ item.name.text ++ item.signature.text).head? ≠ some '/' := by
      simp
    obtain ⟨outline, level, found⟩ :=
      (item.isLevel_qualifiers.quiet_append item.visibility.quiet) _ apart
    have plain : ("fn ".toList ++ item.name.text).all isQuiet = true := by
      rw [List.all_append, item.name.quiet]
      rfl
    have none := count_of_quiet plain
    refine ⟨outline ++ ("fn ".toList ++ item.name.text), ?_, ?_⟩
    · simp only [@List.count_append _ _ _ outline, none.1, none.2, level]
    · rw [codePart_quiet plain, show Declaration.codePart item.signature.text = _ from own] at found
      simpa [first, front, code, List.append_assoc] using found

theorem balances_lines (item : Leaf) :
    balances 0 (item.lines.map Declaration.codePart) = true := by
  have balanced :
      balances 0 (item.code.outline :: item.body.map fun line => line.code.outline) = true := by
    have single : ∀ {code : Code}, code.isLevel = true → balances 0 [code.outline] = true := by
      intro code level
      simp [balances, beq_iff_eq.1 level]
    cases item with
    | function item => exact item.balanced
    | field item => exact single item.level
    | variant item => exact single item.level
    | constant item => exact single item.level
  obtain ⟨outline, level, found⟩ := item.exists_codePart_first
  rw [← balanced]
  refine balances_congr (.cons ?_ ?_) 0
  · rw [found, List.count_append, List.count_append, level]
    omega
  · rw [List.map_map, List.forall₂_map_left_iff, List.forall₂_map_right_iff]
    exact List.forall₂_same.2 fun line _ => line.same_braces

theorem ofLine?_first {item : Leaf} (legible : item.isLegible = true) :
    Declaration.ofLine? item.first = some ⟨item.name.chars, false⟩ := by
  cases item with
  | field item =>
    have read :=
      @Declaration.ofLine?_field item.visibility item.name item.type.text item.small item.single
    simpa [first, front, code, name] using read
  | variant item =>
    have marked : item.name.raw = false := by simpa [isLegible] using legible
    have read := @Declaration.ofLine?_variant item.name item.value.text item.capital marked item.gap
      item.mark item.marked
    simpa [first, front, code, name] using read
  | constant item =>
    have read := @Declaration.ofLine?_constant item.visibility item.name item.value.text
    simpa [first, front, code, name] using read
  | function item =>
    have native : item.convention = none := by simpa [isLegible] using legible
    have ends : ∀ c ∈ item.signature.text.head?, isWord c = false ∧ c ≠ '#' := by
      intro c given
      have bracket := item.bracket
      rw [Option.mem_def.1 given, Option.all_some, Bool.or_eq_true, beq_iff_eq, beq_iff_eq] at bracket
      rcases bracket with rfl | rfl <;> decide
    have read := @Declaration.ofLine?_function item.visibility item.name item.signature.text
      item.constant item.asynchronous item.dangerous (fun c given => (ends c given).1)
      fun given => (ends '#' given).2 rfl
    rw [← Function.text_of_native native] at read
    simpa [first, front, code, name, List.append_assoc] using read

end Leaf

end ProtoModules.Source
