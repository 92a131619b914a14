import ProtoModules.Proofs.Comment.Program
import ProtoModules.Proofs.Source.Piece

/-! Code on one line and its braces. Code is made of string literals, with any braces in them, and of
other characters; its outline has an empty literal in place of each literal. The braces of a line are
those of the outlines of its code. -/

namespace ProtoModules.Source
open Text Comment

/-- What can stand between the quotes of a literal: a backslash has a character behind it, and a quote
has a backslash before it. -/
def isLiteralBody : List Char → Bool
  | [] => true
  | '\\' :: c :: rest => c != '\n' && isLiteralBody rest
  | c :: rest => c != '\\' && c != '"' && isLiteralBody rest

inductive Token where
  | char (c : Char)
  | literal (body : List Char)

namespace Token

def text : Token → Line
  | char c => [c]
  | literal body => '"' :: (body ++ ['"'])

def outline : Token → Line
  | char c => [c]
  | literal _ => ['"', '"']

def isWhole : Token → Bool
  | char c => c != '"'
  | literal body => isLiteralBody body

end Token

def plainTokens (s : String) : List Token := s.toList.map .char

/-- Code on one line. A quote that does not belong to a literal, as in a character literal, is left
out, and so are comments. -/
structure Code where
  tokens : List Token
  whole : tokens.all Token.isWhole = true := by decide
  remarkless : holds ['/', '/'] (tokens.flatMap Token.outline) = false := by decide

namespace Code

def text (code : Code) : Line := code.tokens.flatMap Token.text

def outline (code : Code) : Line := code.tokens.flatMap Token.outline

def isLevel (code : Code) : Bool := code.outline.count '{' == code.outline.count '}'

end Code

open scoped Computability in
theorem mem_literalPieces {body : List Char} (closed : isLiteralBody body = true) :
    body ∈ literalPiece∗ := by
  fun_induction isLiteralBody body with
  | case1 => exact Language.nil_mem_kstar _
  | case2 c more ih =>
    simp only [Bool.and_eq_true, bne_iff_ne] at closed
    exact piece_append_mem (.inl ⟨c, closed.1, rfl⟩) (ih closed.2)
  | case3 c more other ih =>
    simp only [Bool.and_eq_true, bne_iff_ne] at closed
    exact piece_append_mem (.inr ⟨c, closed.1.2, closed.1.1, rfl⟩) (ih closed.2)

theorem blankLiterals_append {s : List Char} (quoteless : ∀ c ∈ s, c ≠ '"') (rest : List Char) :
    blankLiterals (s ++ rest) = s ++ blankLiterals rest := by
  induction s with
  | nil => rfl
  | cons c more ih =>
    rw [List.cons_append, blankLiterals_cons (quoteless c List.mem_cons_self),
      ih fun d member => quoteless d (List.mem_cons_of_mem _ member), List.cons_append]

theorem blankLiterals_token {t : Token} (whole : t.isWhole = true) (rest : List Char) :
    blankLiterals (t.text ++ rest) = t.outline ++ blankLiterals rest := by
  cases t with
  | char c => exact blankLiterals_cons (by simpa [Token.isWhole] using whole) rest
  | literal body =>
    exact blankLiterals_literal (quoted_mem_stringLiteral (mem_literalPieces whole)) rest

theorem blankLiterals_tokens {ts : List Token} (whole : ts.all Token.isWhole = true)
    (rest : List Char) : blankLiterals (ts.flatMap Token.text ++ rest) =
      ts.flatMap Token.outline ++ blankLiterals rest := by
  induction ts with
  | nil => rfl
  | cons t more ih =>
    simp only [List.all_cons, Bool.and_eq_true] at whole
    rw [List.flatMap_cons, List.flatMap_cons, List.append_assoc, blankLiterals_token whole.1,
      ih whole.2, List.append_assoc]

theorem head?_blankLiterals {s : List Char} (other : s.head? ≠ some '/') :
    (blankLiterals s).head? ≠ some '/' := by
  cases s with
  | nil => simp [blankLiterals, replaceAll, replaceFrom]
  | cons c rest =>
    by_cases quote : c = '"'
    · subst quote
      rw [blankLiterals_quote]
      split <;> simp
    · rw [blankLiterals_cons quote]
      simpa using other

theorem beforeComment_append {s rest : List Char} (plain : holds ['/', '/'] s = false)
    (apart : rest.head? ≠ some '/') :
    Declaration.codePart.beforeComment (s ++ rest) =
      s ++ Declaration.codePart.beforeComment rest := by
  induction s with
  | nil => rfl
  | cons c more ih =>
    simp only [holds, Bool.or_eq_false_iff] at plain
    have single : ∀ behind, ¬ (c = '/' ∧ more ++ rest = '/' :: behind) := by
      rintro behind ⟨rfl, second⟩
      cases more with
      | nil =>
        rw [List.nil_append] at second
        simp [second] at apart
      | cons d more =>
        obtain rfl := (List.cons.inj second).1
        simp at plain
    rw [List.cons_append, Declaration.codePart.beforeComment]
    · rw [ih plain.2]
      rfl
    · intro behind first second
      exact single behind ⟨first, second⟩

theorem count_beforeComment {s : List Char} (plain : holds ['/', '/'] s = false) (remark : List Char)
    {b : Char} (other : b ≠ '/') :
    (Declaration.codePart.beforeComment (s ++ '/' :: '/' :: remark)).count b = s.count b := by
  induction s with
  | nil => rfl
  | cons c more ih =>
    simp only [holds, Bool.or_eq_false_iff] at plain
    have slash : ('/' == b) = false := by simpa using other.symm
    by_cases first : c = '/'
    · subst first
      cases more with
      | nil => simp [Declaration.codePart.beforeComment, List.count_cons, slash]
      | cons d rest =>
        have next : d ≠ '/' := by
          rintro rfl
          simp at plain
        rw [List.cons_append, Declaration.codePart.beforeComment, List.count_cons, List.count_cons,
          ih plain.2]
        intro behind _ same
        exact next (List.cons.inj same).1
    · rw [List.cons_append, Declaration.codePart.beforeComment, List.count_cons, List.count_cons,
        ih plain.2]
      exact fun _ same => absurd same first

/-- A character that starts no literal and no comment and is no brace. -/
def isQuiet (c : Char) : Bool := c != '"' && c != '/' && c != '{' && c != '}'

variable {quiet rest : Line}

theorem codePart_cons {c : Char} (quiet : isQuiet c = true) (rest : Line) :
    Declaration.codePart (c :: rest) = c :: Declaration.codePart rest := by
  simp only [isQuiet, Bool.and_eq_true, bne_iff_ne] at quiet
  rw [Declaration.codePart, blankLiterals_cons quiet.1.1.1, Declaration.codePart.beforeComment]
  · rfl
  · exact fun _ slash => absurd slash quiet.1.1.2

theorem codePart_quiet (plain : quiet.all isQuiet = true) (rest : Line) :
    Declaration.codePart (quiet ++ rest) = quiet ++ Declaration.codePart rest := by
  induction quiet with
  | nil => rfl
  | cons c more ih =>
    simp only [List.all_cons, Bool.and_eq_true] at plain
    rw [List.cons_append, codePart_cons plain.1, ih plain.2, List.cons_append]

theorem codePart_append (code : Code) (apart : rest.head? ≠ some '/') :
    Declaration.codePart (code.text ++ rest) = code.outline ++ Declaration.codePart rest := by
  rw [Declaration.codePart, Code.text, blankLiterals_tokens code.whole,
    beforeComment_append code.remarkless (head?_blankLiterals apart)]
  rfl

theorem count_codePart_remark (code : Code) (remark : Line) {b : Char} (other : b ≠ '/') :
    (Declaration.codePart (code.text ++ '/' :: '/' :: remark)).count b = code.outline.count b := by
  rw [Declaration.codePart, Code.text, blankLiterals_tokens code.whole,
    blankLiterals_cons (by decide), blankLiterals_cons (by decide)]
  exact count_beforeComment code.remarkless _ other

theorem isDocLine_eq_false {line : Line} (ink : ∀ c ∈ line.head?, isBlank c = false)
    (other : line.head? ≠ some '/') : isDocLine line = false := by
  rw [Bool.eq_false_iff]
  intro doc
  obtain ⟨body, whole, -⟩ := (isDocLine_iff line).1 doc
  rw [trimStart, dropWhile_of_stop ink] at whole
  exact other (by rw [whole]; rfl)

theorem Code.isDocLine_text (code : Code) : isDocLine code.text = false := by
  rw [Bool.eq_false_iff]
  intro doc
  obtain ⟨body, whole, -⟩ := (isDocLine_iff code.text).1 doc
  let front := code.text.takeWhile isBlank ++ docMark
  have same : code.text = front ++ body := by
    rw [List.append_assoc, ← whole, trimStart, List.takeWhile_append_dropWhile]
  have quoteless : ∀ c ∈ front, c ≠ '"' := by
    rintro c member rfl
    rcases List.mem_append.1 member with pad | mark
    · exact absurd (List.mem_takeWhile_imp pad) (by decide)
    · exact absurd mark (by decide)
  have outline : code.outline = front ++ blankLiterals body := by
    have own := blankLiterals_tokens code.whole []
    have nothing : blankLiterals [] = [] := rfl
    rw [List.append_nil, nothing, List.append_nil, ← Code.text, same,
      blankLiterals_append quoteless] at own
    exact own.symm
  -- the mark would be a comment of the code
  refine Bool.eq_false_iff.1 code.remarkless ((holds_iff _ _).2 ?_)
  rw [← Code.outline, outline]
  exact ⟨code.text.takeWhile isBlank, '/' :: blankLiterals body, by simp [front, docMark]⟩

def Code.comma (code : Code) : Code where
  tokens := code.tokens ++ [.char ',']
  whole := by
    rw [List.all_append, code.whole]
    rfl
  remarkless := by
    rw [Bool.eq_false_iff, List.flatMap_append]
    intro remark
    rcases (infix_append_cons_iff (by decide)).1 ((holds_iff _ _).1 remark) with own | behind
    · exact Bool.eq_false_iff.1 code.remarkless ((holds_iff _ _).2 own)
    · simp at behind

theorem Code.isLevel_comma {code : Code} (level : code.isLevel = true) : code.comma.isLevel = true := by
  rw [isLevel, outline, beq_iff_eq] at *
  simp only [comma, List.flatMap_append, List.count_append, level]
  rfl

/-- As many braces of the code in the text are closed as are opened, whatever follows on the line. -/
def IsLevel (s : Line) : Prop :=
  ∀ rest : Line, rest.head? ≠ some '/' → ∃ outline : Line,
    outline.count '{' = outline.count '}' ∧
      Declaration.codePart (s ++ rest) = outline ++ Declaration.codePart rest

theorem count_of_quiet (plain : quiet.all isQuiet = true) :
    quiet.count '{' = 0 ∧ quiet.count '}' = 0 := by
  simp only [List.all_eq_true, isQuiet, Bool.and_eq_true, bne_iff_ne] at plain
  exact ⟨List.count_eq_zero.2 fun member => (plain _ member).1.2 rfl,
    List.count_eq_zero.2 fun member => (plain _ member).2 rfl⟩

theorem isLevel_of_quiet (plain : quiet.all isQuiet = true) : IsLevel quiet := fun rest _ =>
  have none := count_of_quiet plain
  ⟨quiet, none.1.trans none.2.symm, codePart_quiet plain rest⟩

theorem Code.isLevel_text {code : Code} (level : code.isLevel = true) : IsLevel code.text :=
  fun _ apart => ⟨code.outline, beq_iff_eq.1 level, codePart_append code apart⟩

theorem IsLevel.append {s t : Line} (first : IsLevel s) (second : IsLevel t)
    (apart : t.head? ≠ some '/') : IsLevel (s ++ t) := by
  intro rest other
  have next : (t ++ rest).head? ≠ some '/' := by
    cases t with
    | nil => exact other
    | cons c more => exact apart
  obtain ⟨before, level, found⟩ := first (t ++ rest) next
  obtain ⟨behind, level', found'⟩ := second rest other
  refine ⟨before ++ behind, by rw [List.count_append, List.count_append, level, level'], ?_⟩
  rw [List.append_assoc, found, found', List.append_assoc]

theorem IsLevel.quiet_append {s : Line} (plain : quiet.all isQuiet = true) (level : IsLevel s) :
    IsLevel (quiet ++ s) := by
  intro rest other
  obtain ⟨outline, same, found⟩ := level rest other
  have none := count_of_quiet plain
  refine ⟨quiet ++ outline, by simp only [List.count_append, none.1, none.2, same], ?_⟩
  rw [List.append_assoc, codePart_quiet plain, found, List.append_assoc]

theorem IsLevel.cons {c : Char} (plain : isQuiet c = true) {s : Line} (level : IsLevel s) :
    IsLevel (c :: s) :=
  @IsLevel.quiet_append [c] s (by simpa using plain) level

/-- From a depth on, no line closes more braces than are open, and all are closed in the end. -/
def balances : (depth : Nat) → (outlines : List Line) → Bool
  | depth, [] => depth == 0
  | depth, line :: rest =>
    line.count '}' ≤ depth + line.count '{' &&
      balances (depth + line.count '{' - line.count '}') rest

theorem balances_congr {ls outlines : List Line}
    (same : List.Forall₂ (fun line outline =>
      line.count '{' + outline.count '}' = outline.count '{' + line.count '}') ls outlines)
    (depth : Nat) : balances depth ls = balances depth outlines := by
  induction same generalizing depth with
  | nil => rfl
  | @cons line outline ls outlines first later ih =>
    have behind : depth + line.count '{' - line.count '}' =
        depth + outline.count '{' - outline.count '}' := by omega
    have closes : line.count '}' ≤ depth + line.count '{' ↔
        outline.count '}' ≤ depth + outline.count '{' := by omega
    simp only [balances, behind, closes, ih]

theorem balances_of_isLevel {line : Line} (level : IsLevel line) :
    balances 0 [Declaration.codePart line] = true := by
  obtain ⟨outline, same, found⟩ := level [] (by simp)
  have nothing : Declaration.codePart [] = [] := rfl
  rw [List.append_nil, nothing, List.append_nil] at found
  simp [balances, found, same]

end ProtoModules.Source
