import ProtoModules.Proofs.Source.Items

/-! Headers of blocks. A header declares a scope and opens a brace at its end, on the same line or, behind
the clauses that follow it, on a line of its own. On one line a legible header opens the scope of its
name; with the brace on another line a scan misses the scope. -/

namespace ProtoModules.Source
open Text

structure ScopeHead where
  visibility : Visibility
  dangerous : Bool := false
  word : String
  name : Ident
  /-- Parameters and bounds behind the name. -/
  behind : Code
  member : word ∈ Declaration.scopeWords := by decide
  stop : behind.text.head?.all (fun c => !isWord c && c != '#') = true := by decide
  level : behind.isLevel = true := by decide

structure ImplHead where
  dangerous : Bool := false
  generics : Option Code := none
  /-- The trait that is implemented. -/
  path : Option Code := none
  type : Ident
  behind : Code
  start : path.all (fun code => code.text.head?.any fun c => !isBlank c) = true := by decide
  stop : behind.text.head?.all (fun c => !isWord c && c != ':') = true := by decide
  level : (generics.all Code.isLevel && path.all Code.isLevel && behind.isLevel) = true := by decide

inductive Head where
  | scope (head : ScopeHead)
  | implementation (head : ImplHead)

structure Header where
  head : Head
  /-- The word `where` and what stands behind it. -/
  clauses : List Code := []
  /-- A space stands in front of a brace on the same line. -/
  spaced : Bool := true
  /-- The clauses and the brace have lines of their own. -/
  moved : Bool := false
  level : clauses.all Code.isLevel = true := by decide

namespace ImplHead

def parameters (head : ImplHead) : Line := head.generics.elim [] fun code => '<' :: (code.text ++ ['>'])

def trait (head : ImplHead) : Line := head.path.elim [] fun code => code.text ++ " for ".toList

def text (head : ImplHead) : Line :=
  optional head.dangerous "unsafe" ++ ("impl".toList ++ (head.parameters ++ ' ' ::
    (head.trait ++ (head.type.text ++ head.behind.text))))

end ImplHead

namespace Head

def name : Head → Ident
  | scope head => head.name
  | implementation head => head.type

def text : Head → Line
  | scope head => head.visibility.text ++ (optional head.dangerous "unsafe" ++
      (head.word.toList ++ ' ' :: (head.name.text ++ head.behind.text)))
  | implementation head => head.text

end Head

namespace Header

def tail (header : Header) : Line :=
  header.clauses.flatMap (fun code => ' ' :: code.text) ++
    ((if header.spaced then [' '] else []) ++ ['{'])

def line (header : Header) : Line := header.head.text ++ header.tail

def lines (header : Header) : List Line :=
  if header.moved then header.head.text :: header.clauses.map Code.text ++ [['{']] else [header.line]

def straight (header : Header) : Header := { header with moved := false }

def first (header : Header) : Line := if header.moved then header.head.text else header.line

/-- The type of an implementation is read if it is not raw, the trait is made of names, numbers, colons,
commas, angle brackets and spaces, no parameter holds a closing bracket and no further `for` stands in
the header. -/
def isLegible (header : Header) : Bool :=
  match header.head with
  | .scope _ => true
  | .implementation head =>
    head.generics.all (fun code => !code.text.contains '>') &&
      head.path.all (fun code => code.text.all Declaration.inTraitPath) && !head.type.raw &&
      !Declaration.holdsFor (' ' :: (head.type.text ++ (head.behind.text ++ header.tail)))

def opened (header : Header) : Option Line := if header.moved then none else openedBy header.line

end Header

theorem isLevel_flatMap_blank {codes : List Code} (level : codes.all Code.isLevel = true) :
    IsLevel (codes.flatMap fun code => ' ' :: code.text) := by
  induction codes with
  | nil => exact isLevel_of_quiet rfl
  | cons code more ih =>
    simp only [List.all_cons, Bool.and_eq_true] at level
    have apart : (more.flatMap fun code => ' ' :: code.text).head? ≠ some '/' := by
      cases more <;> simp
    exact ((Code.isLevel_text level.1).append (ih level.2) apart).cons (by decide)

theorem ImplHead.isLevel_text (head : ImplHead) : IsLevel head.text := by
  have level := head.level
  rw [Bool.and_eq_true, Bool.and_eq_true] at level
  have named : IsLevel (head.type.text ++ head.behind.text) :=
    (Code.isLevel_text level.2).quiet_append head.type.quiet
  have traited : IsLevel (head.trait ++ (head.type.text ++ head.behind.text)) := by
    rw [trait]
    cases given : head.path with
    | none => exact named
    | some code =>
      have own : code.isLevel = true := by simpa [given] using level.1.2
      rw [Option.elim_some, List.append_assoc]
      exact (Code.isLevel_text own).append (named.quiet_append (by decide)) (by simp)
  have parameters : IsLevel head.parameters := by
    rw [ImplHead.parameters]
    cases given : head.generics with
    | none => exact isLevel_of_quiet rfl
    | some code =>
      have own : code.isLevel = true := by simpa [given] using level.1.1
      have closed : IsLevel (code.text ++ ['>']) :=
        (Code.isLevel_text own).append (isLevel_of_quiet rfl) (by decide)
      exact closed.cons (by decide)
  have behind := parameters.append (traited.cons (by decide : isQuiet ' ' = true)) (by simp)
  exact (behind.quiet_append rfl).quiet_append (quiet_optional _ rfl)

theorem ImplHead.isBracketed_parameters (head : ImplHead)
    (generics : head.generics.all (fun code => !code.text.contains '>') = true) :
    Declaration.IsBracketed head.parameters := by
  rw [parameters]
  cases given : head.generics with
  | none => exact .inl rfl
  | some code => exact .inr ⟨code.text, by simpa [given] using generics, rfl⟩

theorem ImplHead.ink_trait (head : ImplHead) (behind : Line) :
    ∀ c ∈ (head.trait ++ (head.type.chars ++ behind)).head?, isBlank c = false := by
  rw [trait]
  cases given : head.path with
  | none => exact (head.type.begins_chars.append _).ink
  | some code =>
    have start : code.text.head?.any (fun c => !isBlank c) = true := by
      simpa [given] using head.start
    cases shape : code.text with
    | nil => simp [shape] at start
    | cons c more => simpa [shape] using start

theorem Head.isLevel_text (head : Head) : IsLevel head.text := by
  cases head with
  | implementation head => exact head.isLevel_text
  | scope head =>
    have word : (head.word.toList ++ [' ']).all isQuiet = true := by
      rw [List.all_append, quiet_of_ascii (Declaration.letters_of_mem_scopeWords head.member)]
      rfl
    have named : IsLevel (head.name.text ++ head.behind.text) :=
      (Code.isLevel_text head.level).quiet_append head.name.quiet
    have worded : IsLevel (head.word.toList ++ ' ' :: (head.name.text ++ head.behind.text)) := by
      simpa using named.quiet_append word
    exact (worded.quiet_append (quiet_optional _ rfl)).quiet_append head.visibility.quiet

theorem Head.begins_text (head : Head) : Begins head.text := by
  cases head with
  | implementation head =>
    have word : Begins ("impl".toList ++ (head.parameters ++ ' ' ::
      (head.trait ++ (head.type.text ++ head.behind.text)))) := rfl
    exact word.optional _ (show Begins "unsafe".toList from rfl)
  | scope head =>
    have word := Declaration.begins_of_mem_scopeWords head.member
      (' ' :: (head.name.text ++ head.behind.text))
    exact (word.optional _ (show Begins "unsafe".toList from rfl)).visible _

namespace Header

theorem opens_line (header : Header) : Opens header.line := by
  have apart : (header.clauses.flatMap fun code => ' ' :: code.text).head? ≠ some '/' := by
    cases header.clauses <;> simp
  have level := header.head.isLevel_text.append (isLevel_flatMap_blank header.level) apart
  have gap : IsLevel (if header.spaced then [' '] else []) := by
    split
    · exact isLevel_of_quiet rfl
    · exact isLevel_of_quiet rfl
  simpa [line, tail] using (level.append gap (by split <;> simp)).opens

theorem lines_eq (header : Header) : header.lines = header.first ::
    if header.moved then header.clauses.map Code.text ++ [['{']] else [] := by
  rw [lines, first]
  split <;> rfl

theorem begins_first (header : Header) : Begins header.first := by
  rw [first]
  split
  · exact header.head.begins_text
  · exact header.head.begins_text.append _

theorem isDocLine_of_mem (header : Header) : ∀ line ∈ header.lines, isDocLine line = false := by
  intro line member
  rw [lines_eq] at member
  rcases List.mem_cons.1 member with rfl | behind
  · exact isDocLine_eq_false header.begins_first.ink (header.begins_first.head?_ne (by decide))
  · split at behind
    · rcases List.mem_append.1 behind with clause | brace
      · obtain ⟨code, -, rfl⟩ := List.mem_map.1 clause
        exact code.isDocLine_text
      · obtain rfl := List.mem_singleton.1 brace
        decide
    · simp at behind

theorem isDocLine_first (header : Header) : isDocLine header.first = false :=
  header.isDocLine_of_mem _ (by rw [lines_eq]; exact List.mem_cons_self)

theorem foldl_pass_lines (header : Header) {scan : Scan} (tops : scan.Tops) :
    header.lines.foldl (fun scan line => scan.pass line) scan = scan.inside header.opened := by
  rw [lines, opened]
  split
  · have level : ∀ line ∈ header.head.text :: header.clauses.map Code.text, IsLevel line := by
      refine List.forall_mem_cons.2 ⟨header.head.isLevel_text, fun line member => ?_⟩
      obtain ⟨code, inside, rfl⟩ := List.mem_map.1 member
      exact Code.isLevel_text (List.all_eq_true.1 header.level code inside)
    rw [List.foldl_append, Scan.foldl_pass_level tops level]
    exact Scan.pass_opening tops (show Opens ['{'] from rfl)
  · exact Scan.pass_opening tops header.opens_line

theorem head?_tail (header : Header) :
    header.tail.head? = some ' ' ∨ header.tail.head? = some '{' := by
  rw [tail]
  cases header.clauses with
  | nil => cases header.spaced <;> simp
  | cons => exact .inl rfl

theorem head?_behind {code : Code} {tail : Line} {fits : Char → Bool}
    (stop : code.text.head?.all fits = true)
    (next : tail.head? = some ' ' ∨ tail.head? = some '{') (blank : fits ' ' = true)
    (brace : fits '{' = true) : ∀ c ∈ (code.text ++ tail).head?, fits c = true := by
  intro c first
  cases shape : code.text with
  | nil =>
    rw [shape, List.nil_append] at first
    rcases next with next | next
    · rw [next, Option.mem_some_iff] at first
      exact first ▸ blank
    · rw [next, Option.mem_some_iff] at first
      exact first ▸ brace
  | cons d more =>
    rw [shape, List.cons_append, List.head?_cons, Option.mem_some_iff] at first
    simpa [shape, first] using stop

theorem ofLine?_scope (head : ScopeHead) {tail : Line}
    (next : tail.head? = some ' ' ∨ tail.head? = some '{') :
    Declaration.ofLine? ((Head.scope head).text ++ tail) = some ⟨head.name.chars, true⟩ := by
  have ends : ∀ c ∈ (head.behind.text ++ tail).head?, isWord c = false ∧ c ≠ '#' := by
    simpa only [Bool.and_eq_true, Bool.not_eq_true', bne_iff_ne] using
      head?_behind head.stop next (by decide) (by decide)
  have read := @Declaration.scope?_text head.visibility head.word head.name
    (head.behind.text ++ tail) head.dangerous head.member (fun c first => (ends c first).1)
    fun first => (ends '#' first).2 rfl
  simpa [Head.text] using Declaration.ofLine?_of_scope read

theorem implementor?_orElse (head : ImplHead) {behind : Line}
    (path : head.path.all (fun code => code.text.all Declaration.inTraitPath) = true)
    (lone : Declaration.holdsFor (' ' :: (head.type.chars ++ behind)) = false)
    (stop : ∀ c ∈ behind.head?, isWord c = false ∧ c ≠ ':') :
    (Declaration.implementor? (head.trait ++ (head.type.chars ++ behind))).orElse
      (fun _ => Declaration.pathName? (head.trait ++ (head.type.chars ++ behind))) =
      some head.type.chars := by
  have type := Declaration.pathName?_text head.type stop
  rw [ImplHead.trait]
  cases given : head.path with
  | none =>
    have single : Declaration.holdsFor (head.type.chars ++ behind).tail = false := by
      obtain ⟨c, more, shape⟩ := List.exists_cons_of_ne_nil head.type.present
      rw [Declaration.holdsFor, Bool.or_eq_false_iff, shape, List.cons_append, Declaration.holdsFor,
        Bool.or_eq_false_iff] at lone
      rw [shape]
      exact lone.2.2
    rw [Option.elim_none, List.nil_append, Declaration.implementor?_eq_none single, type]
    rfl
  | some code =>
    have start : code.text.head?.any (fun c => !isBlank c) = true := by simpa [given] using head.start
    have present : code.text ≠ [] := by
      rintro empty
      simp [empty] at start
    have plain : code.text.all Declaration.inTraitPath = true := by simpa [given] using path
    have begins : Begins (head.type.chars ++ behind) := head.type.begins_chars.append behind
    rw [Option.elim_some, List.append_assoc,
      Declaration.implementor?_text present plain begins lone type]
    rfl

theorem ofLine?_implementation (head : ImplHead) {tail : Line}
    (next : tail.head? = some ' ' ∨ tail.head? = some '{')
    (generics : head.generics.all (fun code => !code.text.contains '>') = true)
    (path : head.path.all (fun code => code.text.all Declaration.inTraitPath) = true)
    (unmarked : head.type.raw = false)
    (lone : Declaration.holdsFor (' ' :: (head.type.text ++ (head.behind.text ++ tail))) = false) :
    Declaration.ofLine? (head.text ++ tail) = some ⟨head.type.chars, true⟩ := by
  have text := Ident.text_of_unmarked unmarked
  rw [text] at lone
  have stop : ∀ c ∈ (head.behind.text ++ tail).head?, isWord c = false ∧ c ≠ ':' := by
    simpa only [Bool.and_eq_true, Bool.not_eq_true', bne_iff_ne] using
      head?_behind head.stop next (by decide) (by decide)
  have read := @Declaration.ofLine?_implementation _ head.dangerous _ _
    (head.isBracketed_parameters generics) (head.ink_trait _) (implementor?_orElse head path lone stop)
  simpa [ImplHead.text, text] using read

theorem ofLine?_line {header : Header} (legible : header.isLegible = true) :
    Declaration.ofLine? header.line = some ⟨header.head.name.chars, true⟩ := by
  rw [isLegible] at legible
  rw [line]
  cases given : header.head with
  | scope head => exact ofLine?_scope head header.head?_tail
  | implementation head =>
    simp only [given, Bool.and_eq_true, Bool.not_eq_true'] at legible
    exact ofLine?_implementation head header.head?_tail legible.1.1.1 legible.1.1.2 legible.1.2 legible.2

theorem opened_straight {header : Header} (legible : header.isLegible = true) :
    header.straight.opened = some header.head.name.chars := by
  change openedBy header.line = _
  rw [openedBy, ofLine?_line legible]
  rfl

end Header

end ProtoModules.Source
