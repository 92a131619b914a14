import ProtoModules.Proofs.Comment.Settled

/-! Reading the paragraphs of a comment from the top. A line of text opens a paragraph, and a blank line, the
end of a fenced block, a heading, a break or the underline of a heading leaves none open; indented
code is live where it stands outside of fences while no paragraph is open. A sanitized comment has
live code only behind a line that sanitizing mistakes for an underline or for none. -/

namespace ProtoModules.Comment
open Text

/-- The underline of a heading: equals signs only or hyphens only, and tabs or spaces around them. -/
def isSetext (base : Nat) (line : Line) : Bool :=
  !isDeep base line &&
    match line.dropWhile isTabOrSpace with
    | [] => false
    | c :: rest => (c == '=' || c == '-') && (rest.dropWhile (· == c)).all isTabOrSpace

inductive Spot where
  | fenced (fence : Fence)
  | text (inParagraph : Bool)

namespace Spot

/-- An underline closes a paragraph that it directly continues; anywhere else it is a line of text. -/
def next (base : Nat) : Spot → Line → Spot
  | .fenced fence, line => if fence.closes base line then .text false else .fenced fence
  | .text inParagraph, line =>
    match Fence.open? base line with
    | some fence => .fenced fence
    | none =>
      .text !(allBlank line || endsParagraph base line || (inParagraph && isSetext base line))

def behind (base : Nat) (ls : List Line) : Spot := ls.foldl (next base) (.text false)

variable {base : Nat} {before ls : List Line} {line : Line}

theorem behind_append (base : Nat) (before ls : List Line) :
    behind base (before ++ ls) = ls.foldl (next base) (behind base before) :=
  List.foldl_append

theorem behind_concat (base : Nat) (before : List Line) (line : Line) :
    behind base (before ++ [line]) = next base (behind base before) line :=
  behind_append base before [line]

theorem behind_opener {fence : Fence} {inParagraph : Bool}
    (here : behind base before = .text inParagraph) (opens : Fence.open? base line = some fence) :
    behind base (before ++ [line]) = .fenced fence := by
  rw [behind_concat, here, next, opens]

theorem behind_body {fence : Fence} {body : List Line} (here : behind base before = .fenced fence)
    (inside : ∀ line ∈ body, fence.closes base line = false) :
    behind base (before ++ body) = .fenced fence := by
  induction body generalizing before with
  | nil => rw [List.append_nil, here]
  | cons line rest ih =>
    have stays : behind base (before ++ [line]) = .fenced fence := by
      simp [behind_concat, here, next, inside line List.mem_cons_self]
    rw [List.append_cons]
    exact ih stays fun l member => inside l (List.mem_cons_of_mem _ member)

end Spot

/-- A line that would be compiled as code, behind the lines before it. -/
structure IsLive (base : Nat) (before : List Line) (line : Line) : Prop where
  spot : Spot.behind base before = .text false
  indented : isIndentedCode base line = true

/-- A line on which sanitizing goes wrong: it misses an underline of one or two hyphens, and it takes for
an underline what is one but for its depth or for other blanks around the equals signs. -/
inductive IsMistaken (base : Nat) (line : Line) : Prop where
  | missed (underline : isSetext base line = true)
      (hyphens : trim line = ['-'] ∨ trim line = ['-', '-'])
  | taken (text : isSetext base line = false) (equals : isUnderline (trim line) = true)

/-- Behind a mistaken line that continues a paragraph, as long as nothing follows that ends a paragraph
whether one is open or not. -/
def IsAstray (base : Nat) (before : List Line) : Prop :=
  ∃ front mistaken back, before = front ++ mistaken :: back ∧
    Spot.behind base front = .text true ∧ IsMistaken base mistaken ∧
    ∀ line ∈ back, Fence.open? base line = none ∧ allBlank line = false ∧
      endsParagraph base line = false

variable {base : Nat} {inParagraph : Bool} {before ls : List Line} {bs : List Block} {line : Line}

theorem trim_of_isSetext (underline : isSetext base line = true) :
    isDeep base line = false ∧ ∃ c n, (c = '=' ∨ c = '-') ∧
      trim line = List.replicate (n + 1) c := by
  simp only [isSetext, Bool.and_eq_true, Bool.not_eq_true'] at underline
  obtain ⟨shallow, shape⟩ := underline
  refine ⟨shallow, ?_⟩
  split at shape
  · contradiction
  rename_i c rest signs
  simp only [Bool.and_eq_true, Bool.or_eq_true, beq_iff_eq, List.all_eq_true] at shape
  obtain ⟨sign, clear⟩ := shape
  have pad : ∀ d ∈ line.takeWhile isTabOrSpace, isBlank d = true := fun d member =>
    isBlank_of_isTabOrSpace (List.mem_takeWhile_imp member)
  have run : rest.takeWhile (· == c) = List.replicate (rest.takeWhile (· == c)).length c := by
    refine List.eq_replicate_of_mem fun d member => ?_
    simpa using List.mem_takeWhile_imp member
  have ink : ∀ d ∈ List.replicate ((rest.takeWhile (· == c)).length + 1) c, isBlank d = false := by
    intro d member
    rw [List.eq_of_mem_replicate member]
    rcases sign with rfl | rfl <;> decide
  have whole : line = line.takeWhile isTabOrSpace ++
      (List.replicate ((rest.takeWhile (· == c)).length + 1) c ++ rest.dropWhile (· == c)) := by
    rw [List.replicate_succ, ← run, List.cons_append, List.takeWhile_append_dropWhile, ← signs,
      List.takeWhile_append_dropWhile]
  refine ⟨c, (rest.takeWhile (· == c)).length, sign, ?_⟩
  rw [whole, trim_append pad, trim_append_blank fun d member => isBlank_of_isTabOrSpace (clear d member)]
  exact trim_of_ink (fun d first => ink d (List.mem_of_mem_head? first))
    fun d last => ink d (List.mem_of_mem_getLast? last)

theorem isBreak_replicate (n : Nat) : isBreak (List.replicate (n + 3) '-') = true := by
  simp [isBreak, List.replicate_succ]

theorem isUnderline_replicate (n : Nat) : isUnderline (List.replicate (n + 1) '=') = true := by
  simp [isUnderline, List.replicate_succ]

theorem isUnderline_eq_isSetext (stays : endsParagraph base line = false)
    (right : ¬ IsMistaken base line) : isUnderline (trim line) = isSetext base line := by
  by_cases underline : isSetext base line = true
  · obtain ⟨shallow, c, n, sign, trimmed⟩ := trim_of_isSetext underline
    rw [underline, trimmed]
    rcases sign with rfl | rfl
    · exact isUnderline_replicate n
    · rcases n with _ | _ | n
      · exact absurd (.missed underline (.inl trimmed)) right
      · exact absurd (.missed underline (.inr trimmed)) right
      · -- three hyphens are a break
        simp [endsParagraph, shallow, trimmed, isBreak_replicate] at stays
  · rw [Bool.not_eq_true] at underline
    rw [underline]
    by_contra equals
    exact right (.taken underline (by simpa using equals))

def Each (P : List Line → Line → Prop) (before : List Line) : List Line → Prop
  | [] => True
  | line :: rest => P before line ∧ Each P (before ++ [line]) rest

theorem each_append {P : List Line → Line → Prop} (before first second : List Line) :
    Each P before (first ++ second) ↔ Each P before first ∧ Each P (before ++ first) second := by
  induction first generalizing before with
  | nil => simp [Each]
  | cons line rest ih => simp [Each, ih, and_assoc]

theorem each_iff {P : List Line → Line → Prop} (before ls : List Line) :
    Each P before ls ↔ ∀ front line back, ls = front ++ line :: back → P (before ++ front) line := by
  constructor
  · rintro each front line back rfl
    exact ((each_append _ _ _).1 each).2.1
  · intro every
    induction ls generalizing before with
    | nil => trivial
    | cons line rest ih =>
      refine ⟨by simpa using every [] line rest rfl, ih _ fun front l back whole => ?_⟩
      simpa using every (line :: front) l back (by rw [whole]; rfl)

def Excused (base : Nat) (before : List Line) (line : Line) : Prop :=
  IsLive base before line → IsAstray base before

theorem excused_of_spot {spot : Spot} (here : Spot.behind base before = spot)
    (other : spot ≠ .text false) : Excused base before line :=
  fun live => absurd (here.symm.trans live.spot) other

theorem excused_of_plain (plain : isIndentedCode base line = false) : Excused base before line := by
  intro live
  rw [live.indented] at plain
  contradiction

theorem each_excused_body {fence : Fence} {body : List Line}
    (here : Spot.behind base before = .fenced fence)
    (inside : ∀ line ∈ body, fence.closes base line = false) :
    Each (Excused base) before body := by
  induction body generalizing before with
  | nil => trivial
  | cons line rest ih =>
    have stays := Spot.behind_body here fun l member =>
      inside l (List.mem_singleton.1 member ▸ List.mem_cons_self)
    exact ⟨excused_of_spot here (by simp), ih stays fun l member =>
      inside l (List.mem_cons_of_mem _ member)⟩

theorem isIndentedCode_of_open? {fence : Fence} (opens : Fence.open? base line = some fence) :
    isIndentedCode base line = false := by
  simp [isIndentedCode, (Fence.eq_of_open? opens).1]

theorem exists_next (plain : Fence.open? base line = none) {open? : Bool}
    (here : Spot.behind base before = .text open?)
    (agrees : open? = inParagraph ∨ IsAstray base before) :
    ∃ next, Spot.behind base (before ++ [line]) = .text next ∧
      (next = opensParagraph base inParagraph line ∨ IsAstray base (before ++ [line])) := by
  refine ⟨_, by rw [Spot.behind_concat, here, Spot.next, plain], ?_⟩
  cases blank : allBlank line with
  | true => exact .inl (by simp [opensParagraph, blank])
  | false =>
    cases ends : endsParagraph base line with
    | true => exact .inl (by simp [opensParagraph, ends])
    | false =>
      rcases agrees with rfl | ⟨front, mistaken, back, rfl, spot, wrong, quiet⟩
      · cases open? with
        | false => exact .inl (by simp [opensParagraph, blank, ends])
        | true =>
          by_cases wrong : IsMistaken base line
          · exact .inr ⟨before, line, [], rfl, here, wrong, by simp⟩
          · have same := isUnderline_eq_isSetext ends wrong
            exact .inl (by simp [opensParagraph, blank, ends, same])
      · refine .inr ⟨front, mistaken, back ++ [line], by simp, spot, wrong, fun l member => ?_⟩
        rcases List.mem_append.1 member with earlier | last
        · exact quiet l earlier
        · rw [List.mem_singleton.1 last]
          exact ⟨plain, blank, ends⟩

theorem Reads.each_excused (reads : Reads base inParagraph ls bs)
    (wrapped : ∀ run, Block.code run ∉ bs) {open? : Bool}
    (here : Spot.behind base before = .text open?)
    (agrees : open? = inParagraph ∨ IsAstray base before) : Each (Excused base) before ls := by
  induction reads generalizing before open? with
  | done => trivial
  | @closed inParagraph fence opener closer body rest bs opens inside ends next ih =>
    have shallow := isIndentedCode_of_open? opens
    have entered := Spot.behind_opener here opens
    have within := Spot.behind_body entered inside
    have left : Spot.behind base (before ++ [opener] ++ body ++ [closer]) = .text false := by
      rw [Spot.behind_concat, within, Spot.next, if_pos ends]
    refine ⟨excused_of_plain shallow, (each_append _ _ _).2 ⟨each_excused_body entered inside, ?_⟩⟩
    exact ⟨excused_of_spot within (by simp),
      ih (fun run member => wrapped run (List.mem_cons_of_mem _ member)) left (.inl rfl)⟩
  | @unclosed inParagraph fence opener body opens inside =>
    have shallow := isIndentedCode_of_open? opens
    have entered := Spot.behind_opener here opens
    exact ⟨excused_of_plain shallow, each_excused_body entered inside⟩
  | code indented next ih => exact absurd List.mem_cons_self (wrapped _)
  | @prose inParagraph line rest bs plain text next ih =>
    obtain ⟨next?, there, still⟩ := exists_next plain here agrees
    refine ⟨fun live => ?_, ih (fun run member => wrapped run (List.mem_cons_of_mem _ member))
      there still⟩
    rcases agrees with rfl | astray
    · -- the line is not read as code, so a paragraph is open before it
      obtain rfl : open? = false := by simpa [here] using live.spot
      simp [live.indented] at text
    · exact astray

theorem code_notMem_blocks_sanitizeLines (ls run : List Line) :
    Block.code run ∉ blocks (sanitizeLines ls) := by
  rw [blocks_sanitizeLines]
  intro member
  obtain ⟨b, -, same⟩ := List.mem_map.1 member
  cases b with
  | fenced fence opener body closer =>
    rw [Block.settled] at same
    split at same <;> cases same
  | code ls => cases same
  | prose line => cases same

/-- Read from the top, a sanitized comment has live code only behind a mistaken underline: one that
directly continues a paragraph, with nothing between it and the code that ends a paragraph. -/
theorem astray_of_live (text : List Char) {before after : List Line} {line : Line}
    (whole : lines (sanitize text) = before ++ line :: after)
    (live : IsLive (baseIndent (lines (sanitize text))) before line) :
    IsAstray (baseIndent (lines (sanitize text))) before := by
  rw [lines_sanitize] at whole live ⊢
  have each : Each (Excused (baseIndent (sanitizeLines (lines text)))) []
      (sanitizeLines (lines text)) :=
    (reads_blocks _).each_excused (code_notMem_blocks_sanitizeLines _) rfl (.inl rfl)
  rw [whole, each_append, ← whole] at each
  exact each.2.1 live

def hyphenated : List Char := "Title\n--\n    code".toList

theorem sanitize_hyphenated : sanitize hyphenated = hyphenated := by
  decide +kernel

theorem isLive_hyphenated :
    lines (sanitize hyphenated) = ["Title".toList, "--".toList] ++ ["    code".toList] ∧
    IsLive (baseIndent (lines (sanitize hyphenated))) ["Title".toList, "--".toList]
      "    code".toList := by
  rw [sanitize_hyphenated]
  exact ⟨by decide, ⟨rfl, by decide⟩⟩

theorem astray_of_hyphenated :
    lines (sanitize hyphenated) = ["Title".toList, "--".toList] ++ ["    code".toList] ∧
    IsLive (baseIndent (lines (sanitize hyphenated))) ["Title".toList, "--".toList]
      "    code".toList ∧
    IsAstray (baseIndent (lines (sanitize hyphenated))) ["Title".toList, "--".toList] := by
  obtain ⟨whole, live⟩ := isLive_hyphenated
  exact ⟨whole, live, astray_of_live hyphenated whole live⟩

theorem not_inert_of_hyphens :
    ¬ ∀ (text : List Char) (before after : List Line) (line : Line),
      lines (sanitize text) = before ++ line :: after →
      ¬ IsLive (baseIndent (lines (sanitize text))) before line := by
  intro inert
  obtain ⟨whole, live⟩ := isLive_hyphenated
  exact inert hyphenated _ _ _ whole live

end ProtoModules.Comment
