import Mathlib.Order.Monotone.Basic
import ProtoModules.Proofs.Comment.FenceScan

/-! Where the lines of a comment are found in the sanitized comment. Each line has an image, later lines
have later images, and a line is its own image unless it opens a fragment, which gets the inert
info string. What is no image is a marker line that wraps a run of indented code or closes the
last fence. -/

namespace ProtoModules.Comment
open Text

def IsOutside (base : Nat) (before : List Line) : Prop :=
  (FenceScan.run base ⟨[], none⟩ before).open? = none

/-- The line opens a fenced block that would be compiled and is no complete program. -/
structure OpensFragment (base : Nat) (before : List Line) (line : Line) (after : List Line)
    (fence : Fence) : Prop where
  outside : IsOutside base before
  opens : Fence.open? base line = some fence
  tested : Fence.isTested fence.info = true
  fragment : looksRunnable (after.takeWhile fun l => !fence.closes base l) = false

def EndsOpen (base : Nat) (ls : List Line) (fence : Fence) : Prop :=
  ∃ before opener body, ls = before ++ opener :: body ∧ IsOutside base before ∧
    Fence.open? base opener = some fence ∧ ∀ line ∈ body, fence.closes base line = false

/-- A run of indented code, with the blank lines inside of it, that the lines behind it do not go on. -/
structure IsCodeRun (base : Nat) (run after : List Line) : Prop where
  first : ∃ line ∈ run.head?, isIndentedCode base line = true
  last : ∃ line ∈ run.getLast?, isIndentedCode base line = true
  inside : ∀ line ∈ run, isIndentedCode base line = true ∨ allBlank line = true
  stop : ∀ blanks line rest, after = blanks ++ line :: rest →
    (∀ blank ∈ blanks, allBlank blank = true) → isIndentedCode base line = false

/-- What becomes of a line: the first line of a fragment keeps its indentation and all of its marker and
gets the inert info string, any other line is kept. -/
inductive Becomes (base : Nat) (before : List Line) (line : Line) (after : List Line) : Line → Prop where
  | kept (plain : ∀ fence, ¬ OpensFragment base before line after fence) :
      Becomes base before line after line
  | retagged {fence : Fence} {tail : Line} (marked : line = fence.markerLine tail)
      (full : tail.head? ≠ some fence.mark) (fragment : OpensFragment base before line after fence) :
      Becomes base before line after (fence.markerLine Fence.inert)

/-- How the lines `ls`, which stand behind the lines `before`, are carried over into a sanitized comment. -/
inductive Carried (base : Nat) : (before ls out : List Line) → Prop where
  | done {before : List Line} : Carried base before [] []
  | closed {before : List Line} {fence : Fence} (unclosed : EndsOpen base before fence) :
      Carried base before [] [fence.closer]
  | line {before rest out : List Line} {line new : Line} (own : Becomes base before line rest new)
      (next : Carried base (before ++ [line]) rest out) :
      Carried base before (line :: rest) (new :: out)
  | wrapped {before run rest out : List Line} (code : IsCodeRun base run rest)
      (next : Carried base (before ++ run) rest out) :
      Carried base before (run ++ rest)
        ((wrappingFence base run).inertOpener :: (run ++ (wrappingFence base run).closer :: out))

def baseMarker (base size : Nat) : Line :=
  List.replicate base ' ' ++ List.replicate size Fence.backtick

/-- The lines at `place` and behind the images of the run are no images. They are marker lines that wrap
the run of code that starts at `start`. -/
structure Wraps (base : Nat) (ls out : List Line) (image : Nat → Nat) (start place : Nat)
    (run : List Line) : Prop where
  code : ∃ after, ls.drop start = run ++ after ∧ IsCodeRun base run after
  markers : ∃ size back, 3 ≤ size ∧ out.drop place =
    (baseMarker base size ++ Fence.inert) :: (run ++ baseMarker base size :: back)
  images : ∀ i < run.length, image (start + i) = place + 1 + i
  fresh : ∀ i < ls.length, image i ≠ place ∧ image i ≠ place + 1 + run.length

/-- The line at `image i` of `out` is what becomes of the line at `i` of `ls`; all other lines of `out` are
markers around runs of code or close the last fence. -/
structure IsImage (base : Nat) (before ls out : List Line) (image : Nat → Nat) : Prop where
  increasing : StrictMono image
  carried : ∀ i line, ls[i]? = some line → ∃ new, out[image i]? = some new ∧
    Becomes base (before ++ ls.take i) line (ls.drop (i + 1)) new
  added : ∀ j < out.length, (∀ i < ls.length, image i ≠ j) →
    (∃ start place run, Wraps base ls out image start place run ∧
      (j = place ∨ j = place + 1 + run.length)) ∨
    ∃ fence, EndsOpen base (before ++ ls) fence ∧ fence.closes base fence.closer = true ∧
      out.drop j = [fence.closer]

variable {base : Nat} {inParagraph : Bool} {before ls out run rest : List Line} {bs : List Block}
  {line : Line} {fence : Fence}

theorem IsOutside.exists_run (outside : IsOutside base before) :
    ∃ closed, FenceScan.run base ⟨[], none⟩ before = ⟨closed, none⟩ :=
  ⟨_, congrArg (FenceScan.mk _) outside⟩

def IsInside (base : Nat) (before : List Line) (fence : Fence) : Prop :=
  ∃ closed body, FenceScan.run base ⟨[], none⟩ before = ⟨closed, some ⟨fence, body⟩⟩

theorem IsOutside.open (outside : IsOutside base before)
    (opens : Fence.open? base line = some fence) : IsInside base (before ++ [line]) fence := by
  obtain ⟨closed, scan⟩ := outside.exists_run
  exact ⟨closed, [], by
    rw [FenceScan.run_append, scan, FenceScan.run_cons, FenceScan.step_open opens, FenceScan.run_nil]⟩

theorem IsOutside.append (outside : IsOutside base before)
    (plain : ∀ line ∈ run, Fence.open? base line = none) : IsOutside base (before ++ run) := by
  obtain ⟨closed, scan⟩ := outside.exists_run
  rw [IsOutside, FenceScan.run_append, scan, FenceScan.run_plain plain]

theorem IsInside.append (inside : IsInside base before fence) {body : List Line}
    (held : ∀ line ∈ body, fence.closes base line = false) :
    IsInside base (before ++ body) fence := by
  obtain ⟨closed, first, scan⟩ := inside
  exact ⟨closed, first ++ body, by rw [FenceScan.run_append, scan, FenceScan.run_body held]⟩

theorem IsInside.close (inside : IsInside base before fence)
    (ends : fence.closes base line = true) : IsOutside base (before ++ [line]) := by
  obtain ⟨closed, body, scan⟩ := inside
  rw [IsOutside, FenceScan.run_append, scan, FenceScan.run_cons, FenceScan.step_close ends,
    FenceScan.run_nil]

theorem IsInside.not_opensFragment (inside : IsInside base before fence) (other : Fence) :
    ¬ OpensFragment base before line rest other := by
  obtain ⟨closed, body, scan⟩ := inside
  intro fragment
  have outside := fragment.outside
  rw [IsOutside, scan] at outside
  contradiction

theorem not_opensFragment_of_plain (plain : Fence.open? base line = none) (fence : Fence) :
    ¬ OpensFragment base before line rest fence := by
  intro fragment
  have opens := fragment.opens
  rw [plain] at opens
  contradiction

theorem carried_body (inside : IsInside base before fence) {body : List Line}
    (held : ∀ line ∈ body, fence.closes base line = false)
    (next : Carried base (before ++ body) rest out) :
    Carried base before (body ++ rest) (body ++ out) := by
  induction body generalizing before with
  | nil => simpa using next
  | cons line more ih =>
    rw [List.forall_mem_cons] at held
    have first : ∀ l ∈ [line], fence.closes base l = false := by simpa using held.1
    refine .line (.kept inside.not_opensFragment) (ih (inside.append first) held.2 ?_)
    simpa using next

theorem carried_opener (outside : IsOutside base before)
    (opens : Fence.open? base line = some fence) {body : List Line}
    (whole : (rest.takeWhile fun l => !fence.closes base l) = body)
    (next : Carried base (before ++ [line]) rest out) :
    Carried base before (line :: rest)
      ((if Fence.isTested fence.info && !looksRunnable body then fence.inertOpener else line) ::
        out) := by
  split
  · rename_i retag
    simp only [Bool.and_eq_true, Bool.not_eq_true'] at retag
    obtain ⟨-, -, tail, marked, full, -⟩ := Fence.markerLine_of_open? opens
    exact .line (.retagged marked full ⟨outside, opens, retag.1, by rw [whole, retag.2]⟩) next
  · rename_i keep
    refine .line (.kept fun other fragment => keep ?_) next
    obtain rfl : fence = other := Option.some.inj (opens.symm.trans fragment.opens)
    simp [fragment.tested, ← whole, fragment.fragment]

theorem EndsOpen.closes_closer (unclosed : EndsOpen base ls fence) :
    fence.closes base fence.closer = true := by
  obtain ⟨front, opener, body, -, -, opens, -⟩ := unclosed
  obtain ⟨shallow, sound, -⟩ := Fence.markerLine_of_open? opens
  exact sound.closes_closer shallow

theorem codeRun_last (base : Nat) (ls : List Line) :
    ∀ line ∈ (codeRun base ls).1.getLast?, isIndentedCode base line = true := by
  induction ls with
  | nil => simp [codeRun]
  | cons first rest ih =>
    rw [codeRun]
    dsimp only
    split
    · rename_i indented
      cases run : (codeRun base rest).1 with
      | nil => simpa using indented
      | cons next more => simpa [run] using ih
    · split
      · rename_i blank
        cases run : (codeRun base rest).1 with
        | nil => simp [run] at blank
        | cons next more => simpa [run] using ih
      · simp

theorem codeRun_stop (base : Nat) (ls : List Line) :
    ∀ blanks line rest, (codeRun base ls).2 = blanks ++ line :: rest →
      (∀ blank ∈ blanks, allBlank blank = true) → isIndentedCode base line = false := by
  induction ls with
  | nil => simp [codeRun]
  | cons first rest ih =>
    rw [codeRun]
    dsimp only
    split
    · exact ih
    · rename_i plain
      split
      · exact ih
      · rename_i alone
        intro blanks line behind whole blank
        cases blanks with
        | nil =>
          obtain ⟨rfl, rfl⟩ := List.cons.inj whole
          simpa using plain
        | cons b more =>
          -- the blank line is not part of the run because no run follows
          obtain ⟨rfl, same⟩ := List.cons.inj whole
          rw [List.forall_mem_cons] at blank
          have none : (codeRun base rest).1 = [] := by simpa [blank.1] using alone
          have after := codeRun_append base rest
          rw [none, List.nil_append] at after
          exact ih more line behind (after.trans same) blank.2

theorem isCodeRun_codeRun (indented : isIndentedCode base line = true) (rest : List Line) :
    IsCodeRun base (line :: (codeRun base rest).1) (codeRun base rest).2 where
  first := ⟨line, rfl, indented⟩
  last := by
    have last := codeRun_last base rest
    cases run : (codeRun base rest).1 with
    | nil => exact ⟨line, rfl, indented⟩
    | cons next more =>
      rw [run] at last
      exact ⟨_, rfl, last _ (List.getLast?_cons_cons ▸ rfl)⟩
  inside := List.forall_mem_cons.2 ⟨.inl indented, fun _ member => mem_codeRun member⟩
  stop := codeRun_stop base rest

theorem IsCodeRun.plain (code : IsCodeRun base run rest) :
    ∀ line ∈ run, Fence.open? base line = none :=
  fun line member => open?_of_code_or_blank (code.inside line member)

theorem Reads.carried (reads : Reads base inParagraph ls bs) (outside : IsOutside base before) :
    Carried base before ls (bs.flatMap (Block.sanitized base)) := by
  induction reads generalizing before with
  | done => exact .done
  | @closed inParagraph fence opener closer body rest bs opens held ends next ih =>
    have within : ∀ l ∈ body, (!fence.closes base l) = true := by simpa using held
    have stop : ∀ l ∈ (closer :: rest).head?, (!fence.closes base l) = false := by simpa using ends
    have inside := outside.open opens
    have last := inside.append held
    have behind : Carried base (before ++ [opener]) (body ++ closer :: rest)
        (body ++ closer :: bs.flatMap (Block.sanitized base)) :=
      carried_body inside held (.line (.kept last.not_opensFragment) (ih (last.close ends)))
    have whole := carried_opener outside opens (takeWhile_append_stop within stop) behind
    simpa [Block.sanitized] using whole
  | @unclosed inParagraph fence opener body opens held =>
    have within : ∀ l ∈ body, (!fence.closes base l) = true := by simpa using held
    have inside := outside.open opens
    -- the fence is still open at the end of the comment, where its closer is added
    have ended : EndsOpen base (before ++ [opener] ++ body) fence :=
      ⟨before, opener, body, by simp, outside, opens, held⟩
    have behind : Carried base (before ++ [opener]) body (body ++ [fence.closer]) := by
      simpa using carried_body inside held (.closed ended)
    have whole := carried_opener outside opens (List.takeWhile_eq_self_iff.2 within) behind
    simpa [Block.sanitized] using whole
  | @code line rest bs indented next ih =>
    have code := isCodeRun_codeRun indented rest
    have whole := Carried.wrapped code (ih (outside.append code.plain))
    rw [List.cons_append, codeRun_append] at whole
    simpa [Block.sanitized_code] using whole
  | @prose inParagraph line rest bs plain text next ih =>
    have alone : ∀ l ∈ [line], Fence.open? base l = none := by simpa using plain
    exact .line (.kept (not_opensFragment_of_plain plain)) (ih (outside.append alone))

/-- The first `a` lines are moved by `s` places, and the others have their images `b` places behind. -/
def imageBehind (a s b : Nat) (image : Nat → Nat) (i : Nat) : Nat :=
  if i < a then i + s else image (i - a) + b

variable {a s b i : Nat} {image : Nat → Nat} {own new : List Line}

theorem imageBehind_of_lt (first : i < a) : imageBehind a s b image i = i + s := if_pos first

theorem imageBehind_add (a s b : Nat) (image : Nat → Nat) (i : Nat) :
    imageBehind a s b image (a + i) = image i + b := by
  rw [imageBehind, if_neg (by omega), Nat.add_sub_cancel_left]

theorem imageBehind_cases (a s b : Nat) (image : Nat → Nat) (i : Nat) :
    i < a ∧ imageBehind a s b image i = i + s ∨
      ∃ k, i = a + k ∧ imageBehind a s b image i = image k + b := by
  rcases lt_or_ge i a with first | later
  · exact .inl ⟨first, imageBehind_of_lt first⟩
  · obtain ⟨k, rfl⟩ := Nat.exists_eq_add_of_le later
    exact .inr ⟨k, rfl, imageBehind_add a s b image k⟩

theorem strictMono_imageBehind (fits : a + s ≤ b) (increasing : StrictMono image) :
    StrictMono (imageBehind a s b image) := by
  intro i j before
  rcases imageBehind_cases a s b image i with ⟨first, here⟩ | ⟨k, rfl, here⟩
  · rcases imageBehind_cases a s b image j with ⟨second, there⟩ | ⟨m, rfl, there⟩ <;> omega
  · rcases imageBehind_cases a s b image j with ⟨second, there⟩ | ⟨m, rfl, there⟩
    · omega
    · have later := increasing (show k < m by omega)
      omega

theorem Wraps.behind {start place : Nat} (wraps : Wraps base rest out image start place run)
    (fits : own.length + s ≤ new.length) :
    Wraps base (own ++ rest) (new ++ out) (imageBehind own.length s new.length image)
      (own.length + start) (new.length + place) run where
  code := by
    obtain ⟨after, cut, code⟩ := wraps.code
    exact ⟨after, by rw [List.drop_length_add_append, cut], code⟩
  markers := by
    obtain ⟨size, back, long, cut⟩ := wraps.markers
    exact ⟨size, back, long, by rw [List.drop_length_add_append, cut]⟩
  images i inside := by
    rw [Nat.add_assoc, imageBehind_add, wraps.images i inside]
    omega
  fresh i inside := by
    rw [List.length_append] at inside
    rcases imageBehind_cases own.length s new.length image i with ⟨first, here⟩ | ⟨k, rfl, here⟩
    · omega
    · have apart := wraps.fresh k (by omega)
      omega

theorem IsImage.append (next : IsImage base (before ++ own) rest out image)
    (fits : own.length + s ≤ new.length)
    (carried : ∀ i line, own[i]? = some line → ∃ l, new[i + s]? = some l ∧
      Becomes base (before ++ own.take i) line (own.drop (i + 1) ++ rest) l)
    (added : ∀ j < new.length, (∀ i < own.length, i + s ≠ j) →
      ∃ start place run, Wraps base (own ++ rest) (new ++ out)
        (imageBehind own.length s new.length image) start place run ∧
          (j = place ∨ j = place + 1 + run.length)) :
    IsImage base before (own ++ rest) (new ++ out)
      (imageBehind own.length s new.length image) where
  increasing := strictMono_imageBehind fits next.increasing
  carried i line found := by
    rcases imageBehind_cases own.length s new.length image i with ⟨first, here⟩ | ⟨k, rfl, here⟩
    · rw [List.getElem?_append_left first] at found
      obtain ⟨l, there, own'⟩ := carried i line found
      rw [here, List.getElem?_append_left (by omega), List.take_append_of_le_length first.le,
        List.drop_append_of_le_length first]
      exact ⟨l, there, own'⟩
    · rw [List.getElem?_append_right (Nat.le_add_right ..), Nat.add_sub_cancel_left] at found
      obtain ⟨l, there, own'⟩ := next.carried k line found
      rw [here, List.getElem?_append_right (Nat.le_add_left ..), Nat.add_sub_cancel,
        List.take_length_add_append, Nat.add_assoc, List.drop_length_add_append, ← List.append_assoc]
      exact ⟨l, there, own'⟩
  added j inside fresh := by
    -- an added line is one of the new ones in front or of the ones behind them
    by_cases first : j < new.length
    · refine .inl (added j first fun i own' => ?_)
      have other := fresh i (by rw [List.length_append]; omega)
      rwa [imageBehind_of_lt own'] at other
    · obtain ⟨k, rfl⟩ := Nat.exists_eq_add_of_le (not_lt.1 first)
      rw [List.length_append] at inside
      have fresh' : ∀ i < rest.length, image i ≠ k := by
        intro i own' same
        refine fresh (own.length + i) (by rw [List.length_append]; omega) ?_
        rw [imageBehind_add, same, Nat.add_comm]
      rcases next.added k (by omega) fresh' with
        ⟨start, place, run, wraps, at?⟩ | ⟨fence, ended, closes, last⟩
      · refine .inl ⟨_, _, run, wraps.behind fits, ?_⟩
        omega
      · refine .inr ⟨fence, ?_, closes, ?_⟩
        · rwa [← List.append_assoc]
        · rw [List.drop_length_add_append, last]

theorem wraps_zero (code : IsCodeRun base run rest) (out : List Line) (image : Nat → Nat) :
    Wraps base (run ++ rest)
      ((wrappingFence base run).inertOpener :: (run ++ [(wrappingFence base run).closer]) ++ out)
      (imageBehind run.length 1 (run.length + 2) image) 0 0 run where
  code := ⟨rest, rfl, code⟩
  markers := ⟨(wrappingFence base run).size, out, le_max_left .., by
    simp [baseMarker, Fence.inertOpener, Fence.closer, Fence.marker, wrappingFence]⟩
  images i inside := by
    rw [Nat.zero_add, imageBehind_of_lt inside]
    omega
  fresh i _ := by
    rcases imageBehind_cases run.length 1 (run.length + 2) image i with
      ⟨first, here⟩ | ⟨k, rfl, here⟩ <;> omega

theorem IsImage.wrap (next : IsImage base (before ++ run) rest out image)
    (code : IsCodeRun base run rest) :
    IsImage base before (run ++ rest)
      ((wrappingFence base run).inertOpener :: (run ++ [(wrappingFence base run).closer]) ++ out)
      (imageBehind run.length 1 (run.length + 2) image) := by
  have count : ((wrappingFence base run).inertOpener ::
      (run ++ [(wrappingFence base run).closer])).length = run.length + 2 := by simp
  rw [← count]
  refine next.append (by omega) (fun i line found => ⟨line, ?_, .kept ?_⟩) fun j inside fresh => ?_
  · rw [List.getElem?_cons_succ, List.getElem?_append_left (List.getElem?_eq_some_iff.1 found).1, found]
  · exact not_opensFragment_of_plain (code.plain line (List.mem_of_getElem? found))
  · rw [count] at inside ⊢
    refine ⟨0, 0, run, wraps_zero code out image, ?_⟩
    by_contra other
    exact fresh (j - 1) (by omega) (by omega)

theorem IsImage.cons (next : IsImage base (before ++ [line]) rest out image) {new : Line}
    (own : Becomes base before line rest new) :
    IsImage base before (line :: rest) (new :: out) (imageBehind 1 0 1 image) := by
  have whole : IsImage base before ([line] ++ rest) ([new] ++ out)
      (imageBehind [line].length 0 [new].length image) := by
    refine next.append (by simp) (fun i l found => ?_) fun j inside fresh => ?_
    · obtain ⟨rfl, rfl⟩ : i = 0 ∧ line = l := by
        simpa [List.getElem?_singleton] using found
      exact ⟨new, rfl, by simpa using own⟩
    · obtain rfl : j = 0 := by simpa using inside
      exact absurd rfl (fresh 0 (by simp))
  exact whole

theorem Carried.exists_image (carried : Carried base before ls out) :
    ∃ image, IsImage base before ls out image := by
  induction carried with
  | done => exact ⟨id, strictMono_id, by simp, by simp⟩
  | @closed before fence unclosed =>
    refine ⟨id, strictMono_id, by simp, fun j inside fresh => .inr ⟨fence, ?_, ?_, ?_⟩⟩
    · simpa using unclosed
    · exact unclosed.closes_closer
    · obtain rfl : j = 0 := by simpa using inside
      rfl
  | line own next ih =>
    obtain ⟨image, found⟩ := ih
    exact ⟨_, found.cons own⟩
  | wrapped code next ih =>
    obtain ⟨image, found⟩ := ih
    have whole := found.wrap code
    rw [List.cons_append, List.append_assoc, List.singleton_append] at whole
    exact ⟨_, whole⟩

/-- Sanitizing loses no line of a comment, changes none but the first lines of fragments, keeps their
order and adds marker lines only. -/
theorem exists_image_of_sanitize (text : List Char) :
    ∃ image, IsImage (baseIndent (lines text)) [] (lines text) (lines (sanitize text)) image := by
  have outside : IsOutside (baseIndent (lines text)) [] := rfl
  rw [lines_sanitize]
  exact ((reads_blocks (lines text)).carried outside).exists_image

end ProtoModules.Comment
