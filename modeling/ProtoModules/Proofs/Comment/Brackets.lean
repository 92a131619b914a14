import Mathlib.Computability.ContextFreeGrammar
import ProtoModules.Proofs.Comment.Program
import ProtoModules.Proofs.Text.Literal

/-! Brackets that balance. The brackets of code balance when a grammar derives them: a text is
empty, or it is a pair of brackets around a text, with another text behind it. The check takes one
step of a derivation for each bracket it reads, and no step of a derivation changes what the check
says. -/

namespace ProtoModules.Comment
open Text

def isBracket (c : Char) : Bool := ['(', ')', '[', ']', '{', '}'].contains c

def enclosing (opener closer : Char) : ContextFreeRule Char Unit :=
  ⟨(), [.terminal opener, .nonterminal (), .terminal closer, .nonterminal ()]⟩

def bracketRules : Finset (ContextFreeRule Char Unit) :=
  {⟨(), []⟩, enclosing '(' ')', enclosing '[' ']', enclosing '{' '}'}

def bracketGrammar : ContextFreeGrammar Char where
  NT := Unit
  initial := ()
  rules := bracketRules

abbrev Form := List (Symbol Char Unit)

def terminals : Form → List Char
  | [] => []
  | .terminal c :: rest => c :: terminals rest
  | .nonterminal _ :: rest => terminals rest

def closerOf : Char → Char
  | '(' => ')'
  | '[' => ']'
  | _ => '}'

/-- What is left to derive behind the brackets that have been read. Those that are pending are
closed one by one, the innermost first, and any text can stand in front of each and at the end. -/
def awaiting : List Char → Form
  | [] => [.nonterminal ()]
  | p :: outer => .nonterminal () :: .terminal (closerOf p) :: awaiting outer

theorem closerOf_of_pair {c o : Char} (pair : openerOf? c = some o) : closerOf o = c := by
  unfold openerOf? at pair
  split at pair <;> cases pair <;> rfl

theorem not_isOpener_of_pair {c o : Char} (pair : openerOf? c = some o) : isOpener c = false := by
  unfold openerOf? at pair
  split at pair <;> cases pair <;> rfl

theorem isBracket_iff {c : Char} :
    isBracket c = true ↔ isOpener c = true ∨ (openerOf? c).isSome = true := by
  unfold openerOf?
  split <;> simp_all [isBracket, isOpener, or_assoc]

theorem nothing_mem : ⟨(), []⟩ ∈ bracketRules := Finset.mem_insert_self _ _

theorem enclosing_mem {o : Char} (opens : isOpener o = true) :
    enclosing o (closerOf o) ∈ bracketRules := by
  simp only [isOpener, Bool.or_eq_true, beq_iff_eq] at opens
  rcases opens with (rfl | rfl) | rfl <;> simp [bracketRules, closerOf]

theorem rule_cases {rule : ContextFreeRule Char Unit} (member : rule ∈ bracketRules) :
    rule = ⟨(), []⟩ ∨ ∃ o c, isOpener o = true ∧ openerOf? c = some o ∧ rule = enclosing o c := by
  simp only [bracketRules, Finset.mem_insert, Finset.mem_singleton] at member
  rcases member with rfl | rfl | rfl | rfl
  · exact .inl rfl
  · exact .inr ⟨'(', ')', rfl, rfl, rfl⟩
  · exact .inr ⟨'[', ']', rfl, rfl, rfl⟩
  · exact .inr ⟨'{', '}', rfl, rfl, rfl⟩

theorem balancesAfter_pair {o c : Char} (opens : isOpener o = true) (pair : openerOf? c = some o)
    (pending code : List Char) :
    balancesAfter pending (o :: c :: code) = balancesAfter pending code := by
  simp [balancesAfter, opens, pair, not_isOpener_of_pair pair]

theorem balancesAfter_of_rewrites {rule : ContextFreeRule Char Unit} (member : rule ∈ bracketRules)
    {form next : Form} (step : rule.Rewrites form next) (pending : List Char) :
    balancesAfter pending (terminals next) = balancesAfter pending (terminals form) := by
  -- brackets in front of the place that is rewritten open and close the same in both forms
  induction step generalizing pending with
  | head rest =>
    rcases rule_cases member with rfl | ⟨o, c, opens, pair, rfl⟩
    · rfl
    · exact balancesAfter_pair opens pair pending (terminals rest)
  | cons symbol _ ih =>
    cases symbol with
    | terminal c => exact balancesAfter_cons ih pending
    | nonterminal _ => exact ih pending

theorem balancesAfter_of_derives {form next : Form} (derives : bracketGrammar.Derives form next)
    (pending : List Char) :
    balancesAfter pending (terminals next) = balancesAfter pending (terminals form) := by
  induction derives with
  | refl => rfl
  | tail _ last ih =>
    obtain ⟨rule, member, step⟩ := last
    rw [balancesAfter_of_rewrites member step, ih]

theorem produces_open {o : Char} (opens : isOpener o = true) (pending : List Char) :
    bracketGrammar.Produces (awaiting pending) (.terminal o :: awaiting (o :: pending)) := by
  cases pending with
  | nil => exact ⟨_, enclosing_mem opens, .head _⟩
  | cons p outer => exact ⟨_, enclosing_mem opens, .head _⟩

theorem produces_close {c o : Char} (pair : openerOf? c = some o) (outer : List Char) :
    bracketGrammar.Produces (awaiting (o :: outer)) (.terminal c :: awaiting outer) := by
  rw [← closerOf_of_pair pair]
  exact ⟨_, nothing_mem, .head _⟩

theorem produces_end : bracketGrammar.Produces (awaiting []) [] := ⟨_, nothing_mem, .head _⟩

theorem derives_of_balancesAfter {pending code : List Char}
    (balances : balancesAfter pending code = true) :
    bracketGrammar.Derives (awaiting pending) ((code.filter isBracket).map .terminal) := by
  fun_induction balancesAfter pending code with
  | case1 pending =>
    rw [List.isEmpty_iff.1 balances]
    exact produces_end.single
  | case2 pending c rest opens ih =>
    rw [List.filter_cons_of_pos (isBracket_iff.2 (.inl opens))]
    exact (produces_open opens pending).trans_derives ((ih balances).append_left [.terminal c])
  | case3 pending c rest opens none ih =>
    rw [List.filter_cons_of_neg (by simp [isBracket_iff, opens, none])]
    exact ih balances
  | case4 => cases balances
  | case5 c rest opens o outer pair ih =>
    rw [List.filter_cons_of_pos (isBracket_iff.2 (.inr (by simp [pair])))]
    exact (produces_close pair outer).trans_derives ((ih balances).append_left [.terminal c])
  | case6 => cases balances

theorem balancesAfter_filter (pending code : List Char) :
    balancesAfter pending (code.filter isBracket) = balancesAfter pending code := by
  induction code generalizing pending with
  | nil => rfl
  | cons c rest ih =>
    by_cases bracket : isBracket c = true
    · rw [List.filter_cons_of_pos bracket]
      exact balancesAfter_cons ih pending
    · obtain ⟨opens, closes⟩ := not_or.1 (mt isBracket_iff.2 bracket)
      rw [List.filter_cons_of_neg bracket, ih,
        balancesAfter_plain (by simpa using opens) (by simpa using closes)]

theorem terminals_map_terminal (text : List Char) : terminals (text.map .terminal) = text := by
  induction text with
  | nil => rfl
  | cons c rest ih => rw [List.map_cons, terminals, ih]

/-- The brackets of code balance iff the grammar derives those that are left once all literals are
emptied, and there is one way to empty them. -/
theorem bracketsBalance_iff_derivable (code : List Char) :
    (∀ emptied, Emptied code emptied ↔ emptied = blankLiterals code) ∧
      (bracketsBalance code = true ↔
        (blankLiterals code).filter isBracket ∈ bracketGrammar.language) := by
  refine ⟨fun emptied => emptied_iff, derives_of_balancesAfter, fun derives => ?_⟩
  calc bracketsBalance code
      = balancesAfter [] ((blankLiterals code).filter isBracket) := (balancesAfter_filter [] _).symm
    _ = balancesAfter [] (terminals (((blankLiterals code).filter isBracket).map .terminal)) := by
      rw [terminals_map_terminal]
    _ = true := balancesAfter_of_derives derives []

/-- A bracket in a literal is not read, and a quote that is never closed hides none. -/
example : bracketsBalance "f(\"[\\\"(\")".toList = true ∧
    bracketsBalance "f(\"[)".toList = false := by decide

end ProtoModules.Comment
