/-! Cutting a text at separators and joining the pieces again. The separators stand between pieces,
so a text always has at least one piece and joining the pieces of a text gives the text back. -/

namespace ProtoModules.Text

/-- The pieces between the characters that satisfy `isSeparator`. -/
def splitWhere (isSeparator : Char → Bool) : List Char → List (List Char)
  | [] => [[]]
  | c :: rest =>
    if isSeparator c then [] :: splitWhere isSeparator rest
    else
      match splitWhere isSeparator rest with
      | [] => [[c]]
      | piece :: pieces => (c :: piece) :: pieces

def splitOn (separator : Char) (s : List Char) : List (List Char) :=
  splitWhere (· == separator) s

def joinWith (separator : Char) : List (List Char) → List Char
  | [] => []
  | [piece] => piece
  | piece :: pieces => piece ++ separator :: joinWith separator pieces

/-- Whether `part` stands somewhere in the text. -/
def holds (part : List Char) : List Char → Bool
  | [] => part.isEmpty
  | c :: rest => part.isPrefixOf (c :: rest) || holds part rest

theorem splitWhere_ne_nil (p : Char → Bool) (s : List Char) : splitWhere p s ≠ [] := by
  cases s with
  | nil => simp [splitWhere]
  | cons c rest =>
    by_cases h : p c <;> simp only [splitWhere, h, if_true, if_false, Bool.false_eq_true]
    · simp
    · split <;> simp

theorem joinWith_splitOn (separator : Char) (s : List Char) :
    joinWith separator (splitOn separator s) = s := by
  induction s with
  | nil => rfl
  | cons c rest ih =>
    have pieced := splitWhere_ne_nil (· == separator) rest
    unfold splitOn at *
    by_cases h : c = separator
    · subst h
      cases e : splitWhere (· == c) rest with
      | nil => exact absurd e pieced
      | cons piece pieces => simp [splitWhere, e, joinWith] at ih ⊢; exact ih
    · have h' : (c == separator) = false := by simpa using h
      cases e : splitWhere (· == separator) rest with
      | nil => exact absurd e pieced
      | cons piece pieces =>
        cases pieces with
        | nil => simp [splitWhere, e, h', joinWith] at ih ⊢; exact ih
        | cons next pieces => simp [splitWhere, e, h', joinWith] at ih ⊢; exact ih

end ProtoModules.Text
