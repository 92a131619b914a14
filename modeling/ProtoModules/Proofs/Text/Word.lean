import ProtoModules.Text.Word

/-! Classes of characters. Letters and digits lie in ASCII, no capital is a small letter or a digit, and
the digits of other scripts lie outside of ASCII. -/

namespace ProtoModules.Text

theorem CodeRange.parseList_cons (row : List Char) (rows : List String) :
    CodeRange.parseList (String.ofList row :: rows) =
      (splitOn ' ' row).map CodeRange.parse ++ CodeRange.parseList rows := by
  simp [CodeRange.parseList, String.toList_ofList]

theorem digitTable_rows :
    (digitTable.any fun row => row.first == 0x30 && row.last == 0x39) = true ∧
    (digitTable.all fun row => (row.first == 0x30 && row.last == 0x39) || 0x80 ≤ row.first) = true := by
  rw [digitTable]
  repeat rw [CodeRange.parseList_cons]
  decide +kernel

theorem isDecimal_eq {c : Char} (ascii : c.toNat < 0x80) : isDecimal c = isDigit c := by
  obtain ⟨own, rows⟩ := digitTable_rows
  simp only [List.any_eq_true, List.all_eq_true, Bool.and_eq_true, Bool.or_eq_true, beq_iff_eq,
    decide_eq_true_eq] at own rows
  rw [Bool.eq_iff_iff, isDecimal, List.any_eq_true]
  simp only [CodeRange.holds, isDigit, Bool.and_eq_true, decide_eq_true_eq]
  constructor
  · rintro ⟨row, member, low, high⟩
    rcases rows row member with ⟨first, last⟩ | far
    · omega
    · omega
  · rintro ⟨low, high⟩
    obtain ⟨row, member, first, last⟩ := own
    exact ⟨row, member, by omega, by omega⟩

theorem ascii_of_isAlnum {c : Char} (word : isAlnum c = true) : c.toNat < 0x80 := by
  simp only [isAlnum, isUpper, isLower, isDigit, Bool.or_eq_true, Bool.and_eq_true,
    decide_eq_true_eq] at word
  omega

theorem not_isLower_of_isUpper {c : Char} (capital : isUpper c = true) : isLower c = false := by
  simp only [isUpper, Bool.and_eq_true, decide_eq_true_eq] at capital
  simp only [isLower, Bool.and_eq_false_iff, decide_eq_false_iff_not]
  omega

theorem not_isUpper_of_isLower {c : Char} (small : isLower c = true) : isUpper c = false := by
  simp only [isLower, Bool.and_eq_true, decide_eq_true_eq] at small
  simp only [isUpper, Bool.and_eq_false_iff, decide_eq_false_iff_not]
  omega

theorem not_isDecimal_of_isUpper {c : Char} (capital : isUpper c = true) : isDecimal c = false := by
  simp only [isUpper, Bool.and_eq_true, decide_eq_true_eq] at capital
  rw [isDecimal_eq (by omega)]
  simp only [isDigit, Bool.and_eq_false_iff, decide_eq_false_iff_not]
  omega

theorem toNat_toLower {c : Char} (capital : isUpper c = true) :
    (toLower c).toNat = c.toNat + 0x20 := by
  have range : 0x41 ≤ c.toNat ∧ c.toNat ≤ 0x5a := by simpa [isUpper] using capital
  have valid : (c.toNat + 0x20).isValidChar := by
    left
    omega
  rw [toLower, if_pos capital, Char.ofNat, dif_pos valid]
  rfl

theorem toLower_of_not_isUpper {c : Char} (plain : isUpper c = false) : toLower c = c := by
  simp [toLower, plain]

theorem isLower_or_isDigit_toLower {c : Char} (word : isAlnum c = true) :
    isLower (toLower c) = true ∨ isDigit (toLower c) = true := by
  cases capital : isUpper c with
  | true =>
    have small := toNat_toLower capital
    simp only [isUpper, Bool.and_eq_true, decide_eq_true_eq] at capital
    left
    simp only [isLower, Bool.and_eq_true, decide_eq_true_eq]
    omega
  | false =>
    rw [toLower_of_not_isUpper capital]
    simpa [isAlnum, capital] using word

end ProtoModules.Text
