import ClusterHarness.Text.Numeral

/-! # Decimal numerals

A numeral holds digits alone, it begins with no zero unless it is that of zero, and its value is the
number that it was written for. So two numbers are never written alike.
-/

namespace ClusterHarness.Text

theorem digitChar_toNat {n : Nat} (h : n < 10) : (digitChar n).toNat = 48 + n := by
  have valid : (48 + n).isValidChar := Or.inl (by omega)
  rw [digitChar, Char.ofNat, dif_pos valid]
  rfl

theorem isDigit_digitChar {n : Nat} (h : n < 10) : isDigit (digitChar n) = true := by
  have bounds : 48 ≤ 48 + n ∧ 48 + n ≤ 57 := by omega
  simp [isDigit, digitValue?, digitChar_toNat h, bounds]

theorem decimal_of_lt {n : Nat} (h : n < 10) : decimal n = [digitChar n] := by
  rw [decimal, if_pos h]

theorem decimal_of_le {n : Nat} (h : 10 ≤ n) :
    decimal n = decimal (n / 10) ++ [digitChar (n % 10)] := by
  rw [decimal, if_neg (by omega)]

theorem isDigit_of_mem_decimal {n : Nat} {c : Char} (h : c ∈ decimal n) : isDigit c = true := by
  induction n using decimal.induct with
  | case1 n small =>
      rw [decimal_of_lt small, List.mem_singleton] at h
      exact h ▸ isDigit_digitChar small
  | case2 n large ih =>
      rw [decimal_of_le (by omega), List.mem_append, List.mem_singleton] at h
      rcases h with h | rfl
      · exact ih h
      · exact isDigit_digitChar (by omega)

/-- The value that digits have behind those of a value. -/
def digitsValue (value : Nat) (digits : List Char) : Nat :=
  digits.foldl (fun v c => v * 10 + (c.toNat - 48)) value

theorem digitsValue_decimal (n : Nat) : digitsValue 0 (decimal n) = n := by
  induction n using decimal.induct with
  | case1 n small =>
      rw [decimal_of_lt small]
      simp only [digitsValue, List.foldl_cons, List.foldl_nil, digitChar_toNat small]
      omega
  | case2 n large ih =>
      rw [decimal_of_le (by omega), digitsValue, List.foldl_append]
      rw [digitsValue] at ih
      simp only [ih, List.foldl_cons, List.foldl_nil, digitChar_toNat (show n % 10 < 10 by omega)]
      omega

theorem decimal_zero : decimal 0 = ['0'] := decimal_of_lt (by omega)

/-- A numeral begins with a zero only if it is that of zero. -/
theorem decimal_eq_cons {n : Nat} (h : n ≠ 0) : ∃ c rest, decimal n = c :: rest ∧ c ≠ '0' := by
  induction n using decimal.induct with
  | case1 n small =>
      refine ⟨digitChar n, [], decimal_of_lt small, fun zero => h ?_⟩
      have value := congrArg Char.toNat zero
      rw [digitChar_toNat small] at value
      exact Nat.add_left_cancel value
  | case2 n large ih =>
      obtain ⟨c, rest, front, digit⟩ := ih (by omega)
      exact ⟨c, rest ++ [digitChar (n % 10)], by rw [decimal_of_le (by omega), front]; rfl, digit⟩

theorem decimal_ne_nil (n : Nat) : decimal n ≠ [] := by
  by_cases zero : n = 0
  · simp [zero, decimal_zero]
  · obtain ⟨c, rest, front, -⟩ := decimal_eq_cons zero
    simp [front]

theorem le_digitsValue (value : Nat) (digits : List Char) : value ≤ digitsValue value digits := by
  induction digits generalizing value with
  | nil => exact Nat.le_refl value
  | cons c digits ih =>
      have more := ih (value * 10 + (c.toNat - 48))
      rw [digitsValue, List.foldl_cons]
      rw [digitsValue] at more
      omega

theorem digitValue?_of_isDigit {c : Char} (h : isDigit c = true) : digitValue? c = some (c.toNat - 48) := by
  rw [isDigit, digitValue?] at h
  rw [digitValue?]
  split at h
  · rename_i bounds
    rw [if_pos bounds]
  · cases h

/-- Digits are read one after the other, as long as their value is within the bound. -/
theorem readDigits_of_le {bound : Nat} {excess : NumeralFault} {digits : List Char} {value : Nat}
    (all : ∀ c ∈ digits, isDigit c = true) (fits : digitsValue value digits ≤ bound) :
    readDigits bound excess value digits = .ok (digitsValue value digits) := by
  induction digits generalizing value with
  | nil => rfl
  | cons c digits ih =>
      rw [digitsValue, List.foldl_cons] at fits ⊢
      have next := Nat.le_trans (le_digitsValue (value * 10 + (c.toNat - 48)) digits) fits
      simp only [readDigits, digitValue?_of_isDigit (all c (by simp)), if_neg (Nat.not_lt.mpr next)]
      exact ih (fun d hd => all d (by simp [hd])) fits

theorem ne_of_isDigit {c d : Char} (digit : isDigit c = true) (other : isDigit d = false) : c ≠ d := by
  rintro rfl
  rw [digit] at other
  cases other

/-- A numeral without a sign is read as its value. -/
theorem readNat_of_digits {bound : Nat} {digits : List Char} (some : digits ≠ [])
    (all : ∀ c ∈ digits, isDigit c = true) (fits : digitsValue 0 digits ≤ bound) :
    readNat bound digits = .ok (digitsValue 0 digits) := by
  have value : readDigits bound .tooLarge 0 digits = _ := readDigits_of_le all fits
  obtain ⟨c, rest, rfl⟩ := List.exists_cons_of_ne_nil some
  have plus : c ≠ '+' := ne_of_isDigit (all c (by simp)) (by decide)
  unfold readNat
  split <;> simp_all

/-- A numeral without a minus sign is read as a signed one as well. -/
theorem readInt_of_readNat {low high n : Nat} {c : Char} {rest : List Char} (minus : c ≠ '-')
    (value : readNat high (c :: rest) = .ok n) : readInt low high (c :: rest) = .ok (n : Int) := by
  unfold readInt
  split
  · simp_all
  · simp_all
  · rw [value]
    rfl

/-- Whether a text is the numeral of a number: digits, which may have a plus sign in front. -/
def Spells (s : String) (n : Nat) : Prop :=
  ∃ digits, (s.toList = digits ∨ s.toList = '+' :: digits) ∧ digits ≠ [] ∧
    (∀ c ∈ digits, isDigit c = true) ∧ digitsValue 0 digits = n

theorem readInt_of_spells {low high n : Nat} {s : String} (spells : Spells s n) (fits : n ≤ high) :
    readInt low high s.toList = .ok (n : Int) := by
  obtain ⟨digits, front, some, all, rfl⟩ := spells
  have plain := readNat_of_digits some all fits
  have signed : readDigits high .tooLarge 0 digits = _ := readDigits_of_le all fits
  obtain ⟨c, rest, rfl⟩ := List.exists_cons_of_ne_nil some
  rcases front with front | front
  · rw [front]
    exact readInt_of_readNat (ne_of_isDigit (all c (by simp)) (by decide)) plain
  · rw [front]
    exact readInt_of_readNat (by decide) signed

/-- What is read digit by digit is the value of the digits, within the bound. -/
theorem of_readDigits {bound value n : Nat} {excess : NumeralFault} {digits : List Char}
    (h : readDigits bound excess value digits = .ok n) (start : value ≤ bound) :
    (∀ c ∈ digits, isDigit c = true) ∧ digitsValue value digits = n ∧ n ≤ bound := by
  induction digits generalizing value with
  | nil =>
      cases h
      exact ⟨by simp, rfl, start⟩
  | cons c digits ih =>
      rw [readDigits] at h
      split at h
      · cases h
      · rename_i d digit
        split at h
        · cases h
        · rename_i within
          obtain ⟨all, sum, fits⟩ := ih h (by omega)
          have first : isDigit c = true := by rw [isDigit, digit]; rfl
          have value_c := digitValue?_of_isDigit first
          rw [digit, Option.some.injEq] at value_c
          refine ⟨by simpa [first] using all, ?_, fits⟩
          rw [digitsValue, List.foldl_cons, ← value_c]
          exact sum

/-- An unsigned numeral is read just when it spells a number within the bound. -/
theorem readNat_eq_ok_iff {bound n : Nat} {s : String} :
    readNat bound s.toList = .ok n ↔ Spells s n ∧ n ≤ bound := by
  constructor
  · intro h
    unfold readNat at h
    split at h
    · cases h
    · cases h
    · rename_i digits alone whole
      obtain ⟨all, value, fits⟩ := of_readDigits h (Nat.zero_le bound)
      exact ⟨⟨digits, .inr whole, alone, all, value⟩, fits⟩
    · rename_i empty _ _
      obtain ⟨all, value, fits⟩ := of_readDigits h (Nat.zero_le bound)
      exact ⟨⟨s.toList, .inl rfl, empty, all, value⟩, fits⟩
  · rintro ⟨⟨digits, front, some, all, rfl⟩, fits⟩
    rcases front with front | front
    · rw [front]
      exact readNat_of_digits some all fits
    · have signed : readDigits bound .tooLarge 0 digits = _ := readDigits_of_le all fits
      obtain ⟨c, rest, rfl⟩ := List.exists_cons_of_ne_nil some
      rw [front]
      exact signed

theorem Spells.unique {s : String} {m n : Nat} (first : Spells s m) (second : Spells s n) : m = n := by
  have value : readInt 0 (max m n) s.toList = _ := readInt_of_spells first (Nat.le_max_left m n)
  rw [readInt_of_spells second (Nat.le_max_right m n)] at value
  cases value
  rfl

theorem Spells.ne_empty {s : String} {n : Nat} (spells : Spells s n) : s ≠ "" := by
  rintro rfl
  obtain ⟨digits, front | front, some, -⟩ := spells
  · exact some front.symm
  · cases front

theorem natText_injective {m n : Nat} (h : natText m = natText n) : m = n := by
  have same : decimal m = decimal n := String.ofList_injective h
  rw [← digitsValue_decimal m, same, digitsValue_decimal]

theorem boolText_injective {a b : Bool} (h : boolText a = boolText b) : a = b := by
  revert a b
  decide

/-- The sign of a numeral is no digit, so that it tells negative numbers from others. -/
theorem intText_injective {m n : Int} (h : intText m = intText n) : m = n := by
  have apart : ∀ k l : Nat, natText k ≠ "-" ++ natText l := by
    intro k l same
    have chars : decimal k = '-' :: decimal l := by
      simpa [natText] using congrArg String.toList same
    exact absurd (isDigit_of_mem_decimal (n := k) (c := '-') (by simp [chars])) (by decide)
  cases m with
  | ofNat m =>
      cases n with
      | ofNat n => rw [natText_injective h]
      | negSucc n => exact absurd h (apart m (n + 1))
  | negSucc m =>
      cases n with
      | ofNat n => exact absurd h.symm (apart n (m + 1))
      | negSucc n =>
          have same : natText (m + 1) = natText (n + 1) := String.append_right_inj "-" |>.mp h
          rw [Nat.succ.inj (natText_injective same)]

end ClusterHarness.Text
