import ClusterHarness.Proofs.Text.Numeral
import ClusterHarness.Text.Lowercase

/-! # Lower case

A character without a case of its own, such as a digit or a mark, is still there in lower case.
-/

namespace ClusterHarness.Text

theorem toNat_toLower (c : Char) :
    c.toLower.toNat = if 65 ≤ c.toNat ∧ c.toNat ≤ 90 then c.toNat + 32 else c.toNat := by
  have bounds : (c.val ≥ 'A'.val ∧ c.val ≤ 'Z'.val) ↔ 65 ≤ c.toNat ∧ c.toNat ≤ 90 := by
    rw [ge_iff_le, UInt32.le_iff_toNat_le, UInt32.le_iff_toNat_le]
    rfl
  unfold Char.toLower
  by_cases capital : 65 ≤ c.toNat ∧ c.toNat ≤ 90
  · rw [dif_pos (bounds.mpr capital), if_pos capital]
    change (c.val + 32).toNat = c.toNat + 32
    rw [UInt32.toNat_add]
    change (c.toNat + 32) % 2 ^ 32 = c.toNat + 32
    omega
  · rw [dif_neg (mt bounds.mp capital), if_neg capital]

/-- A letter and its capital are the characters that ASCII lowers to the letter. -/
theorem toLower_eq_iff {c letter capital : Char} (range : 65 ≤ capital.toNat ∧ capital.toNat ≤ 90)
    (pair : letter.toNat = capital.toNat + 32) : c.toLower = letter ↔ c = letter ∨ c = capital := by
  rw [← Char.toNat_inj, toNat_toLower, ← Char.toNat_inj, ← Char.toNat_inj]
  split <;> omega

/-- A character that lower case leaves as it is, whatever stands around it. -/
structure IsCaseless (c : Char) : Prop where
  lower : lowerChar c = c
  sigma : c ≠ 'Σ'
  dotted : c ≠ 'İ'

theorem isCaseless_of_isDigit {c : Char} (digit : isDigit c = true) : IsCaseless c := by
  have bounds : 48 ≤ c.toNat ∧ c.toNat ≤ 57 := by
    rw [isDigit, digitValue?] at digit
    split at digit
    · rename_i bounds
      simpa using bounds
    · cases digit
  refine ⟨?_, ne_of_isDigit digit (by decide), ne_of_isDigit digit (by decide)⟩
  rw [lowerChar, if_pos (by omega), ← Char.toNat_inj, toNat_toLower, if_neg (by omega)]

theorem lowerFrom_cons {c : Char} (caseless : IsCaseless c) (before rest : List Char) :
    lowerFrom before (c :: rest) = c :: lowerFrom (c :: before) rest := by
  rw [lowerFrom, if_neg (by simpa using caseless.sigma), if_neg (by simpa using caseless.dotted),
    caseless.lower]
  rfl

theorem mem_lowerFrom {c : Char} (caseless : IsCaseless c) {s : List Char} (there : c ∈ s)
    (before : List Char) : c ∈ lowerFrom before s := by
  induction s generalizing before with
  | nil => cases there
  | cons d rest ih =>
      rcases List.mem_cons.mp there with rfl | later
      · rw [lowerFrom_cons caseless]
        exact List.mem_cons_self
      · rw [lowerFrom]
        exact List.mem_append_right _ (ih later (d :: before))

theorem mem_lower {c : Char} (caseless : IsCaseless c) {s : String} (there : c ∈ s.toList) :
    c ∈ (lower s).toList := by
  rw [lower, String.toList_ofList]
  exact mem_lowerFrom caseless there []

/-- A text begins with a character without case if it does so in lower case. -/
theorem head?_lower {c : Char} (caseless : IsCaseless c) {s : String} {rest : List Char}
    (front : s.toList = c :: rest) : (lower s).toList.head? = some c := by
  rw [lower, String.toList_ofList, front, lowerFrom_cons caseless]
  rfl

end ClusterHarness.Text
