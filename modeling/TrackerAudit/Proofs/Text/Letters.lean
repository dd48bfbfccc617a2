import TrackerAudit.Text.Basic

/-!
# Letters

A letter is a capital or a small letter, and either kind is one stretch of ASCII (`isUpper_iff`, `isLower_iff`). A capital
turns into a small letter and any other character stays (`toLower_cases`), so that no character but a letter turns into
another one or comes from one (`toLower_eq_iff`).
-/

namespace TrackerAudit.Text

variable {c d : Char}

/-! ### Kinds of letters -/

theorem isAlpha_eq (c : Char) : c.isAlpha = (c.isUpper || c.isLower) := rfl

theorem isUpper_iff : c.isUpper = true ↔ 65 ≤ c.toNat ∧ c.toNat ≤ 90 := by
  have hbounds : c.isUpper = decide ('A'.val ≤ c.val ∧ c.val ≤ 'Z'.val) := rfl
  rw [hbounds, decide_eq_true_eq, UInt32.le_iff_toNat_le, UInt32.le_iff_toNat_le]
  rfl

theorem isLower_iff : c.isLower = true ↔ 97 ≤ c.toNat ∧ c.toNat ≤ 122 := by
  have hbounds : c.isLower = (decide ('a'.val ≤ c.val) && decide (c.val ≤ 'z'.val)) := rfl
  rw [hbounds, Bool.and_eq_true, decide_eq_true_eq, decide_eq_true_eq, UInt32.le_iff_toNat_le, UInt32.le_iff_toNat_le]
  rfl

theorem toNat_lt_of_isAlpha (h : c.isAlpha = true) : c.toNat < 128 := by
  rw [isAlpha_eq, Bool.or_eq_true, isUpper_iff, isLower_iff] at h
  omega

/-! ### Small letters -/

/-- A capital turns into the small letter that stands 32 places later, and any other character stays. -/
theorem toLower_cases (c : Char) :
    c.isUpper = true ∧ c.toLower.toNat = c.toNat + 32 ∨ c.isUpper = false ∧ c.toLower = c := by
  unfold Char.toLower
  split
  · rename_i h
    have hupper : c.isUpper = true := decide_eq_true h
    have hsum : (c.val + ('a'.val - 'A'.val)).toNat = (c.toNat + 32) % 4294967296 := UInt32.toNat_add _ _
    have hbounds := isUpper_iff.1 hupper
    exact Or.inl ⟨hupper, hsum.trans (by omega)⟩
  · rename_i h
    exact Or.inr ⟨decide_eq_false h, rfl⟩

theorem isUpper_toLower (c : Char) : c.toLower.isUpper = false := by
  rw [← Bool.not_eq_true, isUpper_iff]
  rcases toLower_cases c with ⟨hupper, hshift⟩ | ⟨hupper, hstays⟩
  · rw [isUpper_iff] at hupper
    omega
  · rwa [hstays, ← isUpper_iff, Bool.not_eq_true]

theorem toLower_of_not_isUpper (h : c.isUpper = false) : c.toLower = c := by
  rcases toLower_cases c with ⟨hupper, -⟩ | ⟨-, hstays⟩
  · rw [h] at hupper
    cases hupper
  · exact hstays

theorem toLower_toLower (c : Char) : c.toLower.toLower = c.toLower := toLower_of_not_isUpper (isUpper_toLower c)

theorem isAlpha_toLower (c : Char) : c.toLower.isAlpha = c.isAlpha := by
  rcases toLower_cases c with ⟨hupper, hshift⟩ | ⟨-, hstays⟩
  · have hlower : c.toLower.isLower = true := by
      rw [isUpper_iff] at hupper
      rw [isLower_iff]
      omega
    rw [isAlpha_eq, isAlpha_eq, hupper, hlower, Bool.or_true, Bool.true_or]
  · rw [hstays]

theorem toLower_eq_self (h : c.isAlpha = false) : c.toLower = c := by
  rw [isAlpha_eq, Bool.or_eq_false_iff] at h
  exact toLower_of_not_isUpper h.1

/-- A character that is no letter is the small form of itself only. -/
theorem toLower_eq_iff (hd : d.isAlpha = false) : c.toLower = d ↔ c = d := by
  constructor
  · rintro rfl
    rw [isAlpha_toLower] at hd
    exact (toLower_eq_self hd).symm
  · rintro rfl
    exact toLower_eq_self hd

/-- Two characters with the same small form are equal or are both letters. -/
theorem eq_or_isAlpha_of_toLower_eq (h : d.toLower = c.toLower) : d = c ∨ d.isAlpha = true ∧ c.isAlpha = true := by
  have halpha : d.isAlpha = c.isAlpha := by
    rw [← isAlpha_toLower d, h, isAlpha_toLower]
  cases hc : c.isAlpha with
  | true => exact Or.inr ⟨halpha.trans hc, rfl⟩
  | false =>
    rw [toLower_eq_self hc, toLower_eq_self (halpha.trans hc)] at h
    exact Or.inl h

end TrackerAudit.Text
