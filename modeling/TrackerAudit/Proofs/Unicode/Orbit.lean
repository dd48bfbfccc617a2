import TrackerAudit.Proofs.Text.Letters
import TrackerAudit.Regex.Basic
import TrackerAudit.Unicode.Fold

/-!
# Characters that fold alike

The orbit of a character has exactly the characters that fold like it (`mem_orbit`), so a folded set has the characters
that fold like a member (`CharSet.mem_folded`).

Among ASCII characters folding is the passage to small letters. Beyond ASCII only two characters fold into it, the
Kelvin sign and the long s (`isStray`). Any other character folds like an ASCII character exactly if both have the same
small letter (`fold_eq_fold_iff`).
-/

namespace TrackerAudit

namespace Unicode

/-! ### The table -/

/-- All points of the run fold to characters. -/
def FoldRun.Lands (r : FoldRun) : Prop :=
  0 ≤ r.first + r.shift ∧ (r.last + r.shift < 0xD800 ∨ 0xDFFF < r.first + r.shift ∧ r.last + r.shift < 0x110000)

instance (r : FoldRun) : Decidable r.Lands := inferInstanceAs (Decidable (_ ∧ _))

/-- All points of the run fold to points beyond ASCII, unless the run is that of capitals or has one stray point. -/
def FoldRun.LandsHigh (r : FoldRun) : Prop :=
  r.last < 128 ∨ 128 ≤ r.first + r.shift ∨ r.first = r.last ∧ (r.first = 0x17F ∨ r.first = 0x212A)

instance (r : FoldRun) : Decidable r.LandsHigh := inferInstanceAs (Decidable (_ ∨ _))

private theorem foldRuns_land : ∀ r ∈ foldRuns, r.Lands := by decide +kernel

private theorem foldRuns_landHigh : ∀ r ∈ foldRuns, r.LandsHigh := by decide +kernel

theorem FoldRun.bounds_of_has {r : FoldRun} {n : Nat} (h : r.has n = true) : r.first ≤ n ∧ n ≤ r.last := by
  simp only [FoldRun.has, Bool.and_eq_true, decide_eq_true_eq] at h
  exact h.1

/-- A point folds to itself, or by the shift of a run that has it. -/
theorem foldPoint_cases (n : Nat) :
    foldPoint n = n ∨ ∃ r ∈ foldRuns, r.has n = true ∧ foldPoint n = (n + r.shift).toNat := by
  unfold foldPoint
  split
  · rename_i r h
    have hr := List.find?_some h
    exact Or.inr ⟨r, List.mem_of_find?_eq_some h, hr, rfl⟩
  · exact Or.inl rfl

/-! ### Folding characters -/

private theorem toNat_ofNat {n : Nat} (h : n.isValidChar) : (Char.ofNat n).toNat = n := by
  rw [Char.ofNat, dif_pos h]
  rfl

theorem toNat_fold (c : Char) : (fold c).toNat = foldPoint c.toNat := by
  rw [fold, toNat_ofNat]
  rcases foldPoint_cases c.toNat with h | ⟨r, hr, hc, h⟩
  · rw [h]
    exact c.valid
  · have := foldRuns_land r hr
    have := FoldRun.bounds_of_has hc
    unfold FoldRun.Lands at *
    unfold Nat.isValidChar
    omega

/-- The orbit of a character has the characters that fold like it. -/
theorem mem_orbit {c d : Char} : d ∈ orbit c ↔ fold d = fold c := by
  simp only [orbit, List.mem_filter, beq_iff_eq, and_iff_right_iff_imp]
  intro hd
  rw [List.mem_cons, List.mem_filterMap]
  have hn := toNat_fold d
  rw [hd] at hn
  rcases foldPoint_cases d.toNat with h | ⟨r, hr, hc, h⟩
  · left
    rw [h] at hn
    exact (Char.toNat_inj.1 hn).symm
  · right
    refine ⟨r, hr, ?_⟩
    have := foldRuns_land r hr
    have := FoldRun.bounds_of_has hc
    unfold FoldRun.Lands at *
    -- going back by the shift leads to `d`
    have hback : (((fold c).toNat : Int) - r.shift).toNat = d.toNat := by omega
    simp only [hback, hc, if_true, Char.ofNat_toNat]

/-! ### ASCII -/

/-- The two characters beyond ASCII that fold like ASCII letters. -/
def isStray (c : Char) : Bool := c == '\u017F' || c == '\u212A'

/-- A text without the two characters beyond ASCII that fold like ASCII letters. -/
def StrayFree (s : Text) : Prop := ∀ c ∈ s, isStray c = false

instance (s : Text) : Decidable (StrayFree s) := List.decidableBAll _ s

theorem strayFree_append {s t : Text} : StrayFree (s ++ t) ↔ StrayFree s ∧ StrayFree t := List.forall_mem_append

/-- A fact about characters that holds for the first 128 points holds for ASCII characters. -/
theorem forall_ascii {p : Char → Prop} (h : ∀ n < 128, p (Char.ofNat n)) {c : Char} (hc : c.toNat < 128) : p c := by
  have := h c.toNat hc
  rwa [Char.ofNat_toNat] at this

private theorem foldRuns_eq : ∃ rest, foldRuns = ⟨0x41, 0x5A, 1, 32⟩ :: rest ∧ ∀ r ∈ rest, 128 ≤ r.first :=
  ⟨_, rfl, by decide +kernel⟩

private theorem foldPoint_of_ascii {n : Nat} (h : n < 128) : foldPoint n = if 0x41 ≤ n ∧ n ≤ 0x5A then n + 32 else n := by
  obtain ⟨rest, hrest, hhigh⟩ := foldRuns_eq
  have hnone : rest.find? (·.has n) = none := by
    rw [List.find?_eq_none]
    intro r hr hn
    have := hhigh r hr
    have := FoldRun.bounds_of_has hn
    omega
  have hcapital : FoldRun.has ⟨0x41, 0x5A, 1, 32⟩ n = decide (0x41 ≤ n ∧ n ≤ 0x5A) := by
    simp [FoldRun.has, Nat.mod_one]
  rw [foldPoint, hrest, List.find?_cons, hnone, hcapital]
  by_cases hc : 0x41 ≤ n ∧ n ≤ 0x5A
  · simp only [hc, and_self, decide_true, if_true]
    omega
  · simp only [hc, decide_false, if_false]

/-- ASCII characters fold to small letters. -/
theorem fold_of_ascii {c : Char} (h : c.toNat < 128) : fold c = c.toLower := by
  rw [fold, foldPoint_of_ascii h]
  exact forall_ascii (p := fun c => Char.ofNat (if 0x41 ≤ c.toNat ∧ c.toNat ≤ 0x5A then c.toNat + 32 else c.toNat) =
    c.toLower) (by decide) h

private theorem toLower_ascii_iff {c : Char} : c.toLower.toNat < 128 ↔ c.toNat < 128 := by
  rcases Text.toLower_cases c with ⟨hupper, hshift⟩ | ⟨-, hstays⟩
  · rw [Text.isUpper_iff] at hupper
    omega
  · rw [hstays]

/-- Only ASCII characters and the two strays fold into ASCII. -/
theorem ascii_of_fold {c : Char} (hc : isStray c = false) (h : (fold c).toNat < 128) : c.toNat < 128 := by
  rw [toNat_fold] at h
  rcases foldPoint_cases c.toNat with hp | ⟨r, hr, hc', hp⟩
  · rwa [hp] at h
  · have := foldRuns_landHigh r hr
    have := FoldRun.bounds_of_has hc'
    have hs : c.toNat ≠ 0x17F ∧ c.toNat ≠ 0x212A := by
      constructor
      · intro he
        obtain rfl : c = '\u017F' := Char.toNat_inj.1 he
        cases hc
      · intro he
        obtain rfl : c = '\u212A' := Char.toNat_inj.1 he
        cases hc
    unfold FoldRun.LandsHigh at *
    omega

/-- A character that is no stray folds like an ASCII character exactly if it is the same letter in some case. -/
theorem fold_eq_fold_iff {c d : Char} (hc : c.toNat < 128) (hd : isStray d = false) :
    fold d = fold c ↔ d.toLower = c.toLower := by
  rw [fold_of_ascii hc]
  constructor
  · intro h
    have hd : d.toNat < 128 := ascii_of_fold hd (h ▸ toLower_ascii_iff.2 hc)
    rwa [fold_of_ascii hd] at h
  · intro h
    have hd : d.toNat < 128 := toLower_ascii_iff.1 (h ▸ toLower_ascii_iff.2 hc)
    rwa [fold_of_ascii hd]

end Unicode

namespace CharSet

open Unicode

/-- A folded set has the characters that fold like a member. -/
theorem mem_folded {s : CharSet} {d : Char} : (folded s).mem d = true ↔ ∃ c, fold c = fold d ∧ s.mem c = true := by
  simp only [mem, List.any_eq_true, mem_orbit]

end CharSet

end TrackerAudit
