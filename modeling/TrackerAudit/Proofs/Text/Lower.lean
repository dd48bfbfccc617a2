import TrackerAudit.Proofs.Text.Cutting
import TrackerAudit.Proofs.Unicode.Orbit

/-!
# Small letters and cuts

A text is cut at the same places as its small form, if the cut looks for characters of a kind to which a capital belongs
exactly if its small letter does (`CaseBlind`), or for texts without letters. So every trimming and cutting of a text
commutes with the passage to small letters.
-/

namespace TrackerAudit.Text

open Unicode

/-! ### Kinds of characters -/

/-- A capital is of the kind exactly if its small letter is. -/
def CaseBlind (p : Char → Bool) : Prop := ∀ c, p c.toLower = p c

variable {p : Char → Bool} {s lead : Text} {c : Char}

theorem toLower_of_not_ascii (h : 128 ≤ c.toNat) : c.toLower = c := by
  apply toLower_of_not_isUpper
  rw [← Bool.not_eq_true, isUpper_iff]
  omega

/-- Whether a kind looks at case shows on ASCII. -/
theorem caseBlind_of_ascii (h : ∀ n < 128, p (Char.ofNat n).toLower = p (Char.ofNat n)) : CaseBlind p := by
  intro c
  rcases Nat.lt_or_ge c.toNat 128 with hc | hc
  · exact forall_ascii (p := fun c => p c.toLower = p c) h hc
  · rw [toLower_of_not_ascii hc]

theorem CaseBlind.not (hp : CaseBlind p) : CaseBlind (!p ·) := fun c => congrArg Bool.not (hp c)

theorem CaseBlind.comp (hp : CaseBlind p) : p ∘ Char.toLower = p := funext hp

theorem caseBlind_isBlank : CaseBlind isBlank := caseBlind_of_ascii (by decide)

/-- A single character that is no letter is a kind that does not look at case. -/
theorem caseBlind_beq {d : Char} (hd : d.isAlpha = false) : CaseBlind (· == d) := by
  intro c
  rw [Bool.eq_iff_iff, beq_iff_eq, beq_iff_eq]
  exact toLower_eq_iff hd

theorem contains_lower (hc : c.isAlpha = false) (s : Text) : (lower s).contains c = s.contains c := by
  rw [Bool.eq_iff_iff, List.contains_iff_mem, List.contains_iff_mem, lower, List.mem_map]
  constructor
  · rintro ⟨d, hd, hdc⟩
    exact (toLower_eq_iff hc).1 hdc ▸ hd
  · exact fun h => ⟨c, h, toLower_eq_self hc⟩

theorem mem_lower_iff (hc : c.isAlpha = false) : c ∈ lower s ↔ c ∈ s := by
  rw [← List.contains_iff_mem, contains_lower hc, List.contains_iff_mem]

@[simp] theorem isEmpty_lower (s : Text) : (lower s).isEmpty = s.isEmpty := List.isEmpty_map

theorem sameNoCase_lower (a b : Text) : sameNoCase (lower a) b = sameNoCase a b := by
  rw [sameNoCase, sameNoCase, lower_lower]

/-! ### Trimming -/

theorem dropWhile_lower (hp : CaseBlind p) (s : Text) : (lower s).dropWhile p = lower (s.dropWhile p) := by
  rw [lower, lower, List.dropWhile_map, hp.comp]

theorem reverse_lower (s : Text) : (lower s).reverse = lower s.reverse := (List.map_reverse).symm

theorem dropEnd_lower (hp : CaseBlind p) (s : Text) : dropEnd p (lower s) = lower (dropEnd p s) := by
  rw [dropEnd, dropEnd, reverse_lower, dropWhile_lower hp, reverse_lower]

theorem trimBy_lower (hp : CaseBlind p) (s : Text) : trimBy p (lower s) = lower (trimBy p s) := by
  rw [trimBy, trimBy, dropWhile_lower hp, dropEnd_lower hp]

theorem trim_lower (s : Text) : trim (lower s) = lower (trim s) := trimBy_lower caseBlind_isBlank s

theorem trimDots_lower (s : Text) : trimDots (lower s) = lower (trimDots s) := trimBy_lower (caseBlind_beq rfl) s

/-! ### Cutting -/

theorem before_lower (hp : CaseBlind p) (s : Text) : before p (lower s) = lower (before p s) := by
  rw [before, before, lower, lower, List.takeWhile_map, hp.not.comp]

theorem lower_cons (c : Char) (s : Text) : lower (c :: s) = c.toLower :: lower s := rfl

theorem splitOnP_lower (hp : CaseBlind p) (s : Text) : (lower s).splitOnP p = (s.splitOnP p).map lower := by
  induction s with
  | nil => rfl
  | cons c s ih =>
    rw [lower_cons, List.splitOnP_cons_eq_if_modifyHead, List.splitOnP_cons_eq_if_modifyHead, hp c, ih]
    split
    · rfl
    · cases s.splitOnP p <;> rfl

/-- Looking for a text without letters at the start. -/
theorem cutStart?_lower (hlead : ∀ c ∈ lead, c.isAlpha = false) (s : Text) :
    cutStart? lead (lower s) = (cutStart? lead s).map lower := by
  induction lead generalizing s with
  | nil => rfl
  | cons c lead ih =>
    cases s with
    | nil => rfl
    | cons d s =>
      have hd : c = d.toLower ↔ c = d := by rw [eq_comm, toLower_eq_iff (hlead c (by simp)), eq_comm]
      rw [lower_cons, cutStart?, cutStart?]
      simp only [hd, ih (fun x hx => hlead x (by simp [hx])) s]
      split <;> rfl

/-- Looking for a text without letters at the end. -/
theorem cutEnd?_lower {tail : Text} (htail : ∀ c ∈ tail, c.isAlpha = false) (s : Text) :
    cutEnd? tail (lower s) = (cutEnd? tail s).map lower := by
  have hrev : ∀ c ∈ tail.reverse, c.isAlpha = false := fun c hc => htail c (List.mem_reverse.1 hc)
  rw [cutEnd?, cutEnd?, reverse_lower, cutStart?_lower hrev, Option.map_map, Option.map_map]
  exact congrArg (Option.map · _) (funext reverse_lower)

theorem cutFirst?_lower (hc : c.isAlpha = false) (s : Text) :
    cutFirst? c (lower s) = (cutFirst? c s).map (Prod.map lower lower) := by
  induction s with
  | nil => rfl
  | cons d s ih =>
    rw [lower_cons, cutFirst?, cutFirst?]
    simp only [toLower_eq_iff hc, ih]
    split
    · rfl
    · rw [Option.map_map, Option.map_map]
      rfl

theorem cutLast?_lower (hc : c.isAlpha = false) (s : Text) :
    cutLast? c (lower s) = (cutLast? c s).map (Prod.map lower lower) := by
  induction s with
  | nil => rfl
  | cons d s ih =>
    rw [lower_cons, cutLast?, cutLast?, ih]
    cases cutLast? c s with
    | some lr => rfl
    | none =>
      simp only [Option.map_none, toLower_eq_iff hc]
      split <;> rfl

end TrackerAudit.Text
