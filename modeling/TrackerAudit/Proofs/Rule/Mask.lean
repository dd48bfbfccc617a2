import Mathlib.Data.List.Nodup
import TrackerAudit.Matching.Request
import TrackerAudit.Rule.Options

/-!
# Masks as sets of values

Types of resources and parties have a bit each in a mask, and no bit is left over (`numbers_type`, `numbers_party`), so a
mask is a set of values. What remains of the values that options mention is refused exactly if it is no value at all, and
otherwise it admits exactly the values that remain, also where all of them do and the mask is written as the empty one
(`remaining_cases`).
-/

namespace TrackerAudit

/-! ### Numbers of values -/

/-- The numbers of the values are those below `n`, one for each value. -/
structure Numbers {α : Type} (index : α → Nat) (n : Nat) : Prop where
  lt : ∀ a, index a < n
  injective : Function.Injective index
  surjective : ∀ i < n, ∃ a, index a = i

theorem numbers_of_list {α : Type} {index : α → Nat} (values : List α) (hnodup : values.Nodup)
    (hget : ∀ a, values[index a]? = some a) : Numbers index values.length where
  lt a := (List.getElem?_eq_some_iff.1 (hget a)).1
  injective a b h := by
    have := hget a
    rw [h, hget b] at this
    exact (Option.some.inj this).symm
  surjective i hi := by
    obtain ⟨hlt, hvalue⟩ := List.getElem?_eq_some_iff.1 (hget values[i])
    exact ⟨values[i], (hnodup.getElem_inj_iff).1 hvalue⟩

/-- All types, in the order of their bits. -/
def ResourceType.all : List ResourceType :=
  [other, script, image, stylesheet, object, subdocument, mainFrame, xhr, websocket, font, media, ping, cspReport, beacon,
    fetch]

theorem numbers_type : Numbers ResourceType.index 15 :=
  numbers_of_list ResourceType.all (by decide) fun t => by cases t <;> rfl

/-- The position of a party in a mask. -/
def Party.index : Party → Nat
  | first => 0
  | third => 1

theorem Party.mask_eq (p : Party) : p.mask = 1#2 <<< p.index := by cases p <;> rfl

theorem numbers_party : Numbers Party.index 2 :=
  numbers_of_list [.first, .third] (by decide) fun p => by cases p <;> rfl

/-! ### The values of a mask -/

/-- The mask has the bit of a value. -/
def Has {α : Type} {n : Nat} (index : α → Nat) (m : BitVec n) (a : α) : Prop := m.getLsbD (index a) = true

section

variable {α : Type} {n : Nat} {index : α → Nat} {m m' : BitVec n} {a b : α}

@[simp] theorem has_zero : ¬Has index (0 : BitVec n) a := by simp [Has]

theorem has_or : Has index (m ||| m') a ↔ Has index m a ∨ Has index m' a := by simp [Has]

variable (h : Numbers index n)

include h

theorem has_allOnes : Has index (BitVec.allOnes n) a := by simp [Has, h.lt a]

theorem has_and_not : Has index (m &&& ~~~m') a ↔ Has index m a ∧ ¬Has index m' a := by simp [Has, h.lt a]

theorem has_single : Has index (1#n <<< index b) a ↔ a = b := by
  rw [Has, ← BitVec.twoPow_eq, BitVec.getLsbD_twoPow]
  simp [h.lt b, h.injective.eq_iff, eq_comm]

theorem eq_of_has_iff (heq : ∀ a, Has index m a ↔ Has index m' a) : m = m' := by
  apply BitVec.eq_of_getLsbD_eq
  intro i hi
  obtain ⟨a, rfl⟩ := h.surjective i hi
  rw [Bool.eq_iff_iff]
  exact heq a

theorem eq_zero_iff : m = 0 ↔ ∀ a, ¬Has index m a := by
  constructor
  · rintro rfl a
    exact has_zero
  · intro hnone
    apply eq_of_has_iff h
    intro a
    exact iff_of_false (hnone a) has_zero

/-- A mask that is not empty admits the values that it has. -/
theorem admits_single_iff (hm : m ≠ 0) : admits m (some (1#n <<< index a)) = true ↔ Has index m a := by
  have hsingle : 1#n <<< index a ≠ 0 := fun hzero => (eq_zero_iff h).1 hzero a ((has_single h).2 rfl)
  have hand : m &&& 1#n <<< index a = if m.getLsbD (index a) then 1#n <<< index a else 0 := by
    rw [← BitVec.twoPow_eq, BitVec.and_twoPow]
    rfl
  rw [admits, Option.all_some, hand, Has, beq_eq_false_iff_ne.2 hm, Bool.false_or]
  cases m.getLsbD (index a) with
  | true => simpa using hsingle
  | false => simp

omit h in
theorem admits_zero (value : Option (BitVec n)) : admits 0 value = true := by simp [admits]

/-! ### What remains -/

/-- The value is among those mentioned plainly, if there are any, and not among those mentioned after `~`. -/
def Remains (index : α → Nat) (included excluded : BitVec n) (a : α) : Prop :=
  (included = 0 ∨ Has index included a) ∧ ¬Has index excluded a

/-- Either nothing remains, or the mask admits what remains. -/
theorem remaining_cases (included excluded : BitVec n) :
    (remaining included excluded = .error .contradictoryOptions ∧ ∀ a, ¬Remains index included excluded a) ∨
      ∃ m, remaining included excluded = .ok m ∧ (∃ a, Remains index included excluded a) ∧
        ∀ a, admits m (some (1#n <<< index a)) = true ↔ Remains index included excluded a := by
  obtain ⟨mask, hmask⟩ : ∃ mask, mask = if included ≠ 0 then included &&& ~~~excluded else ~~~excluded := ⟨_, rfl⟩
  have hhas : ∀ a, Has index mask a ↔ Remains index included excluded a := by
    intro a
    rw [hmask, Remains]
    by_cases hincluded : included = 0
    · have hall : ~~~excluded = BitVec.allOnes n &&& ~~~excluded := by simp
      rw [if_neg (by simp [hincluded]), hall, has_and_not h]
      simp [hincluded, has_allOnes h]
    · rw [if_pos hincluded, has_and_not h, or_iff_right hincluded]
  unfold remaining
  rw [← hmask]
  by_cases hzero : mask = 0
  · left
    refine ⟨if_pos hzero, ?_⟩
    intro a
    rw [← hhas]
    exact (eq_zero_iff h).1 hzero a
  · right
    have hsome : ∃ a, Remains index included excluded a := by
      by_contra hnone
      push Not at hnone
      exact hzero ((eq_zero_iff h).2 fun a ha => hnone a ((hhas a).1 ha))
    by_cases hall : mask = BitVec.allOnes n
    · -- the full mask is written as the empty one, which admits everything
      refine ⟨0, by rw [if_neg hzero, if_pos hall], hsome, ?_⟩
      intro a
      have hremains : Remains index included excluded a := (hhas a).1 (hall ▸ has_allOnes h)
      exact iff_of_true (admits_zero _) hremains
    · refine ⟨mask, by rw [if_neg hzero, if_neg hall], hsome, ?_⟩
      intro a
      rw [admits_single_iff h hzero, hhas]

end

end TrackerAudit
