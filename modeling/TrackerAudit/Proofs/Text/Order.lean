import Mathlib.Data.List.Basic
import TrackerAudit.Text.Basic

/-!
# The order of texts

Texts are sorted by their characters. That is the order of their UTF-8 bytes (`bytes_lt_bytes_iff`): the bytes of the
smaller of two characters are smaller where they first differ, whatever follows (`encode_append_lt`). A sorted list
is determined by what it has, so that sorting two lists gives the same exactly if they are permutations of each other.
-/

namespace TrackerAudit.Text

/-! ### Bytes -/

/-- The bytes of a text in UTF-8. -/
def bytes (s : Text) : List UInt8 := s.flatMap String.utf8EncodeChar

private theorem ofNat_lt_ofNat {a b : Nat} (ha : a < 256) (hb : b < 256) : UInt8.ofNat a < UInt8.ofNat b ↔ a < b := by
  rw [UInt8.lt_iff_toNat_lt, UInt8.toNat_ofNat_of_lt' ha, UInt8.toNat_ofNat_of_lt' hb]

private theorem ofNat_eq_ofNat {a b : Nat} (ha : a < 256) (hb : b < 256) : UInt8.ofNat a = UInt8.ofNat b ↔ a = b := by
  rw [← UInt8.toNat_inj, UInt8.toNat_ofNat_of_lt' ha, UInt8.toNat_ofNat_of_lt' hb]

/-- The bytes of the smaller character are smaller, whatever follows. -/
theorem encode_append_lt {c d : Char} (h : c < d) (s t : List UInt8) :
    String.utf8EncodeChar c ++ s < String.utf8EncodeChar d ++ t := by
  have hlt : c.val.toNat < d.val.toNat := h
  have hbound : d.val.toNat < 0x110000 := by
    rcases d.valid with hd | hd <;> omega
  unfold String.utf8EncodeChar
  generalize c.val.toNat = v at *
  generalize d.val.toNat = w at *
  -- the digits to base 64, one by one
  have hdigits (n : Nat) : n / 4096 = n / 64 / 64 ∧ n / 262144 = n / 64 / 64 / 64 := by
    simp only [Nat.div_div_eq_div_mul, Nat.reduceMul, and_self]
  obtain ⟨hv, hv'⟩ := hdigits v
  obtain ⟨hw, hw'⟩ := hdigits w
  dsimp only
  rw [hv, hv', hw, hw']
  split_ifs <;> first | (exfalso; omega) | skip
  -- a larger number has as many bytes or more, and then a larger first byte
  all_goals
    simp (disch := omega) only [List.cons_append, List.nil_append, List.cons_lt_cons_iff, ofNat_lt_ofNat, ofNat_eq_ofNat,
      Nat.mod_eq_of_lt]
    omega

private theorem bytes_lt_bytes {s t : Text} (h : s < t) : bytes s < bytes t := by
  induction s generalizing t with
  | nil =>
    cases t with
    | nil => exact absurd h (List.lt_irrefl [])
    | cons d t =>
      obtain ⟨b, rest, hd⟩ := List.exists_cons_of_ne_nil (@String.utf8EncodeChar_ne_nil d)
      rw [bytes, bytes, List.flatMap_cons, hd]
      exact List.nil_lt_cons b _
  | cons c s ih =>
    cases t with
    | nil => exact absurd h (List.not_lt_nil _)
    | cons d t =>
      rw [bytes, bytes, List.flatMap_cons, List.flatMap_cons]
      rcases List.cons_lt_cons_iff.1 h with hcd | ⟨rfl, hst⟩
      · exact encode_append_lt hcd _ _
      · exact List.append_left_lt (ih hst)

/-- The order of texts is the order of their bytes. -/
theorem bytes_lt_bytes_iff {s t : Text} : bytes s < bytes t ↔ s < t := by
  refine ⟨fun h => ?_, bytes_lt_bytes⟩
  by_contra hst
  rcases List.le_iff_lt_or_eq.1 (List.not_lt.1 hst) with hts | rfl
  · exact List.lt_irrefl _ (List.lt_trans h (bytes_lt_bytes hts))
  · exact List.lt_irrefl _ h

/-! ### Sorting -/

variable {a b : List Text}

theorem pairwise_sort (texts : List Text) : (texts.mergeSort fun a b => !decide (b < a)).Pairwise fun a b => ¬b < a := by
  have htotal (a b : Text) : (!decide (b < a) || !decide (a < b)) = true := by
    rcases List.le_total a b with h | h
    · simp [List.not_lt.2 h]
    · simp [List.not_lt.2 h]
  have htrans (a b c : Text) (hab : (!decide (b < a)) = true) (hbc : (!decide (c < b)) = true) :
      (!decide (c < a)) = true := by
    simp only [Bool.not_eq_true', decide_eq_false_iff_not, List.not_lt] at *
    exact List.le_trans hab hbc
  refine (List.pairwise_mergeSort htrans htotal texts).imp fun h => ?_
  simpa only [Bool.not_eq_true', decide_eq_false_iff_not] using h

theorem pairwise_lt_sort {texts : List Text} (h : texts.Nodup) :
    (texts.mergeSort fun a b => !decide (b < a)).Pairwise (· < ·) := by
  have hnodup : (texts.mergeSort fun a b => !decide (b < a)).Nodup := (List.mergeSort_perm texts _).nodup_iff.2 h
  refine ((pairwise_sort texts).and hnodup).imp fun ⟨hle, hne⟩ => ?_
  exact (List.le_iff_lt_or_eq.1 (List.not_lt.1 hle)).resolve_right hne

/-- Lists are the same in order exactly if they are the same up to order. -/
theorem sort_eq_sort_iff : (a.mergeSort fun a b => !decide (b < a)) = (b.mergeSort fun a b => !decide (b < a)) ↔
    a.Perm b := by
  constructor
  · intro h
    exact (List.mergeSort_perm a _).symm.trans (h ▸ List.mergeSort_perm b _)
  · intro h
    have hperm := (List.mergeSort_perm a fun a b => !decide (b < a)).trans
      (h.trans (List.mergeSort_perm b fun a b => !decide (b < a)).symm)
    refine hperm.eq_of_pairwise (fun x y _ _ hxy hyx => ?_) (pairwise_sort a) (pairwise_sort b)
    exact List.le_antisymm (List.not_lt.1 hxy) (List.not_lt.1 hyx)

end TrackerAudit.Text
