import TrackerAudit.Json.Print
import TrackerAudit.Json.Read

/-!
# Strings in JSON

Whatever characters a string has, it is read back from its quoted text (`readString?_quoted`): each character is escaped
so that it is read as itself, and no character is half of a surrogate pair.
-/

namespace TrackerAudit.Json

private theorem hexFour?_control : ∀ n < 0x20, hexFour? '0' '0' (hexDigit (n / 16)) (hexDigit (n % 16)) = some n := by
  decide

/-- An escaped character is read as that character. -/
theorem stringUnits_escapedChar (c : Char) {rest tail : Text} {units : List Nat}
    (h : stringUnits rest = some (units, tail)) :
    stringUnits (escapedChar c ++ rest) = some (c.toNat :: units, tail) := by
  unfold escapedChar
  split
  case h_8 hquote hbackslash _ _ _ _ _ =>
    split
    · rename_i hcontrol
      have hhex := hexFour?_control c.toNat hcontrol
      simp [stringUnits, hhex, h]
    · -- the character stands for itself
      rw [List.singleton_append, stringUnits.eq_def]
      split <;> simp_all
  all_goals simp [stringUnits, escaped?, h]

theorem stringUnits_escaped (s rest : Text) :
    stringUnits (s.flatMap escapedChar ++ '"' :: rest) = some (s.map Char.toNat, rest) := by
  induction s with
  | nil => simp [stringUnits]
  | cons c s ih =>
    rw [List.flatMap_cons, List.append_assoc, List.map_cons]
    exact stringUnits_escapedChar c ih

private theorem not_surrogate (c : Char) : (isHigh c.toNat || isLow c.toNat) = false := by
  have hvalid : c.toNat < 0xD800 ∨ 0xDFFF < c.toNat ∧ c.toNat < 0x110000 := c.valid
  simp only [isHigh, isLow, Bool.or_eq_false_iff, Bool.and_eq_false_iff, decide_eq_false_iff_not]
  omega

theorem ofUnits?_map_toNat (s : Text) : ofUnits? (s.map Char.toNat) = some s := by
  induction s with
  | nil => rfl
  | cons c s ih =>
    have hc := not_surrogate c
    cases s with
    | nil => simp [ofUnits?, hc, Char.ofNat_toNat]
    | cons d s =>
      have hpair : (isHigh c.toNat && isLow d.toNat) = false := by
        rw [Bool.or_eq_false_iff] at hc
        rw [hc.1, Bool.false_and]
      rw [List.map_cons] at ih
      simp [ofUnits?, hpair, hc, ih, Char.ofNat_toNat]

theorem readString?_quoted (s rest : Text) :
    readString? (s.flatMap escapedChar ++ '"' :: rest) = some (some s, rest) := by
  simp only [readString?, stringUnits_escaped, Option.map_some, ofUnits?_map_toNat]

end TrackerAudit.Json
