import TrackerAudit.Proofs.Pattern.HostRule

/-!
# Patterns piece by piece

A pattern given by its parts matches a request exactly if the request holds a row of pieces, one for each part, each of
which is what its part takes between the character before it and all that follows it (`Pattern.isMatch_iff_pieces`).
The text of the regular expression and the expression itself do not show in this description.
-/

namespace TrackerAudit

open Text

namespace PatternPart

open Regex

/-- The parts take the pieces of a row one by one, where `before` stands before the row and `rest` after it. -/
def TakePieces (noCase : Bool) (parts : List PatternPart) (before : Text) (pieces : List Text) (rest : Text) : Prop :=
  pieces.length = parts.length ∧ ∀ (i : Nat) (part : PatternPart) (piece : Text), parts[i]? = some part →
    pieces[i]? = some piece →
      part.Takes noCase (before ++ (pieces.take i).flatten).getLast? piece ((pieces.drop (i + 1)).flatten ++ rest)

variable {noCase : Bool} {part : PatternPart} {parts : List PatternPart} {before piece rest : Text} {pieces : List Text}

theorem takePieces_nil : TakePieces noCase [] before pieces rest ↔ pieces = [] := by
  constructor
  · intro h
    exact List.length_eq_zero_iff.1 h.1
  · rintro rfl
    exact ⟨rfl, by simp⟩

theorem takePieces_cons : TakePieces noCase (part :: parts) before (piece :: pieces) rest ↔
    part.Takes noCase before.getLast? piece (pieces.flatten ++ rest) ∧
      TakePieces noCase parts (before ++ piece) pieces rest := by
  constructor
  · rintro ⟨hlength, hpieces⟩
    refine ⟨?_, by simpa using hlength, ?_⟩
    · simpa using hpieces 0 part piece rfl rfl
    · intro i p u hp hu
      simpa using hpieces (i + 1) p u (by simpa using hp) (by simpa using hu)
  · rintro ⟨hfirst, hlength, hpieces⟩
    refine ⟨by simpa using hlength, ?_⟩
    intro i p u hp hu
    cases i with
    | zero =>
      obtain rfl : part = p := by simpa using hp
      obtain rfl : piece = u := by simpa using hu
      simpa using hfirst
    | succ i => simpa using hpieces i p u (by simpa using hp) (by simpa using hu)

/-- What the parts of a row take one after another falls into their pieces. -/
theorem takeAll_iff_pieces {taken : Text} : TakeAll noCase parts before.getLast? taken rest ↔
    ∃ pieces : List Text, taken = pieces.flatten ∧ TakePieces noCase parts before pieces rest := by
  induction parts generalizing before taken with
  | nil => simp [TakeAll, takePieces_nil]
  | cons part parts ih =>
    -- after the first piece, what stands before the others is longer by it
    have hprev (u : Text) : prevAfter before.getLast? u = (before ++ u).getLast? := by
      rw [← prevAfter_none, ← prevAfter_append, prevAfter_none]
    constructor
    · rintro ⟨u, v, rfl, hu, hv⟩
      rw [hprev, ih] at hv
      obtain ⟨pieces, rfl, hpieces⟩ := hv
      exact ⟨u :: pieces, by simp, takePieces_cons.2 ⟨hu, hpieces⟩⟩
    · rintro ⟨pieces, rfl, hpieces⟩
      cases pieces with
      | nil => cases hpieces.1
      | cons u pieces =>
        obtain ⟨hu, hpieces⟩ := takePieces_cons.1 hpieces
        refine ⟨u, pieces.flatten, by simp, hu, ?_⟩
        rw [hprev, ih]
        exact ⟨pieces, rfl, hpieces⟩

end PatternPart

/-- A pattern given by its parts matches a request exactly if a row of pieces stands in it that the parts take one by
one. -/
theorem Pattern.isMatch_iff_pieces {parts : List PatternPart} {matchCase : Bool} {p : Pattern}
    (h : Pattern.ofParts parts matchCase = .ok p) (request : Text) : p.isMatch request = true ↔
      ∃ before pieces rest, request = before ++ pieces.flatten ++ rest ∧
        PatternPart.TakePieces (!matchCase) parts before pieces rest := by
  rw [Pattern.isMatch_ofParts h]
  simp only [PatternPart.takeAll_iff_pieces]
  constructor
  · rintro ⟨before, _, rest, rfl, pieces, rfl, hpieces⟩
    exact ⟨before, pieces, rest, rfl, hpieces⟩
  · rintro ⟨before, pieces, rest, rfl, hpieces⟩
    exact ⟨before, _, rest, rfl, pieces, rfl, hpieces⟩

/-- The pattern `||ok.io^*|` and a request that has the Kelvin sign for the `k`. -/
theorem Pattern.isMatch_kelvin_pieces :
    ∃ p, Pattern.ofParts [.hostAnchor, .literal "ok.io".toList, .separator, .wildcard, .requestEnd] false = .ok p ∧
      p.isMatch "HTTPS://x.o\u212A.io:80/".toList = true := by
  have hmark : PatternPart.IsSchemeMark true "HTTPS://".toList :=
    PatternPart.isSchemeMark_of_host ⟨"HTTPS".toList, "//".toList, rfl, by decide, Or.inr rfl⟩
  have hkelvin : CountsAs true 'k' '\u212A' := Or.inr ⟨rfl, by decide +kernel⟩
  have hname : List.Forall₂ (CountsAs true) "ok.io".toList "o\u212A.io".toList := by
    have hself (c : Char) : CountsAs true c c := Or.inl rfl
    simp only [String.reduceToList]
    exact .cons (hself 'o') (.cons hkelvin (.cons (hself '.') (.cons (hself 'i') (.cons (hself 'o') .nil))))
  have hlabels : PatternPart.IsLabels "x.".toList := ⟨['x'], rfl, by simp [Host.endsAuthority]⟩
  have hcolon : ¬CountsAsOne true (fun d => !Host.isSeparator d) ':' := by
    rw [countsAsOne_word_iff rfl]
    decide
  have hpieces : PatternPart.TakePieces true [.hostAnchor, .literal "ok.io".toList, .separator, .wildcard, .requestEnd] []
      ["HTTPS://x.".toList, "o\u212A.io".toList, [':'], "80/".toList, []] [] := by
    refine PatternPart.takePieces_cons.2 ⟨?_, PatternPart.takePieces_cons.2 ⟨hname, PatternPart.takePieces_cons.2 ⟨?_,
      PatternPart.takePieces_cons.2 ⟨?_, PatternPart.takePieces_cons.2 ⟨⟨rfl, rfl⟩, PatternPart.takePieces_nil.2 rfl⟩⟩⟩⟩⟩
    · exact ⟨rfl, "HTTPS://".toList, "x.".toList, rfl, Or.inr hmark, Or.inr hlabels⟩
    · exact Or.inl ⟨':', rfl, hcolon⟩
    · change '\n' ∉ "80/".toList
      decide
  have hok : (Pattern.ofParts [.hostAnchor, .literal "ok.io".toList, .separator, .wildcard, .requestEnd]
      false).toOption.isSome = true := by decide +kernel
  cases h : Pattern.ofParts [.hostAnchor, .literal "ok.io".toList, .separator, .wildcard, .requestEnd] false with
  | error f =>
    rw [h] at hok
    cases hok
  | ok p => exact ⟨p, rfl, (Pattern.isMatch_iff_pieces h _).2 ⟨[], _, [], rfl, hpieces⟩⟩

end TrackerAudit
