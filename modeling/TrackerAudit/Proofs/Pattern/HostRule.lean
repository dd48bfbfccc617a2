import TrackerAudit.Proofs.Host.Keys
import TrackerAudit.Proofs.Pattern.Meaning

/-!
# Patterns `||host^`

A pattern `||host^` that ignores case matches a request exactly if the host stands in it, up to case folding, after an
optional scheme and optional labels and before a separator or the end (`isMatch_host_iff`). Where the request has none
of the two characters beyond ASCII that fold into it, folding comes to passing to small letters, and the host is among
the keys of the request (`HostPlace.lower_mem_keys`).
-/

namespace TrackerAudit

open Text

/-! ### Folding and small letters -/

section

variable {c d : Char} {kind : Char → Bool}

theorem countsAs_iff (hc : c.toNat < 128) (hd : Unicode.isStray d = false) :
    CountsAs true c d ↔ d.toLower = c.toLower := by
  rw [CountsAs, Unicode.fold_eq_fold_iff hc hd]
  constructor
  · rintro (rfl | ⟨-, h⟩)
    · rfl
    · exact h
  · exact fun h => Or.inr ⟨rfl, h⟩

theorem CountsAs.ignoreCase {noCase : Bool} (h : CountsAs noCase c d) : CountsAs true c d :=
  h.imp_right fun h => ⟨rfl, h.2⟩

theorem CountsAsOne.ignoreCase {noCase : Bool} (h : CountsAsOne noCase kind d) : CountsAsOne true kind d := by
  obtain ⟨e, he, hd⟩ := h
  exact ⟨e, he, hd.ignoreCase⟩

theorem countsAsOne_self {noCase : Bool} (h : kind d = true) : CountsAsOne noCase kind d := ⟨d, h, Or.inl rfl⟩

/-- Apart from letters, what counts as one of a kind of ASCII characters is one. -/
theorem kind_or_isAlpha_of_countsAsOne (hkind : ∀ c, kind c = true → c.toNat < 128) (hd : Unicode.isStray d = false)
    (h : CountsAsOne true kind d) : kind d = true ∨ d.isAlpha = true := by
  obtain ⟨c, hc, h⟩ := h
  rcases eq_or_isAlpha_of_toLower_eq ((countsAs_iff (hkind c hc) hd).1 h) with rfl | h
  · exact Or.inl hc
  · exact Or.inr h.1

end

theorem ascii_of_isAlnum {c : Char} (h : isAlnum c = true) : c.toNat < 128 := by
  rw [isAlnum, Char.isAlphanum, Bool.or_eq_true] at h
  rcases h with h | h
  · exact toNat_lt_of_isAlpha h
  · simp only [Char.isDigit, Bool.and_eq_true, decide_eq_true_eq, ge_iff_le, UInt32.le_iff_toNat_le, Char.toNat_val,
      Char.reduceVal, UInt32.reduceToNat] at h
    omega

theorem ascii_of_isSeparator {c : Char} (h : Host.isSeparator c = false) : c.toNat < 128 := by
  simp only [Host.isSeparator, Bool.not_eq_false', Bool.or_eq_true, beq_iff_eq] at h
  rcases h with (((h | rfl) | rfl) | rfl) | rfl
  · exact ascii_of_isAlnum h
  all_goals decide

theorem ascii_of_isNameChar {c : Char} (h : Host.isNameChar c = true) : c.toNat < 128 :=
  ascii_of_isSeparator (Host.isSeparator_of_isNameChar h)

theorem isStray_of_ascii {c : Char} (h : c.toNat < 128) : Unicode.isStray c = false :=
  Unicode.forall_ascii (p := fun c => Unicode.isStray c = false) (by decide) h

theorem isStray_of_isNameChar {c : Char} (h : Host.isNameChar c = true) : Unicode.isStray c = false :=
  isStray_of_ascii (ascii_of_isNameChar h)

theorem ascii_of_isSchemeChar {c : Char} (h : PatternPart.isSchemeChar c = true) : c.toNat < 128 := by
  simp only [PatternPart.isSchemeChar, Bool.or_eq_true, beq_iff_eq] at h
  rcases h with (((h | h) | rfl) | rfl) | rfl
  · exact ascii_of_isAlnum (by simp [isAlnum, Char.isAlphanum, isAlpha_eq, h])
  · exact ascii_of_isAlnum (by simp [isAlnum, Char.isAlphanum, h])
  all_goals decide

theorem isSeparator_of_isAlpha {c : Char} (h : c.isAlpha = true) : Host.isSeparator c = false := by
  simp [Host.isSeparator, isAlnum, Char.isAlphanum, h]

/-- A character that is no stray counts as a character of words only if it is one. -/
theorem countsAsOne_word_iff {c : Char} (hc : Unicode.isStray c = false) :
    CountsAsOne true (fun d => !Host.isSeparator d) c ↔ Host.isSeparator c = false := by
  constructor
  · intro h
    rcases kind_or_isAlpha_of_countsAsOne (fun d hd => ascii_of_isSeparator (by simpa using hd)) hc h with h | h
    · simpa using h
    · exact isSeparator_of_isAlpha h
  · intro h
    exact countsAsOne_self (by simp [h])

theorem isSeparator_of_not_countsAsOne {noCase : Bool} {c : Char}
    (h : ¬CountsAsOne noCase (fun d => !Host.isSeparator d) c) : Host.isSeparator c = true := by
  by_contra hc
  exact h (countsAsOne_self (by simpa using hc))

theorem forall₂_countsAs_iff {host name : Text} (hhost : ∀ c ∈ host, c.toNat < 128) (hname : Unicode.StrayFree name) :
    List.Forall₂ (CountsAs true) host name ↔ lower name = lower host := by
  induction host generalizing name with
  | nil => simp [lower]
  | cons c host ih =>
    cases name with
    | nil => simp [lower]
    | cons d name =>
      rw [List.forall₂_cons, countsAs_iff (hhost c (by simp)) (hname d (by simp)),
        ih (fun x hx => hhost x (by simp [hx])) fun x hx => hname x (by simp [hx])]
      simp [lower]

namespace PatternPart

theorem IsSchemeMark.ignoreCase {noCase : Bool} {mark : Text} (h : IsSchemeMark noCase mark) : IsSchemeMark true mark := by
  obtain ⟨c, name, slashes, rfl, hc, hname, hslashes⟩ := h
  exact ⟨c, name, slashes, rfl, hc.ignoreCase, fun d hd => (hname d hd).ignoreCase, hslashes⟩

theorem isSchemeMark_of_isSchemeMark {mark : Text} (h : IsSchemeMark true mark) (hs : Unicode.StrayFree mark) :
    Host.IsSchemeMark mark := by
  obtain ⟨c, name, slashes, rfl, hc, hname, hslashes⟩ := h
  refine ⟨c :: name, slashes, rfl, ?_, hslashes⟩
  rw [Host.isScheme, Bool.and_eq_true, List.all_eq_true]
  constructor
  · rcases kind_or_isAlpha_of_countsAsOne (fun d hd => ascii_of_isSchemeChar (by simp [isSchemeChar, hd]))
      (hs c (by simp)) hc with h | h
    · simp [isAlpha_eq, h]
    · exact h
  · intro d hd
    rcases kind_or_isAlpha_of_countsAsOne (fun _ => ascii_of_isSchemeChar) (hs d (by simp [hd])) (hname d hd) with h | h
    · simp only [isSchemeChar, Bool.or_eq_true] at h
      rcases h with (((h | h) | h) | h) | h <;> simp [isAlnum, Char.isAlphanum, isAlpha_eq, h]
    · simp [isAlnum, Char.isAlphanum, h]

/-- An ASCII letter counts as a small letter. -/
theorem countsAsOne_isLower {c : Char} (h : c.isAlpha = true) : CountsAsOne true Char.isLower c := by
  have hc : c.toNat < 128 := ascii_of_isAlnum (by simp [isAlnum, Char.isAlphanum, h])
  have hlow := Unicode.forall_ascii (p := fun c => c.isAlpha = true → c.toLower.isLower = true ∧
    c.toLower.toNat < 128 ∧ c.toLower.toLower = c.toLower ∧ Unicode.isStray c = false) (by decide) hc h
  exact ⟨c.toLower, hlow.1, (countsAs_iff hlow.2.1 hlow.2.2.2).2 hlow.2.2.1.symm⟩

theorem isSchemeMark_of_host {mark : Text} (h : Host.IsSchemeMark mark) : IsSchemeMark true mark := by
  obtain ⟨scheme, slashes, rfl, hscheme, hslashes⟩ := h
  cases scheme with
  | nil => cases hscheme
  | cons c name =>
    rw [Host.isScheme, Bool.and_eq_true, List.all_eq_true] at hscheme
    refine ⟨c, name, slashes, rfl, countsAsOne_isLower hscheme.1, ?_, hslashes⟩
    intro d hd
    have := hscheme.2 d hd
    -- capitals are no members of the class, but count as the small letters that are
    by_cases ha : d.isAlpha = true
    · obtain ⟨e, he, hde⟩ := countsAsOne_isLower ha
      exact ⟨e, by simp [isSchemeChar, he], hde⟩
    · apply countsAsOne_self
      simp only [isAlnum, Char.isAlphanum, Bool.or_eq_true] at this
      rcases this with (((h | h) | h) | h) | h
      · exact absurd h ha
      all_goals simp [isSchemeChar, h]

end PatternPart

/-! ### Where a host lies in a request -/

/-- Optional labels, a name that counts as the host, and behind it no character of words. -/
def PatternPart.StartsWithHost (noCase : Bool) (host behind : Text) : Prop :=
  ∃ labels name rest, behind = labels ++ name ++ rest ∧ (labels = [] ∨ IsLabels labels) ∧
    List.Forall₂ (CountsAs noCase) host name ∧ ∀ c ∈ rest.head?, ¬CountsAsOne noCase (fun d => !Host.isSeparator d) c

/-- A pattern `||host^` matches a request exactly if the request starts with the host behind an optional scheme. -/
theorem Pattern.isMatch_anchored_iff {host : Text} {matchCase : Bool} {p : Pattern}
    (h : Pattern.ofParts [.hostAnchor, .literal host, .separator] matchCase = .ok p) {request : Text} :
    p.isMatch request = true ↔ ∃ mark behind, request = mark ++ behind ∧
      (mark = [] ∨ PatternPart.IsSchemeMark (!matchCase) mark) ∧ PatternPart.StartsWithHost (!matchCase) host behind := by
  rw [Pattern.isMatch_ofParts h]
  simp only [PatternPart.TakeAll, PatternPart.Takes]
  constructor
  · rintro ⟨before, _, rest, rfl, _, _, rfl, ⟨hbefore, mark, labels, rfl, hmark, hlabels⟩, name, _, rfl, hname, last, _,
      rfl, hlast, rfl⟩
    obtain rfl := List.getLast?_eq_none_iff.1 hbefore
    refine ⟨mark, _, by simp, hmark, labels, name, last ++ rest, rfl, hlabels, hname, ?_⟩
    rcases hlast with ⟨c, rfl, hc⟩ | ⟨rfl, hrest⟩
    · simpa using hc
    · obtain rfl : rest = [] := by simpa using hrest
      simp
  · rintro ⟨mark, _, rfl, hmark, labels, name, rest, rfl, hlabels, hname, hends⟩
    cases rest with
    | nil => exact ⟨[], mark ++ (labels ++ name), [], by simp, mark ++ labels, name, by simp,
        ⟨rfl, mark, labels, rfl, hmark, hlabels⟩, name, [], by simp, hname, [], [], rfl, Or.inr ⟨rfl, rfl⟩, rfl⟩
    | cons c rest => exact ⟨[], mark ++ (labels ++ (name ++ [c])), rest, by simp, mark ++ labels, name ++ [c], by simp,
        ⟨rfl, mark, labels, rfl, hmark, hlabels⟩, name, [c], rfl, hname, [c], [], rfl,
        Or.inl ⟨c, rfl, hends c rfl⟩, rfl⟩

/-- A place of a request at which a `||host^` pattern matches. -/
structure HostPlace (host request : Text) where
  mark : Text
  labels : Text
  name : Text
  rest : Text
  split : request = mark ++ (labels ++ name ++ rest)
  isMark : mark = [] ∨ PatternPart.IsSchemeMark true mark
  isLabels : labels = [] ∨ PatternPart.IsLabels labels
  isName : List.Forall₂ (CountsAs true) host name
  ends : ∀ c ∈ rest.head?, ¬CountsAsOne true (fun d => !Host.isSeparator d) c

theorem Pattern.isMatch_host_iff {host : Text} {p : Pattern}
    (h : Pattern.ofParts [.hostAnchor, .literal host, .separator] false = .ok p) {request : Text} :
    p.isMatch request = true ↔ Nonempty (HostPlace host request) := by
  rw [Pattern.isMatch_anchored_iff h]
  constructor
  · rintro ⟨mark, _, rfl, hmark, labels, name, rest, rfl, hlabels, hname, hends⟩
    exact ⟨⟨mark, labels, name, rest, rfl, hmark, hlabels, hname, hends⟩⟩
  · rintro ⟨⟨mark, labels, name, rest, rfl, hmark, hlabels, hname, hends⟩⟩
    exact ⟨mark, _, rfl, hmark, labels, name, rest, rfl, hlabels, hname, hends⟩

namespace PatternPart

theorem IsLabels.endsAuthority {labels : Text} (h : labels = [] ∨ IsLabels labels) :
    ∀ c ∈ labels, Host.endsAuthority c = false := by
  rcases h with rfl | ⟨run, rfl, hrun⟩
  · simp
  · intro c hc
    rcases List.mem_append.1 hc with hc | hc
    · exact hrun c hc
    · obtain rfl := List.mem_singleton.1 hc
      rfl

theorem IsLabels.getLast? {labels : Text} (h : labels = [] ∨ IsLabels labels) : ∀ c ∈ labels.getLast?, c = '.' := by
  rcases h with rfl | ⟨run, rfl, -⟩
  · simp
  · simp

end PatternPart

/-- Where a `||host^` pattern takes a scheme and a name without strays, the host is among the keys of the request. -/
theorem HostPlace.lower_mem_keys {host request : Text} (x : HostPlace host request) (hhost : Host.IsPlain host)
    (hs : Unicode.StrayFree (x.mark ++ x.name)) : lower host ∈ Host.keys request := by
  obtain ⟨mark, labels, name, rest, rfl, hmark, hlabels, hname, hends⟩ := x
  have hlower : lower name = lower host :=
    (forall₂_countsAs_iff (fun c hc => ascii_of_isNameChar (hhost.chars c hc)) fun c hc => hs c (by simp [hc])).1 hname
  rw [← hlower]
  refine Host.lower_mem_keys (PatternPart.IsLabels.endsAuthority hlabels) (PatternPart.IsLabels.getLast? hlabels)
    (hhost.of_lower_eq hlower) (fun c hc => isSeparator_of_not_countsAsOne (hends c hc)) ?_
  exact hmark.imp_right fun h => PatternPart.isSchemeMark_of_isSchemeMark h fun c hc => hs c (by simp [hc])

end TrackerAudit
