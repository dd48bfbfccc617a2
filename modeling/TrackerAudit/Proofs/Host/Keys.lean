import TrackerAudit.Host.Keys
import TrackerAudit.Proofs.Text.Cutting

/-!
# Which hosts are among the keys of a request

The suffixes of a host are what follows its dots (`mem_parents`, `mem_suffixes`). A name that stands in a request where
a `||` pattern may find it, after an optional scheme and optional labels and before a separator or the end, is among the
keys of the request in small letters (`lower_mem_keys`).
-/

namespace TrackerAudit.Host

open Text

/-! ### Suffixes -/

theorem parent?_eq_some {host parent : Text} :
    parent? host = some parent ↔ parent ≠ [] ∧ ∃ label, '.' ∉ label ∧ host = label ++ '.' :: parent := by
  unfold parent?
  constructor
  · intro h
    split at h
    · rename_i label rest hcut
      split at h
      · cases h
      · rename_i hne
        cases h
        obtain ⟨hhost, hlabel⟩ := cutFirst?_eq_some.1 hcut
        exact ⟨by simpa using hne, label, hlabel, hhost⟩
    · cases h
  · rintro ⟨hne, label, hlabel, hhost⟩
    rw [cutFirst?_eq_some.2 ⟨hhost, hlabel⟩]
    simp [hne]

theorem mem_parents {host t : Text} : t ∈ parents host ↔ t ≠ [] ∧ ∃ pre, host = pre ++ '.' :: t := by
  induction host with
  | nil => simp [parents]
  | cons c rest ih =>
    have hcons : (∃ pre, c :: rest = pre ++ '.' :: t) ↔ c = '.' ∧ rest = t ∨ ∃ pre, rest = pre ++ '.' :: t := by
      constructor
      · rintro ⟨pre, h⟩
        cases pre with
        | nil => exact Or.inl (by simpa using h)
        | cons d pre => exact Or.inr ⟨pre, (List.cons.inj h).2⟩
      · rintro (⟨rfl, rfl⟩ | ⟨pre, rfl⟩)
        · exact ⟨[], rfl⟩
        · exact ⟨c :: pre, rfl⟩
    rw [parents, hcons, and_or_left, ← ih]
    by_cases hc : c = '.'
    · by_cases hr : rest = []
      · subst hr
        simp +contextual [parents, eq_comm]
      · simp only [hc, beq_self_eq_true, List.isEmpty_eq_false_iff.2 hr, Bool.not_false, Bool.and_self, if_true,
          List.mem_cons, true_and]
        refine or_congr_left ⟨?_, fun h => h.2.symm⟩
        rintro rfl
        exact ⟨hr, rfl⟩
    · simp [hc]

theorem mem_suffixes {host t : Text} :
    t ∈ suffixes host ↔ t ≠ [] ∧ (trimDots host = t ∨ ∃ pre, trimDots host = pre ++ '.' :: t) := by
  unfold suffixes
  by_cases h : trimDots host = []
  · simp +contextual [h, eq_comm]
  · simp only [List.isEmpty_eq_false_iff.2 h, Bool.false_eq_true, if_false, List.mem_cons, mem_parents, and_or_left]
    refine or_congr_left ⟨?_, fun h => h.2.symm⟩
    rintro rfl
    exact ⟨h, rfl⟩

/-! ### Plain names -/

/-- A character of a domain: an ASCII letter or digit, a dot or a hyphen. -/
def isNameChar (c : Char) : Bool := isAlnum c || c == '.' || c == '-'

/-- A host that can be looked up: it has only characters of domains, and none of its ends is a dot. -/
structure IsPlain (name : Text) : Prop where
  nonempty : name ≠ []
  head : name.head? ≠ some '.'
  last : name.getLast? ≠ some '.'
  chars : ∀ c ∈ name, isNameChar c = true

theorem isSeparator_of_isNameChar {c : Char} (h : isNameChar c = true) : isSeparator c = false := by
  simp only [isNameChar, Bool.or_eq_true] at h
  rcases h with (h | h) | h <;> simp [isSeparator, h]

theorem isSeparator_of_endsAuthority {c : Char} (h : endsAuthority c = true) : isSeparator c = true := by
  simp only [endsAuthority, Bool.or_eq_true, beq_iff_eq] at h
  rcases h with (rfl | rfl) | rfl <;> decide

theorem ascii_of_endsAuthority {c : Char} (h : endsAuthority c = true) : c.toNat < 128 ∧ c.isAlpha = false := by
  simp only [endsAuthority, Bool.or_eq_true, beq_iff_eq] at h
  rcases h with (rfl | rfl) | rfl <;> decide

theorem endsAuthority_of_isSeparator {c : Char} (h : isSeparator c = false) : endsAuthority c = false := by
  cases hc : endsAuthority c with
  | false => rfl
  | true => rw [isSeparator_of_endsAuthority hc] at h; cases h

theorem IsPlain.head_ne {name : Text} (h : IsPlain name) : ∀ c ∈ name.head?, (c == '.') = false := by
  intro c hc
  rw [beq_eq_false_iff_ne]
  rintro rfl
  exact h.head hc

theorem IsPlain.last_ne {name : Text} (h : IsPlain name) : ∀ c ∈ name.getLast?, (c == '.') = false := by
  intro c hc
  rw [beq_eq_false_iff_ne]
  rintro rfl
  exact h.last hc

theorem IsPlain.isSeparator {name : Text} (h : IsPlain name) : ∀ c ∈ name, isSeparator c = false :=
  fun c hc => isSeparator_of_isNameChar (h.chars c hc)

private theorem head?_of_lower_eq {a b : Text} (h : lower a = lower b) (ha : a.head? = some '.') : b.head? = some '.' := by
  have hb := congrArg List.head? h
  rw [lower, lower, List.head?_map, List.head?_map, ha, eq_comm, Option.map_some, Option.map_eq_some_iff] at hb
  obtain ⟨c, hc, hdot⟩ := hb
  obtain rfl : c = '.' := (toLower_eq_iff rfl).1 hdot
  exact hc

/-- To be a plain name does not depend on case. -/
theorem IsPlain.of_lower_eq {host name : Text} (h : IsPlain host) (he : lower name = lower host) : IsPlain name where
  nonempty := by
    rintro rfl
    exact h.nonempty (by simpa [lower] using he.symm)
  head := fun hd => h.head (head?_of_lower_eq he hd)
  last := by
    intro hd
    apply h.last
    rw [List.getLast?_eq_head?_reverse] at hd ⊢
    refine head?_of_lower_eq ?_ hd
    simpa [lower] using he
  chars := by
    intro c hc
    have hmem : c.toLower ∈ lower host := he ▸ List.mem_map_of_mem hc
    obtain ⟨d, hd, hdc⟩ := List.mem_map.1 hmem
    rcases eq_or_isAlpha_of_toLower_eq hdc.symm with rfl | ha
    · exact h.chars _ hd
    · simp [isNameChar, isAlnum, Char.isAlphanum, ha.1]

/-- The small form of a plain name stands among the suffixes of every host that ends in it after a dot. -/
theorem lower_mem_suffixes {pre name : Text} (hpre : ∀ c ∈ pre.getLast?, c = '.') (h : IsPlain name) :
    lower name ∈ suffixes (lower (pre ++ name)) := by
  have hlower : IsPlain (lower name) := h.of_lower_eq (lower_lower name)
  have htrim : trimDots (lower (pre ++ name)) = (lower pre).dropWhile (· == '.') ++ lower name := by
    rw [trimDots, trimBy, lower_append, dropWhile_append_of_head? hlower.head_ne,
      dropEnd_append hlower.last_ne hlower.nonempty]
  rw [mem_suffixes, htrim]
  refine ⟨hlower.nonempty, ?_⟩
  rcases List.eq_nil_or_concat' ((lower pre).dropWhile (· == '.')) with hnil | ⟨x, c, hx⟩
  · exact Or.inl (by rw [hnil]; rfl)
  · have hc : c ∈ (lower pre).getLast? := getLast?_dropWhile (p := (· == '.')) (by rw [hx]; simp)
    rw [lower, List.getLast?_map, Option.mem_def, Option.map_eq_some_iff] at hc
    obtain ⟨d, hd, rfl⟩ := hc
    obtain rfl := hpre d hd
    exact Or.inr ⟨x, by rw [hx]; simp⟩

/-! ### Keys -/

/-- A scheme with its colon, and perhaps two slashes. -/
def IsSchemeMark (s : Text) : Prop :=
  ∃ scheme slashes, s = scheme ++ ':' :: slashes ∧ isScheme scheme = true ∧ (slashes = [] ∨ slashes = ['/', '/'])

theorem isScheme_chars {s : Text} (h : isScheme s = true) :
    ∀ c ∈ s, (isAlnum c || c == '+' || c == '-' || c == '.') = true := by
  cases s with
  | nil => simp
  | cons c s =>
    rw [isScheme, Bool.and_eq_true, List.all_eq_true] at h
    intro d hd
    rcases List.mem_cons.1 hd with rfl | hd
    · simp [isAlnum, Char.isAlphanum, h.1]
    · exact h.2 d hd

theorem colon_not_mem_of_isScheme {s : Text} (h : isScheme s = true) : ':' ∉ s := by
  intro hc
  have := isScheme_chars h ':' hc
  revert this
  decide

/-- What follows a scheme is one of the places where a host may start. -/
theorem mem_anchored_of_isSchemeMark {mark rest : Text} (h : IsSchemeMark mark) : rest ∈ anchored (mark ++ rest) := by
  obtain ⟨scheme, slashes, rfl, hscheme, hslashes⟩ := h
  have hcut : cutFirst? ':' (scheme ++ ':' :: slashes ++ rest) = some (scheme, slashes ++ rest) := by
    rw [cutFirst?_eq_some]
    exact ⟨by simp, colon_not_mem_of_isScheme hscheme⟩
  unfold anchored
  rw [hcut]
  simp only [hscheme, if_true, List.mem_append, List.mem_cons]
  right
  rcases hslashes with rfl | rfl
  · exact Or.inl rfl
  · right
    rw [Option.mem_toList, cutStart?_eq_some]
    rfl

section

variable {labels name rest : Text} (hfree : ∀ c ∈ labels, endsAuthority c = false)
  (hlast : ∀ c ∈ labels.getLast?, c = '.') (hname : IsPlain name) (hrest : ∀ c ∈ rest.head?, isSeparator c = true)

include hfree hlast hname hrest

/-- A plain name after labels and before a separator ends one of the runs of the authority. -/
private theorem exists_authorityRun :
    ∃ pre, lower (pre ++ name) ∈ authorityRuns (labels ++ name ++ rest) ∧ ∀ c ∈ pre.getLast?, c = '.' := by
  -- the run of the name starts within the labels, after their last separator
  obtain ⟨a, pre, rfl, hpre, ha⟩ := exists_last_run isSeparator labels
  have hauthority : ∀ c ∈ a ++ pre ++ name, endsAuthority c = false := by
    intro c hc
    rcases List.mem_append.1 hc with hc | hc
    · exact hfree c hc
    · exact endsAuthority_of_isSeparator (hname.isSeparator c hc)
  have hend : ∀ c ∈ (before endsAuthority rest).head?, isSeparator c = true := by
    intro c hc
    cases rest with
    | nil => cases hc
    | cons d rest =>
      rw [before, List.takeWhile_cons] at hc
      split at hc
      · exact hrest c hc
      · cases hc
  refine ⟨pre, ?_, ?_⟩
  · rw [authorityRuns, before_append hauthority, List.append_assoc a]
    refine List.mem_map_of_mem (mem_splitOnP ?_ ha hend)
    intro c hc
    rcases List.mem_append.1 hc with hc | hc
    · exact hpre c hc
    · exact hname.isSeparator c hc
  · intro c hc
    apply hlast
    rw [List.getLast?_append, hc]
    rfl

/-- A plain name that stands after an optional scheme and optional labels, and before a separator or the end, is in
small letters among the keys. -/
theorem lower_mem_keys {mark : Text} (hmark : mark = [] ∨ IsSchemeMark mark) :
    lower name ∈ keys (mark ++ (labels ++ name ++ rest)) := by
  obtain ⟨pre, hrun, hpre⟩ := exists_authorityRun hfree hlast hname hrest
  have hanchored : labels ++ name ++ rest ∈ anchored (mark ++ (labels ++ name ++ rest)) := by
    rcases hmark with rfl | hmark
    · simp [anchored]
    · exact mem_anchored_of_isSchemeMark hmark
  rw [keys, List.mem_eraseDups]
  refine List.mem_flatMap.2 ⟨lower (pre ++ name), ?_, lower_mem_suffixes hpre hname⟩
  exact List.mem_flatMap.2 ⟨_, hanchored, hrun⟩

end

end TrackerAudit.Host
