import TrackerAudit.Proofs.Host.Case

/-!
# Which hosts lie within a domain

A host lies within a domain if it is the domain or ends in it after a dot, and within an entity `name.*` if it is `name`
under a public suffix or ends in that after a dot (`LiesWithin`). Outer dots of the host and the case of its letters count
for nothing. The walk from the host to its parents, with a test of each, finds exactly this (`within_domain_iff`,
`within_entity_iff`).
-/

namespace TrackerAudit.Host

open Text

/-! ### Public suffixes -/

/-- One label that is not empty, or a suffix of the table; in small letters. -/
def PublicSuffix (suffix : Text) : Prop := suffix ≠ [] ∧ '.' ∉ suffix ∨ suffix ∈ twoLabelSuffixes

instance (suffix : Text) : Decidable (PublicSuffix suffix) := inferInstanceAs (Decidable (_ ∨ _))

theorem lower_of_mem_twoLabelSuffixes : ∀ suffix ∈ twoLabelSuffixes, lower suffix = suffix := by decide +kernel

theorem ne_nil_of_mem_twoLabelSuffixes : ∀ suffix ∈ twoLabelSuffixes, suffix ≠ [] := by decide +kernel

theorem isPublicSuffix_iff {suffix : Text} (h : lower suffix = suffix) :
    isPublicSuffix suffix = true ↔ PublicSuffix suffix := by
  have hlisted : twoLabelSuffixes.any (sameNoCase · suffix) = true ↔ suffix ∈ twoLabelSuffixes := by
    rw [List.any_eq_true]
    constructor
    · rintro ⟨s, hs, hsame⟩
      rw [sameNoCase_iff, lower_of_mem_twoLabelSuffixes s hs, h] at hsame
      exact hsame ▸ hs
    · exact fun hs => ⟨suffix, hs, sameNoCase_iff.2 rfl⟩
  rw [isPublicSuffix, Bool.and_eq_true, Bool.or_eq_true, hlisted, Bool.not_eq_true', Bool.not_eq_true',
    List.isEmpty_eq_false_iff, ← Bool.not_eq_true, List.contains_iff_mem, and_or_left, PublicSuffix]
  exact or_congr_right (and_iff_right_of_imp (ne_nil_of_mem_twoLabelSuffixes suffix))

/-! ### Entities -/

theorem cutName?_eq_some {name host rest : Text} :
    cutName? name host = some rest ↔ ∃ head, host = head ++ rest ∧ lower head = lower name := by
  induction name generalizing host with
  | nil => simp [cutName?, lower, eq_comm]
  | cons c name ih =>
    cases host with
    | nil => simp +contextual [cutName?, lower, eq_comm]
    | cons d host =>
      rw [cutName?, Option.ite_none_right_eq_some, ih]
      constructor
      · rintro ⟨hc, head, rfl, hhead⟩
        exact ⟨d :: head, rfl, by rw [lower_cons, lower_cons, hc, hhead]⟩
      · rintro ⟨head, hhost, hhead⟩
        cases head with
        | nil => cases hhead
        | cons e head =>
          obtain ⟨rfl, rfl⟩ := List.cons.inj hhost
          rw [lower_cons, lower_cons, List.cons.injEq] at hhead
          exact ⟨hhead.1.symm, head, rfl, hhead.2⟩

theorem isEntity_iff {name host : Text} : isEntity name host = true ↔
    ∃ head suffix, host = head ++ '.' :: suffix ∧ lower head = lower name ∧ isPublicSuffix suffix = true := by
  unfold isEntity
  split
  · rename_i suffix hcut
    obtain ⟨head, rfl, hhead⟩ := cutName?_eq_some.1 hcut
    constructor
    · exact fun h => ⟨head, suffix, rfl, hhead, h⟩
    · rintro ⟨head', suffix', hhost, hhead', h⟩
      -- both heads are as long as the name
      have hlength : head.length = head'.length := by
        rw [← length_lower head, hhead, ← hhead', length_lower]
      obtain ⟨-, hsuffix⟩ := List.append_inj hhost hlength
      exact (List.cons.inj hsuffix).2 ▸ h
  · rename_i hno
    refine ⟨fun h => absurd h Bool.false_ne_true, ?_⟩
    rintro ⟨head, suffix, rfl, hhead, -⟩
    exact absurd (cutName?_eq_some.2 ⟨head, rfl, hhead⟩) (hno suffix)

/-! ### Domains and entities -/

/-- The host is the name, or ends in it after a dot. -/
def EndsIn (host name : Text) : Prop := host = name ∨ ∃ front, host = front ++ '.' :: name

/-- The page lies within an entry of a `domain=` option: within a domain if it is the domain or ends in it after a dot,
within an entity `name.*` if it is `name` under a public suffix or ends in that after a dot. Outer dots of the page and
the case of its letters count for nothing. -/
inductive LiesWithin (page : Text) : Text → Prop
  | domain {name : Text} : '*' ∉ name → EndsIn (lower (trimDots page)) name → LiesWithin page name
  | entity {name suffix : Text} : PublicSuffix suffix → EndsIn (lower (trimDots page)) (name ++ '.' :: suffix) →
      LiesWithin page (name ++ ".*".toList)

namespace LiesWithin

variable {page name : Text}

theorem domain_iff (hstar : '*' ∉ name) : LiesWithin page name ↔ EndsIn (lower (trimDots page)) name := by
  constructor
  · intro h
    cases h with
    | domain _ hends => exact hends
    | entity _ _ => exact absurd (by simp) hstar
  · exact domain hstar

theorem entity_iff : LiesWithin page (name ++ ".*".toList) ↔
    ∃ suffix, PublicSuffix suffix ∧ EndsIn (lower (trimDots page)) (name ++ '.' :: suffix) := by
  constructor
  · generalize hentry : name ++ ".*".toList = entry
    intro h
    cases h with
    | domain hstar _ => exact absurd (by simp [← hentry]) hstar
    | entity hsuffix hends =>
      obtain rfl := List.append_cancel_right hentry
      exact ⟨_, hsuffix, hends⟩
  · rintro ⟨suffix, hsuffix, hends⟩
    exact entity hsuffix hends

end LiesWithin

theorem mem_suffixes_lower {page t : Text} : t ∈ suffixes (lower page) ↔ t ≠ [] ∧ EndsIn (lower (trimDots page)) t := by
  rw [mem_suffixes, trimDots_lower, EndsIn]

theorem lower_of_mem_suffixes_lower {page t : Text} (h : t ∈ suffixes (lower page)) : lower t = t := by
  rw [suffixes_lower] at h
  obtain ⟨s, -, rfl⟩ := List.mem_map.1 h
  exact lower_lower s

section

variable {page name : Text} (hlower : lower name = name)

include hlower

theorem within_domain_iff (hne : name ≠ []) (hstar : '*' ∉ name) :
    within page name = true ↔ LiesWithin page name := by
  have hcut : cutEnd? ".*".toList name = none := by
    rw [Option.eq_none_iff_forall_ne_some]
    intro l hl
    rw [cutEnd?_eq_some.1 hl] at hstar
    exact hstar (by simp)
  rw [LiesWithin.domain_iff hstar, ← within_lower, within, hcut, List.any_eq_true]
  constructor
  · rintro ⟨t, ht, hsame⟩
    rw [sameNoCase_iff, lower_of_mem_suffixes_lower ht, hlower] at hsame
    exact hsame ▸ (mem_suffixes_lower.1 ht).2
  · exact fun h => ⟨name, mem_suffixes_lower.2 ⟨hne, h⟩, sameNoCase_iff.2 rfl⟩

theorem within_entity_iff : within page (name ++ ".*".toList) = true ↔ LiesWithin page (name ++ ".*".toList) := by
  have hcut : cutEnd? ".*".toList (name ++ ".*".toList) = some name := cutEnd?_eq_some.2 rfl
  rw [LiesWithin.entity_iff, ← within_lower, within, hcut, List.any_eq_true]
  constructor
  · rintro ⟨t, ht, hentity⟩
    obtain ⟨head, suffix, rfl, hhead, hsuffix⟩ := isEntity_iff.1 hentity
    -- a suffix of a host in small letters is in small letters, and so are its parts
    have hsmall := lower_of_mem_suffixes_lower ht
    rw [lower_append, lower_cons] at hsmall
    obtain ⟨hhead', hrest⟩ := List.append_inj hsmall (length_lower head)
    obtain rfl : head = name := by rw [← hhead', hhead, hlower]
    exact ⟨suffix, (isPublicSuffix_iff (List.cons.inj hrest).2).1 hsuffix, (mem_suffixes_lower.1 ht).2⟩
  · rintro ⟨suffix, hsuffix, hends⟩
    have hmem := mem_suffixes_lower.2 ⟨by simp, hends⟩
    have hsmall := lower_of_mem_suffixes_lower hmem
    rw [lower_append, lower_cons] at hsmall
    obtain ⟨-, hrest⟩ := List.append_inj hsmall (length_lower name)
    exact ⟨_, hmem, isEntity_iff.2 ⟨name, suffix, rfl, rfl, (isPublicSuffix_iff (List.cons.inj hrest).2).2 hsuffix⟩⟩

end

end TrackerAudit.Host
