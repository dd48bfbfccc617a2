import TrackerAudit.Proofs.Host.Within
import TrackerAudit.Proofs.Text.Trimming

/-!
# Sites

The site of a host that is no public suffix is a public suffix with one label more (`registrable_cases`). A host ends in
one such name only (`IsSite.eq_of_endsIn`), so it is enough to find one (`registrable_eq_of_endsIn`). The label may be
empty, and then the site starts with a dot: these are the hosts that do not belong to the same site as their site
(`registrable_registrable_iff`).
-/

namespace TrackerAudit.Host

open Text

/-! ### Public suffixes -/

private theorem dots_of_mem_twoLabelSuffixes : ∀ suffix ∈ twoLabelSuffixes,
    suffix.count '.' = 1 ∧ suffix.head? ≠ some '.' ∧ suffix.getLast? ≠ some '.' := by decide +kernel

namespace PublicSuffix

variable {suffix : Text} (h : PublicSuffix suffix)

include h

theorem ne_nil : suffix ≠ [] := h.elim And.left (ne_nil_of_mem_twoLabelSuffixes suffix)

theorem count_dot_le : suffix.count '.' ≤ 1 := by
  rcases h with ⟨-, hdot⟩ | hlisted
  · rw [List.count_eq_zero_of_not_mem hdot]
    exact Nat.zero_le 1
  · exact (dots_of_mem_twoLabelSuffixes suffix hlisted).1.le

theorem head? : ∀ c ∈ suffix.head?, (c == '.') = false := by
  intro c hc
  rcases h with ⟨-, hdot⟩ | hlisted
  · exact beq_eq_false_of_mem hdot (List.mem_of_mem_head? hc)
  · rw [beq_eq_false_iff_ne]
    rintro rfl
    exact (dots_of_mem_twoLabelSuffixes suffix hlisted).2.1 hc

theorem getLast? : ∀ c ∈ suffix.getLast?, (c == '.') = false := by
  intro c hc
  rcases h with ⟨-, hdot⟩ | hlisted
  · exact beq_eq_false_of_mem hdot (List.mem_of_mem_getLast? hc)
  · rw [beq_eq_false_iff_ne]
    rintro rfl
    exact (dots_of_mem_twoLabelSuffixes suffix hlisted).2.2 hc

theorem trimDots : Text.trimDots suffix = suffix := trimBy_of_ends h.head? h.getLast?

end PublicSuffix

/-- A public suffix has no more than one dot. -/
theorem not_publicSuffix_append {front rest : Text} (hdot : '.' ∈ rest) : ¬PublicSuffix (front ++ '.' :: rest) := by
  intro h
  have hle := h.count_dot_le
  have hpos := List.count_pos_iff.2 hdot
  rw [List.count_append, List.count_cons_self] at hle
  omega

/-! ### The ends of a host -/

namespace EndsIn

variable {host a b : Text}

theorem refl (host : Text) : EndsIn host host := Or.inl rfl

theorem trans (h : EndsIn host a) (h' : EndsIn a b) : EndsIn host b := by
  rcases h with rfl | ⟨front, rfl⟩
  · exact h'
  · rcases h' with rfl | ⟨front', rfl⟩
    · exact Or.inr ⟨front, rfl⟩
    · exact Or.inr ⟨front ++ '.' :: front', by simp⟩

theorem of_cons {x : Text} (h : '.' :: a = x ++ '.' :: b) : EndsIn a b := by
  cases x with
  | nil => exact Or.inl (List.cons.inj h).2
  | cons c x => exact Or.inr ⟨x, (List.cons.inj h).2⟩

/-- Of two names in which a host ends, the longer one ends in the other. -/
theorem total (h : EndsIn host a) (h' : EndsIn host b) : EndsIn a b ∨ EndsIn b a := by
  rcases h with rfl | ⟨front, hfront⟩
  · exact Or.inl h'
  · rcases h' with rfl | ⟨front', hfront'⟩
    · exact Or.inr (Or.inr ⟨front, hfront⟩)
    · rw [hfront] at hfront'
      rcases List.append_eq_append_iff.1 hfront' with ⟨x, -, hx⟩ | ⟨x, -, hx⟩
      · exact Or.inl (of_cons hx)
      · exact Or.inr (of_cons hx)

/-- A host that ends in a name with a dot is no public suffix, unless the name is one. -/
theorem not_publicSuffix (h : EndsIn host a) (ha : ¬PublicSuffix a) (hdot : '.' ∈ a) : ¬PublicSuffix host := by
  rcases h with rfl | ⟨front, rfl⟩
  · exact ha
  · exact not_publicSuffix_append hdot

theorem lower (h : EndsIn host a) : EndsIn (Text.lower host) (Text.lower a) := by
  rcases h with rfl | ⟨front, rfl⟩
  · exact refl _
  · exact Or.inr ⟨Text.lower front, by rw [lower_append, lower_cons]; rfl⟩

end EndsIn

/-! ### Names of sites -/

/-- A name that is a public suffix and one label before it, but no public suffix itself. -/
structure IsSite (name : Text) : Prop where
  exists_label : ∃ label suffix, name = label ++ '.' :: suffix ∧ '.' ∉ label ∧ PublicSuffix suffix
  not_publicSuffix : ¬PublicSuffix name

namespace IsSite

variable {host name name' : Text}

theorem dot_mem (h : IsSite name) : '.' ∈ name := by
  obtain ⟨label, suffix, rfl, -, -⟩ := h.exists_label
  simp

/-- A name of a site that ends in another one is that one. -/
private theorem eq_of_endsIn_self (h : IsSite name) (h' : IsSite name') (hends : EndsIn name name') : name = name' := by
  rcases hends with rfl | ⟨front, hfront⟩
  · rfl
  · obtain ⟨label, suffix, rfl, hlabel, hsuffix⟩ := h.exists_label
    -- the label ends before the first dot, so the public suffix ends in the other name
    have hfree : ∀ c ∈ label, (c == '.') = false := fun c hc => beq_eq_false_of_mem hlabel hc
    obtain ⟨x, -, hx⟩ := exists_of_append_eq hfront hfree (by simp)
    exact absurd hsuffix ((EndsIn.of_cons hx).not_publicSuffix h'.not_publicSuffix h'.dot_mem)

/-- A host ends in the name of one site only. -/
theorem eq_of_endsIn (h : IsSite name) (h' : IsSite name') (hends : EndsIn host name) (hends' : EndsIn host name') :
    name = name' := by
  rcases hends.total hends' with hname | hname
  · exact h.eq_of_endsIn_self h' hname
  · exact (h'.eq_of_endsIn_self h hname).symm

end IsSite

/-! ### The walk to the site -/

private theorem lower_of_append {a b : Text} (h : lower (a ++ b) = a ++ b) : lower a = a ∧ lower b = b := by
  rw [lower_append] at h
  exact List.append_inj h (length_lower a)

/-- Behind the first dot of a host stands its parent. -/
theorem parents_append {label parent : Text} (hlabel : '.' ∉ label) (hne : parent ≠ []) :
    parents (label ++ '.' :: parent) = parent :: parents parent := by
  have hparent : parent? (label ++ '.' :: parent) = some parent := parent?_eq_some.2 ⟨hne, label, hlabel, rfl⟩
  rw [parents_eq, hparent]

/-- The last name on the walk from a host over its parents that comes before a public suffix, or else `top`. -/
private def lastBeforeSuffix (top host : Text) : Text :=
  ((host :: parents host).takeWhile (!isPublicSuffix ·)).getLastD top

private theorem lastBeforeSuffix_of_publicSuffix {host : Text} (hlower : lower host = host) (h : PublicSuffix host)
    (top : Text) : lastBeforeSuffix top host = top := by
  have hpublic : isPublicSuffix host = true := (isPublicSuffix_iff hlower).2 h
  rw [lastBeforeSuffix, List.takeWhile_cons_of_neg (by simp [hpublic])]
  rfl

private theorem lastBeforeSuffix_append {label parent : Text} (hlower : lower (label ++ '.' :: parent) = label ++ '.' :: parent)
    (h : ¬PublicSuffix (label ++ '.' :: parent)) (hlabel : '.' ∉ label) (hne : parent ≠ []) (top : Text) :
    lastBeforeSuffix top (label ++ '.' :: parent) = lastBeforeSuffix (label ++ '.' :: parent) parent := by
  have hnot : isPublicSuffix (label ++ '.' :: parent) = false := by rwa [← Bool.not_eq_true, isPublicSuffix_iff hlower]
  rw [lastBeforeSuffix, List.takeWhile_cons_of_pos (by simp [hnot]), parents_append hlabel hne, List.getLastD_cons]
  rfl

/-- The walk from a host in small letters, without a dot at its end, stops at once if the host is a public suffix, and
otherwise right behind the name of a site. -/
private theorem lastBeforeSuffix_cases {host : Text} (hlower : lower host = host) (hne : host ≠ [])
    (hlast : ∀ c ∈ host.getLast?, (c == '.') = false) :
    PublicSuffix host ∧ (∀ top, lastBeforeSuffix top host = top) ∨
      ¬PublicSuffix host ∧ ∃ name, IsSite name ∧ EndsIn host name ∧ ∀ top, lastBeforeSuffix top host = name := by
  obtain ⟨n, hn⟩ : ∃ n, host.length = n := ⟨_, rfl⟩
  induction n using Nat.strong_induction_on generalizing host with
  | _ n ih =>
  by_cases hpublic : PublicSuffix host
  · exact Or.inl ⟨hpublic, lastBeforeSuffix_of_publicSuffix hlower hpublic⟩
  · refine Or.inr ⟨hpublic, ?_⟩
    -- a host that is no public suffix has a dot, and so a parent
    have hdot : '.' ∈ host := by
      by_contra hdot
      exact hpublic (Or.inl ⟨hne, hdot⟩)
    obtain ⟨label, parent, rfl, hlabel⟩ := List.eq_append_cons_of_mem hdot
    have hneParent : parent ≠ [] := by
      rintro rfl
      simp at hlast
    have hlastParent : ∀ c ∈ parent.getLast?, (c == '.') = false := by
      intro c hc
      exact hlast c (by simp [List.getLast?_append, List.getLast?_cons, Option.mem_def.1 hc])
    have hlowerParent : lower parent = parent := (List.cons.inj (lower_of_append hlower).2).2
    have hwalk := lastBeforeSuffix_append hlower hpublic hlabel hneParent
    have hlength : parent.length < n := by
      simp only [List.length_append, List.length_cons] at hn
      omega
    rcases ih _ hlength hlowerParent hneParent hlastParent rfl with ⟨hsuffix, hstop⟩ | ⟨-, name, hname, hends, hgo⟩
    · exact ⟨_, ⟨⟨label, parent, rfl, hlabel, hsuffix⟩, hpublic⟩, EndsIn.refl _, fun top => by rw [hwalk, hstop]⟩
    · exact ⟨name, hname, EndsIn.trans (Or.inr ⟨label, rfl⟩) hends, fun top => by rw [hwalk, hgo]⟩

theorem trimDots_lower_trimDots (host : Text) : trimDots (lower (trimDots host)) = lower (trimDots host) := by
  rw [trimDots_lower]
  exact congrArg lower (trimBy_trimBy _ host)

/-- The site of a host is the host where that is a public suffix or has nothing but dots, and otherwise the name of a
site in which the host ends. -/
theorem registrable_cases (host : Text) :
    (lower (trimDots host) = [] ∨ PublicSuffix (lower (trimDots host))) ∧ registrable host = lower (trimDots host) ∨
      ¬PublicSuffix (lower (trimDots host)) ∧ IsSite (registrable host) ∧
        EndsIn (lower (trimDots host)) (registrable host) := by
  by_cases hne : lower (trimDots host) = []
  · refine Or.inl ⟨Or.inl hne, ?_⟩
    rw [registrable, hne]
    rfl
  · have hwalk : registrable host = lastBeforeSuffix (lower (trimDots host)) (lower (trimDots host)) := by
      simp only [registrable, suffixes, trimDots_lower_trimDots, List.isEmpty_iff, if_neg hne]
      rfl
    have hlast : ∀ c ∈ (lower (trimDots host)).getLast?, (c == '.') = false := by
      rw [← trimDots_lower]
      exact getLast?_trimBy _ _
    rw [hwalk]
    rcases lastBeforeSuffix_cases (lower_lower _) hne hlast with ⟨hpublic, hstop⟩ | ⟨hpublic, name, hname, hends, hgo⟩
    · exact Or.inl ⟨Or.inr hpublic, hstop _⟩
    · rw [hgo]
      exact Or.inr ⟨hpublic, hname, hends⟩

/-- To know the site of a host it is enough to find the name of a site at its end. -/
theorem registrable_eq_of_endsIn {host name : Text} (hname : IsSite name) (hends : EndsIn (lower (trimDots host)) name) :
    registrable host = name := by
  rcases registrable_cases host with ⟨hnil | hpublic, -⟩ | ⟨-, hsite, hends'⟩
  · rw [hnil] at hends
    rcases hends with rfl | ⟨front, hfront⟩
    · exact absurd hname.dot_mem List.not_mem_nil
    · exact absurd hfront (by simp)
  · exact absurd hpublic (hends.not_publicSuffix hname.not_publicSuffix hname.dot_mem)
  · exact hsite.eq_of_endsIn hname hends' hends

theorem lower_registrable (host : Text) : lower (registrable host) = registrable host := by
  rcases registrable_cases host with ⟨-, h⟩ | ⟨-, -, hends⟩
  · rw [h, lower_lower]
  · rcases hends with h | ⟨front, h⟩
    · rw [← h, lower_lower]
    · have hlower := lower_lower (trimDots host)
      rw [h] at hlower
      exact (List.cons.inj (lower_of_append hlower).2).2

/-! ### The site of a site -/

/-- An empty label stands before a public suffix at the end of the host. Outer dots of the host and the case of its
letters count for nothing. -/
def HasGap (host : Text) : Prop :=
  ∃ front suffix, lower (trimDots host) = front ++ '.' :: '.' :: suffix ∧ PublicSuffix suffix

theorem isSite_dot {suffix : Text} (h : PublicSuffix suffix) : IsSite ('.' :: suffix) where
  exists_label := ⟨[], suffix, rfl, List.not_mem_nil, h⟩
  not_publicSuffix := fun hdot => absurd (hdot.head? '.' rfl) (by decide)

/-- A site starts with a dot exactly if the label before the public suffix is empty. -/
theorem hasGap_iff {host : Text} : HasGap host ↔ ∃ suffix, registrable host = '.' :: suffix ∧ PublicSuffix suffix := by
  constructor
  · rintro ⟨front, suffix, hhost, hsuffix⟩
    exact ⟨suffix, registrable_eq_of_endsIn (isSite_dot hsuffix) (Or.inr ⟨front, hhost⟩), hsuffix⟩
  · rintro ⟨suffix, hsite, hsuffix⟩
    have hhead : lower (trimDots host) ≠ '.' :: suffix := by
      intro h
      have hdot := head?_trimBy (· == '.') (lower host)
      rw [← trimDots, trimDots_lower, h] at hdot
      exact absurd (hdot '.' rfl) (by decide)
    rcases registrable_cases host with ⟨-, h⟩ | ⟨-, -, hends⟩
    · exact absurd (h.symm.trans hsite) hhead
    · rw [hsite] at hends
      rcases hends with h | ⟨front, h⟩
      · exact absurd h hhead
      · exact ⟨front, suffix, h, hsuffix⟩

/-- A dot before a public suffix is trimmed off, and then the host is that suffix. -/
private theorem registrable_dot {suffix : Text} (hlower : lower suffix = suffix) (h : PublicSuffix suffix) :
    registrable ('.' :: suffix) = suffix := by
  have htrim : lower (trimDots ('.' :: suffix)) = suffix := by
    have hdot : trimDots ('.' :: suffix) = trimDots suffix := trimBy_append_left (a := ['.']) (by simp)
    rw [hdot, h.trimDots, hlower]
  rcases registrable_cases ('.' :: suffix) with ⟨-, hsite⟩ | ⟨hpublic, -, -⟩
  · rw [hsite, htrim]
  · rw [htrim] at hpublic
    exact absurd h hpublic

private theorem registrable_registrable_of_not_hasGap {host : Text} (h : ¬HasGap host) :
    registrable (registrable host) = registrable host := by
  rcases registrable_cases host with ⟨-, hhost⟩ | ⟨-, hsite, -⟩
  · have htrim : registrable (lower (trimDots host)) = registrable host := by
      rw [registrable, trimDots_lower_trimDots, lower_lower, registrable]
    rw [hhost, htrim, hhost]
  · obtain ⟨label, suffix, hname, hlabel, hsuffix⟩ := hsite.exists_label
    have hne : label ≠ [] := by
      rintro rfl
      exact h (hasGap_iff.2 ⟨suffix, hname, hsuffix⟩)
    -- without an empty label there is nothing to trim
    have htrim : trimDots (registrable host) = registrable host := by
      rw [hname]
      refine trimBy_of_ends (fun c hc => ?_) fun c hc => ?_
      · rw [List.head?_append_of_ne_nil label hne] at hc
        exact beq_eq_false_of_mem hlabel (List.mem_of_mem_head? hc)
      · rw [List.append_cons, List.getLast?_append_of_ne_nil _ hsuffix.ne_nil] at hc
        exact hsuffix.getLast? c hc
    refine registrable_eq_of_endsIn hsite (Or.inl ?_)
    rw [htrim, lower_registrable]

/-- A host belongs to the same site as its site, which is its own site, exactly if there is no empty label before the
public suffix at its end. -/
theorem registrable_registrable_iff (host : Text) :
    (registrable (registrable host) = registrable host ↔ ¬HasGap host) ∧
      (sameSite host (registrable host) = true ↔ ¬HasGap host) := by
  have hfixed : registrable (registrable host) = registrable host ↔ ¬HasGap host := by
    refine ⟨fun hfixed hgap => ?_, registrable_registrable_of_not_hasGap⟩
    obtain ⟨suffix, hsite, hsuffix⟩ := hasGap_iff.1 hgap
    have hlower := lower_registrable host
    rw [hsite, lower_cons] at hlower
    rw [hsite, registrable_dot (List.cons.inj hlower).2 hsuffix] at hfixed
    exact absurd hfixed.symm (List.cons_ne_self '.' suffix)
  refine ⟨hfixed, ?_⟩
  rw [sameSite, beq_iff_eq, eq_comm, hfixed]

/-- The host `a..com` passes for a domain. Its site is `.com`, and the site of that is `com`. -/
theorem sameSite_ne_gap : looksLikeDomain "a..com".toList = true ∧ registrable "a..com".toList = ".com".toList ∧
    registrable (registrable "a..com".toList) = "com".toList ∧
      sameSite "a..com".toList (registrable "a..com".toList) = false := by decide +kernel

end TrackerAudit.Host
