import TrackerAudit.Host.Authority
import TrackerAudit.Proofs.Pattern.HostRule

/-!
# Patterns `||host^` and the authority of a request

The name that a `||host^` pattern takes has no character that ends an authority, and neither have the labels and the name
of the scheme before it. So the pattern matches no request that starts with a slash (`Pattern.isMatch_slash`), and where
the authority of a request is free of strays, so is all that the pattern takes, and its host is among the keys
(`HostPlace.lower_mem_keys_of_authority`).
-/

namespace TrackerAudit

open Text Unicode

/-! ### What the parts of a pattern cannot take -/

/-- What counts as a character of a name and is no stray is one. -/
theorem isNameChar_of_countsAs {c d : Char} (hc : Host.isNameChar c = true) (hd : isStray d = false)
    (h : CountsAs true c d) : Host.isNameChar d = true := by
  rcases eq_or_isAlpha_of_toLower_eq ((countsAs_iff (ascii_of_isNameChar hc) hd).1 h) with rfl | ha
  · exact hc
  · simp [Host.isNameChar, isAlnum, Char.isAlphanum, ha.1]

section

variable {host name : Text} (hhost : Host.IsPlain host) (hname : List.Forall₂ (CountsAs true) host name)

include hhost hname

theorem isNameChar_of_forall₂ : ∀ d ∈ name, isStray d = false → Host.isNameChar d = true := by
  have hchars := hhost.chars
  clear hhost
  induction hname with
  | nil => simp
  | cons hcd _ ih =>
    intro d hd hstray
    rcases List.mem_cons.1 hd with rfl | hd
    · exact isNameChar_of_countsAs (hchars _ (by simp)) hstray hcd
    · exact ih (fun c hc => hchars c (by simp [hc])) d hd hstray

theorem endsAuthority_of_forall₂ : ∀ d ∈ name, Host.endsAuthority d = false := by
  intro d hd
  cases h : Host.endsAuthority d with
  | false => rfl
  | true =>
    have hstray := isStray_of_ascii (Host.ascii_of_endsAuthority h).1
    have hsep := Host.isSeparator_of_isNameChar (isNameChar_of_forall₂ hhost hname d hd hstray)
    rw [Host.isSeparator_of_endsAuthority h] at hsep
    cases hsep

/-- Neither the labels nor the name that a pattern takes go past an authority. -/
theorem endsAuthority_labels_name {labels : Text} (hlabels : labels = [] ∨ PatternPart.IsLabels labels) :
    ∀ c ∈ labels ++ name, Host.endsAuthority c = false := by
  intro c hc
  rcases List.mem_append.1 hc with hc | hc
  · exact PatternPart.IsLabels.endsAuthority hlabels c hc
  · exact endsAuthority_of_forall₂ hhost hname c hc

theorem colon_not_mem_of_forall₂ : ':' ∉ name := by
  intro h
  have := isNameChar_of_forall₂ hhost hname ':' h rfl
  revert this
  decide

omit hhost in
theorem dot_mem_of_forall₂ (hdot : '.' ∈ host) : '.' ∈ name := by
  have horbit : Unicode.orbit '.' = ['.'] := by decide +kernel
  induction hname with
  | nil => exact hdot
  | cons hcd _ ih =>
    rcases List.mem_cons.1 hdot with rfl | hdot
    · rw [(countsAs_iff_eq horbit).1 hcd]
      exact List.mem_cons_self
    · exact List.mem_cons_of_mem _ (ih hdot)

end

/-- The name in a scheme mark has neither a colon nor a character that ends an authority. -/
theorem PatternPart.IsSchemeMark.exists_name {mark : Text} (h : PatternPart.IsSchemeMark true mark) :
    ∃ name slashes, mark = name ++ ':' :: slashes ∧ (∀ c ∈ name, (c == ':' || Host.endsAuthority c) = false) ∧
      (slashes = [] ∨ slashes = ['/', '/']) := by
  obtain ⟨c, name, slashes, rfl, hc, hname, hslashes⟩ := h
  refine ⟨c :: name, slashes, rfl, ?_, hslashes⟩
  have hscheme : ∀ d ∈ c :: name, CountsAsOne true isSchemeChar d := by
    intro d hd
    rcases List.mem_cons.1 hd with rfl | hd
    · obtain ⟨e, he, hde⟩ := hc
      exact ⟨e, by simp [isSchemeChar, he], hde⟩
    · exact hname d hd
  intro d hd
  cases hend : (d == ':' || Host.endsAuthority d) with
  | false => rfl
  | true =>
    simp only [Host.endsAuthority, Bool.or_eq_true, beq_iff_eq] at hend
    have hkind := kind_or_isAlpha_of_countsAsOne (fun _ => ascii_of_isSchemeChar) (d := d)
      (by rcases hend with rfl | (rfl | rfl) | rfl <;> rfl) (hscheme d hd)
    rcases hend with rfl | (rfl | rfl) | rfl <;> revert hkind <;> decide

/-- Behind its mark a pattern takes at least one character, and none at which an authority ends. -/
theorem PatternPart.StartsWithHost.eq_cons {noCase : Bool} {host behind : Text} (h : StartsWithHost noCase host behind)
    (hhost : Host.IsPlain host) : ∃ c rest, behind = c :: rest ∧ Host.endsAuthority c = false := by
  obtain ⟨labels, name, rest, rfl, hlabels, hname, -⟩ := h
  cases hl : labels with
  | cons c labels => exact ⟨c, _, rfl, IsLabels.endsAuthority hlabels c (by simp [hl])⟩
  | nil =>
    cases hname with
    | nil => exact absurd rfl hhost.nonempty
    | cons hcd hname =>
      have hname := hname.imp fun _ _ h => h.ignoreCase
      exact ⟨_, _, rfl, endsAuthority_of_forall₂ hhost (.cons hcd.ignoreCase hname) _ (by simp)⟩

/-- A pattern `||host^` matches no request that starts with a slash: no scheme does, and no label or host. -/
theorem Pattern.isMatch_slash {host : Text} (hhost : Host.IsPlain host) {matchCase : Bool} {p : Pattern}
    (h : Pattern.ofParts [.hostAnchor, .literal host, .separator] matchCase = .ok p) (rest : Text) :
    p.isMatch ('/' :: rest) = false := by
  rw [Bool.eq_false_iff, ne_eq, Pattern.isMatch_anchored_iff h]
  rintro ⟨mark, behind, hsplit, rfl | hmark, hbehind⟩
  · obtain ⟨c, t, rfl, hc⟩ := hbehind.eq_cons hhost
    obtain ⟨rfl, -⟩ := List.cons.inj hsplit
    cases hc
  · obtain ⟨n, slashes, rfl, hn, -⟩ := hmark.ignoreCase.exists_name
    cases n with
    | nil =>
      obtain ⟨hc, -⟩ := List.cons.inj hsplit
      cases hc
    | cons c n =>
      obtain ⟨rfl, -⟩ := List.cons.inj hsplit
      cases hn '/' (by simp)

/-! ### The authority of a request -/

namespace Host

variable {request scheme rest : Text}

theorem eq_of_cutSchemeMark? (h : cutSchemeMark? request = some (scheme, rest)) :
    request = scheme ++ ':' :: '/' :: '/' :: rest := by
  induction request generalizing scheme with
  | nil => cases h
  | cons c s ih =>
    rw [cutSchemeMark?] at h
    split at h
    · rename_i hcut
      obtain ⟨rfl, rfl⟩ := Prod.mk.inj (Option.some.inj h)
      simpa using cutStart?_eq_some.1 hcut
    · obtain ⟨⟨l, r⟩, hs, hlr⟩ := Option.map_eq_some_iff.1 h
      cases hlr
      rw [ih hs, List.cons_append]

theorem cutSchemeMark?_append (h : ':' ∉ scheme) :
    cutSchemeMark? (scheme ++ ':' :: '/' :: '/' :: rest) = some (scheme, rest) := by
  induction scheme with
  | nil => rfl
  | cons c scheme ih =>
    rw [List.mem_cons, not_or] at h
    have hcut : cutStart? "://".toList (c :: (scheme ++ ':' :: '/' :: '/' :: rest)) = none := if_neg h.1
    rw [List.cons_append, cutSchemeMark?, hcut, ih h.2]
    rfl

/-- What follows two slashes at the start of a request, or else the request. -/
private theorem relative_cases (request : Text) :
    request = '/' :: '/' :: (cutStart? "//".toList request).getD request ∨
      (cutStart? "//".toList request).getD request = request := by
  cases hcut : cutStart? "//".toList request with
  | none => exact Or.inr rfl
  | some rest => exact Or.inl (cutStart?_eq_some.1 hcut)

/-- The authority stands behind the scheme, or at the start of a request that has no scheme and does not start with a
slash. -/
theorem authority_cases (request : Text) :
    (∃ scheme rest, request = scheme ++ ':' :: '/' :: '/' :: rest ∧ isScheme scheme = true ∧
      authority request = before endsAuthority rest) ∨
    (∀ scheme rest, request = scheme ++ ':' :: '/' :: '/' :: rest → isScheme scheme = false) ∧
      (request.head? ≠ some '/' → authority request = before endsAuthority request) := by
  have hrelative (h : request.head? ≠ some '/') : (cutStart? "//".toList request).getD request = request := by
    rcases relative_cases request with hslash | hslash
    · rw [hslash] at h
      exact absurd rfl h
    · exact hslash
  -- a scheme has no colon, so it is cut off
  have hcutScheme (scheme rest : Text) (h : request = scheme ++ ':' :: '/' :: '/' :: rest)
      (hscheme : isScheme scheme = true) : cutSchemeMark? request = some (scheme, rest) := by
    rw [h, cutSchemeMark?_append (colon_not_mem_of_isScheme hscheme)]
  unfold authority dropScheme
  cases hcut : cutSchemeMark? request with
  | some sr =>
    cases hscheme : isScheme sr.1 with
    | true => exact Or.inl ⟨sr.1, sr.2, eq_of_cutSchemeMark? hcut, hscheme, by simp only [hscheme, if_true]⟩
    | false =>
      refine Or.inr ⟨fun scheme rest h => ?_, fun h => ?_⟩
      · rw [Bool.eq_false_iff]
        intro hscheme'
        rw [hcutScheme scheme rest h hscheme', Option.some.injEq] at hcut
        rw [← hcut, hscheme'] at hscheme
        cases hscheme
      · simp only [hscheme, Bool.false_eq_true, if_false, hrelative h]
  | none =>
    refine Or.inr ⟨fun scheme rest h => ?_, fun h => by rw [hrelative h]⟩
    rw [Bool.eq_false_iff]
    intro hscheme'
    rw [hcutScheme scheme rest h hscheme'] at hcut
    cases hcut

theorem authority_infix (request : Text) : authority request <:+: request := by
  have hrelative : (cutStart? "//".toList request).getD request <:+ request := by
    rcases relative_cases request with h | h
    · exact ⟨['/', '/'], h.symm⟩
    · exact ⟨[], h⟩
  have hdrop : dropScheme request <:+ request := by
    unfold dropScheme
    cases hcut : cutSchemeMark? request with
    | none => exact hrelative
    | some sr =>
      dsimp only
      split
      · exact ⟨sr.1 ++ [':', '/', '/'], by rw [eq_of_cutSchemeMark? hcut]; simp⟩
      · exact hrelative
  exact (List.takeWhile_prefix _).isInfix.trans hdrop.isInfix

end Host

/-! ### Where a name lies in a request -/

theorem Host.strayFree_of_isScheme {s : Text} (h : Host.isScheme s = true) : StrayFree s := by
  intro c hc
  have hchar := Host.isScheme_chars h c hc
  apply isStray_of_ascii
  simp only [Bool.or_eq_true, beq_iff_eq] at hchar
  rcases hchar with ((hc | rfl) | rfl) | rfl
  · exact ascii_of_isAlnum hc
  all_goals decide

/-- In a request with a scheme, a pattern that takes a scheme and something of the authority takes just that scheme. -/
theorem PatternPart.IsSchemeMark.eq_of_append_eq {scheme behind mark taken rest : Text}
    (hmark : PatternPart.IsSchemeMark true mark) (hscheme : Host.isScheme scheme = true)
    (hfree : ∀ c ∈ taken, Host.endsAuthority c = false) (hne : taken ≠ [])
    (h : scheme ++ ':' :: '/' :: '/' :: behind = mark ++ (taken ++ rest)) :
    mark = scheme ++ [':', '/', '/'] ∧ taken ++ rest = behind := by
  obtain ⟨n, slashes, rfl, hn, hslashes⟩ := hmark.exists_name
  have hcolon : ':' ∉ n := by
    intro hc
    cases hn ':' hc
  -- both schemes end at the first colon
  have hcut : cutFirst? ':' (scheme ++ ':' :: '/' :: '/' :: behind) = some (n, slashes ++ (taken ++ rest)) := by
    rw [cutFirst?_eq_some, h]
    exact ⟨by simp, hcolon⟩
  rw [cutFirst?_eq_some.2 ⟨rfl, Host.colon_not_mem_of_isScheme hscheme⟩] at hcut
  obtain ⟨rfl, hbehind⟩ := Prod.mk.inj (Option.some.inj hcut)
  rcases hslashes with rfl | rfl
  · cases taken with
    | nil => exact absurd rfl hne
    | cons c taken =>
      obtain ⟨rfl, -⟩ := List.cons.inj hbehind
      cases hfree '/' (by simp)
  · exact ⟨rfl, by simpa using hbehind.symm⟩

namespace HostPlace

variable {host request : Text} (x : HostPlace host request) (hhost : Host.IsPlain host)

include hhost

theorem name_ne_nil : x.name ≠ [] := by
  intro h
  have hname := x.isName
  rw [h, List.forall₂_nil_right_iff] at hname
  exact hhost.nonempty hname

theorem endsAuthority : ∀ c ∈ x.labels ++ x.name, Host.endsAuthority c = false :=
  endsAuthority_labels_name hhost x.isName x.isLabels

/-- In a request with a scheme, what the pattern takes lies in the scheme, or consists of the scheme and a part of the
authority. -/
private theorem strayFree_of_isScheme {scheme behind : Text} (hscheme : Host.isScheme scheme = true)
    (hrequest : request = scheme ++ ':' :: '/' :: '/' :: behind)
    (hs : StrayFree (before Host.endsAuthority behind)) : StrayFree (x.mark ++ x.name) := by
  have hfree := x.endsAuthority hhost
  have hsplit := hrequest.symm.trans x.split
  rcases x.isMark with hmark | hmark
  · rw [hmark, List.nil_append, ← List.singleton_append, ← List.append_assoc] at hsplit
    obtain ⟨y, hy, -⟩ := exists_of_append_eq hsplit.symm hfree (by simp; decide)
    have hfront : StrayFree (scheme ++ [':']) :=
      strayFree_append.2 ⟨Host.strayFree_of_isScheme hscheme, by decide⟩
    rw [hy, strayFree_append, strayFree_append] at hfront
    rw [hmark, List.nil_append]
    exact hfront.1.2
  · have hne : x.labels ++ x.name ≠ [] := by simp [x.name_ne_nil hhost]
    obtain ⟨hmark, hbehind⟩ := hmark.eq_of_append_eq hscheme hfree hne hsplit
    have hfront : StrayFree x.mark := by
      rw [hmark]
      exact strayFree_append.2 ⟨Host.strayFree_of_isScheme hscheme, by decide⟩
    rw [← hbehind, before_append hfree, strayFree_append, strayFree_append] at hs
    exact strayFree_append.2 ⟨hfront, hs.1.2⟩

/-- In a request without a scheme, what the pattern takes lies in the authority. -/
private theorem strayFree_of_not_isScheme
    (hnone : ∀ scheme rest, request = scheme ++ ':' :: '/' :: '/' :: rest → Host.isScheme scheme = false)
    (hauthority : request.head? ≠ some '/' → Host.authority request = before Host.endsAuthority request)
    (hs : StrayFree (Host.authority request)) : StrayFree (x.mark ++ x.name) := by
  have hfree := x.endsAuthority hhost
  have hne : x.labels ++ x.name ≠ [] := by simp [x.name_ne_nil hhost]
  have hstart (a t : Text) (ha : ∀ c ∈ a, Host.endsAuthority c = false) (hne : a ≠ []) (h : request = a ++ t) :
      StrayFree a := by
    obtain ⟨d, a, rfl⟩ := List.exists_cons_of_ne_nil hne
    have hhead : request.head? ≠ some '/' := by
      rw [h, List.cons_append, List.head?_cons, ne_eq, Option.some.injEq]
      rintro rfl
      cases ha '/' (by simp)
    rw [hauthority hhead, h, before_append ha, strayFree_append] at hs
    exact hs.1
  rcases x.isMark with hmark | hmark
  · have hs := hstart _ x.rest hfree hne (x.split.trans (by rw [hmark, List.nil_append]))
    rw [hmark]
    exact (strayFree_append.1 hs).2
  · obtain ⟨n, slashes, heq, hn, hslashes⟩ := hmark.exists_name
    have hfront : ∀ c ∈ n ++ [':'], Host.endsAuthority c = false := by
      rw [List.forall_mem_append, List.forall_mem_singleton]
      exact ⟨fun c hc => (Bool.or_eq_false_iff.1 (hn c hc)).2, rfl⟩
    rcases hslashes with rfl | rfl
    · -- all that the pattern takes stands before the end of the authority
      rw [heq]
      have hs := hstart _ x.rest (List.forall_mem_append.2 ⟨hfront, hfree⟩) (by simp) (x.split.trans (by simp [heq]))
      obtain ⟨hmark, htaken⟩ := strayFree_append.1 hs
      exact strayFree_append.2 ⟨hmark, (strayFree_append.1 htaken).2⟩
    · -- the mark would be a scheme
      have hs := hstart _ ('/' :: '/' :: (x.labels ++ x.name ++ x.rest)) hfront (by simp) (x.split.trans (by simp [heq]))
      have hmarkFree : StrayFree x.mark := by
        rw [heq, ← List.singleton_append, ← List.append_assoc]
        exact strayFree_append.2 ⟨hs, by decide⟩
      obtain ⟨scheme, slashes, hscheme, his, hslashes⟩ := PatternPart.isSchemeMark_of_isSchemeMark hmark hmarkFree
      have hlast := congrArg List.getLast? (heq.symm.trans hscheme)
      rcases hslashes with rfl | rfl
      · simp at hlast
      · rw [hnone scheme (x.labels ++ x.name ++ x.rest) (x.split.trans (by simp [hscheme]))] at his
        cases his

/-- What a `||host^` pattern takes has no strays if the authority has none. -/
theorem strayFree (hs : StrayFree (Host.authority request)) : StrayFree (x.mark ++ x.name) := by
  rcases Host.authority_cases request with ⟨scheme, behind, hrequest, hscheme, hauthority⟩ | ⟨hnone, hauthority⟩
  · rw [hauthority] at hs
    exact x.strayFree_of_isScheme hhost hscheme hrequest hs
  · exact x.strayFree_of_not_isScheme hhost hnone hauthority hs

end HostPlace

/-- Where a `||host^` pattern matches a request whose authority has no strays, the host is among the keys of the
request. -/
theorem HostPlace.lower_mem_keys_of_authority {host request : Text} (x : HostPlace host request)
    (hhost : Host.IsPlain host) (hs : StrayFree (Host.authority request)) : lower host ∈ Host.keys request :=
  x.lower_mem_keys hhost (x.strayFree hhost hs)

end TrackerAudit
