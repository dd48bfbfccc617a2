import Mathlib.Data.List.DropRight
import TrackerAudit.Proofs.Host.Site

/-!
# The labels of a site

Of a host that is a row of labels, the site takes the last two, or the last three where the last two are a public suffix
of the table; a host that is a public suffix is kept as a whole (`siteLabels`). Labels that are put before a host that is
no public suffix change neither its site nor the party of a request (`registrable_append`).
-/

namespace TrackerAudit.Host

open Text

/-! ### Longer hosts -/

private theorem getLast?_append_dots {front dots : Text} (hfront : ∀ c ∈ front.getLast?, c = '.')
    (hdots : ∀ c ∈ dots, (c == '.') = true) : ∀ c ∈ (front ++ dots).getLast?, c = '.' := by
  intro c hc
  rcases List.eq_nil_or_concat' dots with rfl | ⟨dots, d, rfl⟩
  · exact hfront c (by simpa using hc)
  · obtain rfl : d = c := by simpa [← List.append_assoc] using hc
    exact beq_iff_eq.1 (hdots d (by simp))

/-- What is put before a host with a dot after it leaves the end of the host as it is. -/
theorem endsIn_trimDots_append {front host : Text} (hfront : ∀ c ∈ front.getLast?, c = '.') (hne : trimDots host ≠ []) :
    EndsIn (trimDots (front ++ host)) (trimDots host) := by
  obtain ⟨dots, dots', hhost, hdots, hdots'⟩ : ∃ dots dots', host = dots ++ (trimDots host ++ dots') ∧
      (∀ c ∈ dots, (c == '.') = true) ∧ ∀ c ∈ dots', (c == '.') = true := exists_eq_trimBy (· == '.') host
  have hhead : ∀ c ∈ (trimDots host).head?, (c == '.') = false := head?_trimBy _ host
  have hlast : ∀ c ∈ (trimDots host).getLast?, (c == '.') = false := getLast?_trimBy _ host
  have hsplit : front ++ host = front ++ dots ++ trimDots host ++ dots' := by
    conv_lhs => rw [hhost]
    simp only [List.append_assoc]
  have htrim : trimDots (front ++ host) = (front ++ dots).dropWhile (· == '.') ++ trimDots host := by
    rw [hsplit, trimDots, trimBy_append_right hdots', trimBy, dropWhile_append_of_head? hhead, dropEnd_append hlast hne]
  rw [htrim]
  rcases List.eq_nil_or_concat' ((front ++ dots).dropWhile (· == '.')) with hnil | ⟨front', c, hfront'⟩
  · rw [hnil]
    exact EndsIn.refl _
  · have hc : c ∈ (front ++ dots).getLast? := getLast?_dropWhile (p := (· == '.')) (by rw [hfront']; simp)
    obtain rfl := getLast?_append_dots hfront hdots c hc
    exact Or.inr ⟨front', by rw [hfront']; simp⟩

theorem registrable_append {front host : Text} (hfront : ∀ c ∈ front.getLast?, c = '.') (hne : trimDots host ≠ [])
    (hpublic : isPublicSuffix (trimDots host) = false) : registrable (front ++ host) = registrable host := by
  rw [← isPublicSuffix_lower, ← Bool.not_eq_true, isPublicSuffix_iff (lower_lower _)] at hpublic
  rcases registrable_cases host with ⟨hnil | hhost, -⟩ | ⟨-, hsite, hends⟩
  · exact absurd (List.map_eq_nil_iff.1 hnil) hne
  · exact absurd hhost hpublic
  · exact registrable_eq_of_endsIn hsite ((endsIn_trimDots_append hfront hne).lower.trans hends)

/-! ### Rows of labels -/

/-- The labels are a public suffix of the table, in any case. -/
def IsListed (labels : List Text) : Prop := lower (join ['.'] labels) ∈ twoLabelSuffixes

instance (labels : List Text) : Decidable (IsListed labels) := inferInstanceAs (Decidable (_ ∈ _))

/-- All labels of a public suffix, and otherwise the last two, or the last three where the last two are listed. -/
def siteLabels (labels : List Text) : List Text :=
  if labels.length = 1 ∨ IsListed labels then labels
  else if IsListed (labels.rtake 2) then labels.rtake 3 else labels.rtake 2

/-- The labels with dots between them, and more dots at both ends. -/
def dotted (before : Nat) (labels : List Text) (behind : Nat) : Text :=
  List.replicate before '.' ++ join ['.'] labels ++ List.replicate behind '.'

theorem endsIn_join_append {ls ms : List Text} (hms : ms ≠ []) : EndsIn (join ['.'] (ls ++ ms)) (join ['.'] ms) := by
  by_cases hls : ls = []
  · subst hls
    exact EndsIn.refl _
  · exact Or.inr ⟨join ['.'] ls, by rw [join_append hls hms]; simp⟩

section

variable {labels : List Text} (hne : labels ≠ []) (hlabels : ∀ l ∈ labels, l ≠ [] ∧ '.' ∉ l)

include hne hlabels

private theorem head?_join_labels : ∀ c ∈ (join ['.'] labels).head?, (c == '.') = false := by
  obtain ⟨l, ls, rfl⟩ := List.exists_cons_of_ne_nil hne
  obtain ⟨hl, hdot⟩ := hlabels l (by simp)
  intro c hc
  have hstart : (join ['.'] (l :: ls)).head? = l.head? := by
    cases ls with
    | nil => rfl
    | cons m ls => rw [join_cons_cons, List.append_assoc, List.head?_append_of_ne_nil l hl]
  rw [hstart] at hc
  exact beq_eq_false_of_mem hdot (List.mem_of_mem_head? hc)

private theorem getLast?_join_labels : ∀ c ∈ (join ['.'] labels).getLast?, (c == '.') = false := by
  obtain ⟨ls, l, rfl⟩ := (List.eq_nil_or_concat' labels).resolve_left hne
  obtain ⟨hl, hdot⟩ := hlabels l (by simp)
  intro c hc
  have hend : (join ['.'] (ls ++ [l])).getLast? = l.getLast? := by
    have hends : EndsIn (join ['.'] (ls ++ [l])) (join ['.'] [l]) := endsIn_join_append (List.cons_ne_nil l [])
    rcases hends with h | ⟨front, h⟩
    · rw [h]
      rfl
    · rw [h, List.append_cons]
      exact List.getLast?_append_of_ne_nil _ hl
  rw [hend] at hc
  exact beq_eq_false_of_mem hdot (List.mem_of_mem_getLast? hc)

theorem trimDots_dotted (m n : Nat) : trimDots (dotted m labels n) = join ['.'] labels := by
  have hdots (k : Nat) : ∀ c ∈ List.replicate k '.', (c == '.') = true :=
    fun c hc => beq_iff_eq.2 (List.eq_of_mem_replicate hc)
  rw [trimDots, dotted, trimBy_append_right (hdots n), trimBy_append_left (hdots m),
    trimBy_of_ends (head?_join_labels hne hlabels) (getLast?_join_labels hne hlabels)]

/-- A row of labels that is no public suffix ends in the labels of its site, and these make the name of a site. -/
private theorem isSite_siteLabels (hpublic : ¬(labels.length = 1 ∨ IsListed labels)) :
    IsSite (lower (join ['.'] (siteLabels labels))) ∧ ∃ ls, labels = ls ++ siteLabels labels := by
  rw [not_or] at hpublic
  obtain ⟨ls, b, rfl⟩ := (List.eq_nil_or_concat' labels).resolve_left hne
  obtain ⟨ls, a, rfl⟩ := (List.eq_nil_or_concat' ls).resolve_left (by rintro rfl; exact hpublic.1 rfl)
  have htwo : (ls ++ [a] ++ [b]).rtake 2 = [a, b] := by simp [List.rtake]
  have hdot {l : Text} (hl : '.' ∉ l) : '.' ∉ lower l := by rwa [mem_lower_iff rfl]
  rw [siteLabels, if_neg (not_or.2 hpublic), htwo]
  by_cases hlisted : IsListed [a, b]
  · rw [if_pos hlisted]
    obtain ⟨ls, c, rfl⟩ := (List.eq_nil_or_concat' ls).resolve_left (by rintro rfl; exact hpublic.2 hlisted)
    have hthree : (ls ++ [c] ++ [a] ++ [b]).rtake 3 = [c, a, b] := by simp [List.rtake]
    have hname : lower (join ['.'] [c, a, b]) = lower c ++ '.' :: lower (join ['.'] [a, b]) := by
      simp [join, lower]
    rw [hthree, hname]
    refine ⟨⟨⟨_, _, rfl, hdot (hlabels c (by simp)).2, Or.inr hlisted⟩, not_publicSuffix_append ?_⟩, ls, by simp⟩
    rw [mem_lower_iff rfl]
    simp [join]
  · rw [if_neg hlisted]
    have hname : lower (join ['.'] [a, b]) = lower a ++ '.' :: lower b := by simp [join, lower]
    obtain ⟨hb, hbdot⟩ := hlabels b (by simp)
    refine ⟨⟨⟨_, _, hname, hdot (hlabels a (by simp)).2, Or.inl ⟨by simpa [lower] using hb, hdot hbdot⟩⟩, ?_⟩, ls, by simp⟩
    rintro (⟨-, hnone⟩ | hmem)
    · rw [hname] at hnone
      simp at hnone
    · exact hlisted hmem

theorem registrable_dotted (m n : Nat) :
    registrable (dotted m labels n) = lower (join ['.'] (siteLabels labels)) := by
  have hhost : lower (trimDots (dotted m labels n)) = lower (join ['.'] labels) := by
    rw [trimDots_dotted hne hlabels]
  by_cases hpublic : labels.length = 1 ∨ IsListed labels
  · have hsuffix : PublicSuffix (lower (join ['.'] labels)) := by
      rcases hpublic with hone | hlisted
      · obtain ⟨l, rfl⟩ := List.length_eq_one_iff.1 hone
        obtain ⟨hl, hdot⟩ := hlabels l (by simp)
        exact Or.inl ⟨by simpa [join, lower] using hl, by rwa [mem_lower_iff rfl]⟩
      · exact Or.inr hlisted
    rw [siteLabels, if_pos hpublic, ← hhost]
    rcases registrable_cases (dotted m labels n) with ⟨-, h⟩ | ⟨hnot, -, -⟩
    · exact h
    · rw [hhost] at hnot
      exact absurd hsuffix hnot
  · obtain ⟨hsite, ls, hls⟩ := isSite_siteLabels hne hlabels hpublic
    refine registrable_eq_of_endsIn hsite ?_
    have hsome : siteLabels labels ≠ [] := by
      intro hnil
      rw [hnil] at hsite
      exact absurd hsite.dot_mem List.not_mem_nil
    have hends : EndsIn (join ['.'] (ls ++ siteLabels labels)) (join ['.'] (siteLabels labels)) :=
      endsIn_join_append hsome
    rw [← hls] at hends
    rw [hhost]
    exact hends.lower

/-- The site of a row of labels, with any dots around it, is the row itself if it is a public suffix, and otherwise the
public suffix at its end and one label more. So labels that are put before a host that is, outer dots apart, no public
suffix have no effect on whether a request leaves the site of its page, on either side. -/
theorem registrable_labels (m n : Nat) : registrable (dotted m labels n) = lower (join ['.'] (siteLabels labels)) ∧
    ∀ host front other : Text, trimDots host ≠ [] → isPublicSuffix (trimDots host) = false →
      (∀ c ∈ front.getLast?, c = '.') →
        isThirdParty (front ++ host) other = isThirdParty host other ∧
          isThirdParty other (front ++ host) = isThirdParty other host := by
  refine ⟨registrable_dotted hne hlabels m n, fun host front other hhost hpublic hfront => ?_⟩
  have hsite : registrable (front ++ host) = registrable host := registrable_append hfront hhost hpublic
  simp only [isThirdParty, sameSite, hsite, and_self]

end

/-- Four labels in mixed case, of which the last two are listed. -/
def shopLabels : List Text := ["www", "Shop", "CO", "uk"].map String.toList

theorem registrable_labels_shop : shopLabels ≠ [] ∧ (∀ l ∈ shopLabels, l ≠ [] ∧ '.' ∉ l) ∧
    registrable (dotted 2 shopLabels 1) = "shop.co.uk".toList ∧
      trimDots (dotted 2 shopLabels 1) ≠ [] ∧ isPublicSuffix (trimDots (dotted 2 shopLabels 1)) = false ∧
        isThirdParty "shop.co.uk".toList ("a.b.".toList ++ dotted 2 shopLabels 1) =
          isThirdParty "shop.co.uk".toList (dotted 2 shopLabels 1) := by
  have hne : shopLabels ≠ [] := by decide
  have hlabels : ∀ l ∈ shopLabels, l ≠ [] ∧ '.' ∉ l := by decide
  have hhost : trimDots (dotted 2 shopLabels 1) ≠ [] := by decide +kernel
  have hpublic : isPublicSuffix (trimDots (dotted 2 shopLabels 1)) = false := by decide +kernel
  obtain ⟨hsite, hparty⟩ := registrable_labels hne hlabels 2 1
  have hthree : lower (join ['.'] (siteLabels shopLabels)) = "shop.co.uk".toList := by decide +kernel
  exact ⟨hne, hlabels, hsite.trans hthree, hhost, hpublic,
    (hparty _ "a.b.".toList "shop.co.uk".toList hhost hpublic (by simp)).2⟩

end TrackerAudit.Host
