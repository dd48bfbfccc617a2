import Mathlib.Algebra.GroupWithZero.Nat
import Mathlib.Algebra.Order.BigOperators.Group.List
import Mathlib.Algebra.Order.Group.Nat
import TrackerAudit.Proofs.Compliance.Sets
import TrackerAudit.Summary.Corpus

/-!
# How the numbers of a summary fit together

What is counted for a website is taken from its verdicts, so tracking resources are among the resources
(`WebsiteCounts.isConsistent_ofWebsite`), and the usage of cookies and the totals are taken from these counts
(`CookieUsage.isConsistent_ofCounts`, `sum_trackingResources`). The compliance sets are computed from the same verdicts in
another way: a website at risk is clean exactly if its counts have no tracking cookies and no beacons
(`PracticalResults.isClean_ofWebsites`). So a summary is consistent, and it agrees with the compliance sets
(`CorpusSummary.isConsistent_ofWebsites`).
-/

namespace TrackerAudit

/-! ### One website -/

namespace ClassifiedWebsite

variable (w : ClassifiedWebsite)

theorem trackingCookies_pos_iff : 0 < w.trackingCookies ↔ w.hasTrackingCookies = true := by
  rw [trackingCookies, hasTrackingCookies, List.countP_pos_iff, List.any_eq_true]

theorem trackingBeacons_pos_iff : 0 < w.trackingBeacons ↔ w.beacons.any (·.tracking) = true := by
  rw [trackingBeacons, List.countP_pos_iff, List.any_eq_true]

theorem hasTracking_iff : w.hasTracking = true ↔ 0 < w.trackingCookies + w.trackingBeacons := by
  rw [Nat.add_pos_iff_pos_or_pos, trackingCookies_pos_iff, trackingBeacons_pos_iff, hasTracking, Bool.or_eq_true]

end ClassifiedWebsite

/-- The counts of a website fit together. -/
structure WebsiteCounts.IsConsistent (c : WebsiteCounts) : Prop where
  trackingCookies_le : c.trackingCookies ≤ c.cookies
  trackingBeacons_le : c.trackingBeacons ≤ c.beacons
  hasTracking_iff : c.hasTracking = true ↔ 0 < c.trackingCookies + c.trackingBeacons

theorem WebsiteCounts.isConsistent_ofWebsite (w : ClassifiedWebsite) : (ofWebsite w).IsConsistent where
  trackingCookies_le := List.countP_le_length
  trackingBeacons_le := List.countP_le_length
  hasTracking_iff := w.hasTracking_iff

/-! ### All websites -/

/-- The numbers of websites by their usage of cookies fit together. -/
structure CookieUsage.IsConsistent (u : CookieUsage) : Prop where
  with_add_without : u.withCookies + u.withoutCookies = u.websites
  withTracking_le : u.withTrackingCookies ≤ u.withCookies
  withThirdParty_le : u.withThirdPartyCookies ≤ u.withCookies

section

variable {counts : List WebsiteCounts}

theorem CookieUsage.isConsistent_ofCounts (h : ∀ c ∈ counts, c.IsConsistent) : (ofCounts counts).IsConsistent where
  with_add_without := by
    have hsplit := List.length_eq_countP_add_countP WebsiteCounts.usesCookies (l := counts)
    simp only [Bool.not_eq_true, Bool.decide_eq_false] at hsplit
    exact hsplit.symm
  withTracking_le := by
    refine List.countP_mono_left fun c hc htracking => ?_
    -- a tracking cookie is a cookie
    have := (h c hc).trackingCookies_le
    simp only [WebsiteCounts.usesCookies, Bool.or_eq_true, decide_eq_true_eq] at htracking ⊢
    omega
  withThirdParty_le := by
    refine List.countP_mono_left fun c _ hthird => ?_
    rw [WebsiteCounts.usesCookies, Bool.or_eq_true]
    exact Or.inr hthird

theorem sum_trackingResources (counts : List WebsiteCounts) : (counts.map (·.trackingResources)).sum =
    (counts.map (·.trackingCookies)).sum + (counts.map (·.trackingBeacons)).sum :=
  List.sum_map_add

theorem sum_trackingBeacons_le (h : ∀ c ∈ counts, c.IsConsistent) :
    (counts.map (·.trackingBeacons)).sum ≤ (counts.map (·.beacons)).sum :=
  List.sum_le_sum fun c hc => (h c hc).trackingBeacons_le

theorem total_eq_sum {values : List Nat} (h : values.sum < Nat.pow 2 64) : total values = values.sum := by
  rw [total, ← List.sum_eq_foldl, Nat.mod_eq_of_lt h]

theorem CorpusSummary.total_entriesOf (n : Nat) (count : WebsiteCounts → Nat)
    (h : (counts.map count).sum < Nat.pow 2 64) :
    (CountSummary.ofEntries n (entriesOf counts count)).total = (counts.map count).sum := by
  have hvalues : (entriesOf counts count).map (·.count) = counts.map count := by
    rw [entriesOf, List.map_map]
    rfl
  rw [← total_eq_sum h, ← hvalues]
  rfl

/-- The total of tracking resources is that of tracking cookies and of tracking beacons, and at most that of tracking cookies
and of beacons. -/
theorem CorpusSummary.totals_of_isConsistent (n : Nat) (h : ∀ c ∈ counts, c.IsConsistent)
    (hresources : (counts.map (·.trackingResources)).sum < Nat.pow 2 64)
    (hbeacons : (counts.map (·.beacons)).sum < Nat.pow 2 64) :
    (CountSummary.ofEntries n (entriesOf counts (·.trackingResources))).total =
        (CountSummary.ofEntries n (entriesOf counts (·.trackingCookies))).total + (counts.map (·.trackingBeacons)).sum ∧
      (CountSummary.ofEntries n (entriesOf counts (·.trackingResources))).total ≤
        (CountSummary.ofEntries n (entriesOf counts (·.trackingCookies))).total +
          (CountSummary.ofEntries n (entriesOf counts (·.beacons))).total := by
  have hsum := sum_trackingResources counts
  have hle := sum_trackingBeacons_le h
  have hcookies : (counts.map (·.trackingCookies)).sum < Nat.pow 2 64 := Nat.lt_of_le_of_lt (by omega) hresources
  rw [total_entriesOf n _ hresources, total_entriesOf n _ hcookies, total_entriesOf n _ hbeacons]
  omega

end

/-! ### The compliance sets -/

namespace PracticalResults

variable {websites : List ClassifiedWebsite} {w : ClassifiedWebsite}

/-- The results of a website are clean exactly if no tracking cookies and no beacons are counted for it. -/
theorem isClean_ofWebsites (hnodup : (websites.map (·.website)).Nodup) (hw : w ∈ websites) :
    (ofWebsites websites).IsClean w.website ↔
      (WebsiteCounts.ofWebsite w).trackingCookies = 0 ∧ (WebsiteCounts.ofWebsite w).beacons = 0 := by
  have hcookies : (ofWebsites websites).cookies.get? w.website = some w.cookies := Keyed.get?_ofList_of_nodup hnodup hw
  have hbeacons : (ofWebsites websites).beacons.get? w.website = some w.beacons := Keyed.get?_ofList_of_nodup hnodup hw
  have hcount : (WebsiteCounts.ofWebsite w).trackingCookies = 0 ↔ ∀ c ∈ w.cookies, c.tracking = false := by
    simp [WebsiteCounts.ofWebsite, ClassifiedWebsite.trackingCookies, List.countP_eq_zero]
  rw [hcount, WebsiteCounts.ofWebsite, List.length_eq_zero_iff]
  constructor
  · rintro ⟨cookies, beacons, hc, hb, htracking, -, hnone⟩
    rw [hcookies] at hc
    rw [hbeacons] at hb
    cases hc
    cases hb
    exact ⟨htracking, hnone⟩
  · rintro ⟨htracking, hnone⟩
    exact ⟨_, _, hcookies, hbeacons, htracking, by simp [hnone], hnone⟩

theorem mem_of_covers {name : Text} (h : (ofWebsites websites).covers name = true) : ∃ w ∈ websites, w.website = name := by
  rw [covers, Bool.and_eq_true, ← Keyed.mem_keys_iff] at h
  have hname : name ∈ (Keyed.ofList (websites.map fun w => (w.website, w.cookies))).keys := h.1
  rw [Keyed.mem_keys_ofList, List.map_map] at hname
  exact List.mem_map.1 hname

end PracticalResults

/-- For every website at risk there is one entry, and the website is clean exactly if the entry has no tracking cookies and
no beacons. -/
def CorpusSummary.AgreesWith (s : CorpusSummary) (sets : ComplianceSets) : Prop :=
  ∀ name ∈ sets.a.members ∪ sets.b.members, ∃ entry ∈ s.perWebsite, entry.website = name ∧
    (∀ other ∈ s.perWebsite, other.website = name → other = entry) ∧
    (name ∈ sets.ao.members ∪ sets.bo.members ↔ entry.trackingCookies = 0 ∧ entry.beacons = 0)

theorem CorpusSummary.agreesWith_ofWebsites (n : Nat) {websites : List ClassifiedWebsite}
    (hnodup : (websites.map (·.website)).Nodup) (legal : LegalAnalysis) : (ofWebsites n websites).AgreesWith
      (ComplianceOutcome.of legal (PracticalResults.ofWebsites websites)).sets := by
  have hsets := ComplianceOutcome.isComparison_of legal (PracticalResults.ofWebsites websites)
  intro name hname
  have hclean : name ∈ (ComplianceOutcome.of legal (.ofWebsites websites)).sets.ao.members ∪
      (ComplianceOutcome.of legal (.ofWebsites websites)).sets.bo.members ↔
        (PracticalResults.ofWebsites websites).IsClean name := by
    simp only [Finset.mem_union, TextSet.mem_members, hsets.mem_ao, hsets.mem_bo] at hname ⊢
    rw [← or_and_right, and_iff_right hname]
  have hcovers : (PracticalResults.ofWebsites websites).covers name = true := by
    simp only [Finset.mem_union, TextSet.mem_members, hsets.mem_a, hsets.mem_b] at hname
    rw [PracticalResults.covers, Bool.and_eq_true]
    rcases hname with ⟨_, -, -, h⟩ | ⟨_, -, -, h⟩
    · exact h
    · exact h
  obtain ⟨w, hw, rfl⟩ := PracticalResults.mem_of_covers hcovers
  refine ⟨_, List.mem_map_of_mem hw, rfl, fun other hother heq => ?_,
    hclean.trans (PracticalResults.isClean_ofWebsites hnodup hw)⟩
  obtain ⟨w', hw', rfl⟩ := List.mem_map.1 hother
  rw [List.inj_on_of_nodup_map hnodup hw' hw heq]

/-! ### The summary -/

/-- The numbers of a summary fit together, and there is an entry for each of the websites. The totals do so where they can
be written in words of 64 bits. -/
structure CorpusSummary.IsConsistent (s : CorpusSummary) (names : List Text) : Prop where
  names_perWebsite : s.perWebsite.map (·.website) = names
  websites_eq : s.websites = names.length ∧ s.usage.websites = s.websites
  usage : s.usage.IsConsistent
  perWebsite : ∀ entry ∈ s.perWebsite, entry.IsConsistent
  totals : (s.perWebsite.map (·.trackingResources)).sum < Nat.pow 2 64 → (s.perWebsite.map (·.beacons)).sum < Nat.pow 2 64 →
    s.trackingResources.total = s.trackingCookies.total + (s.perWebsite.map (·.trackingBeacons)).sum ∧
      s.trackingResources.total ≤ s.trackingCookies.total + s.beacons.total

/-- A summary is consistent. If no two of the websites have the same name, it agrees with the compliance sets for the same
results and any legal analysis. -/
theorem CorpusSummary.isConsistent_ofWebsites (n : Nat) (websites : List ClassifiedWebsite) :
    (ofWebsites n websites).IsConsistent (websites.map (·.website)) ∧
      ((websites.map (·.website)).Nodup → ∀ legal : LegalAnalysis, (ofWebsites n websites).AgreesWith
        (ComplianceOutcome.of legal (PracticalResults.ofWebsites websites)).sets) := by
  refine ⟨?_, fun hnodup legal => agreesWith_ofWebsites n hnodup legal⟩
  have hcounts : ∀ c ∈ websites.map WebsiteCounts.ofWebsite, c.IsConsistent := by
    rintro _ hc
    obtain ⟨w, -, rfl⟩ := List.mem_map.1 hc
    exact WebsiteCounts.isConsistent_ofWebsite w
  exact {
    names_perWebsite := List.map_map
    websites_eq := ⟨by simp [ofWebsites], rfl⟩
    usage := CookieUsage.isConsistent_ofCounts hcounts
    perWebsite := hcounts
    totals := totals_of_isConsistent n hcounts }

/-! Two websites at risk, one of them with a tracking cookie. -/

private def cleanAndTracking : List ClassifiedWebsite := [
  { website := "news.io".toList, cookies := [], beacons := [], cookieHosts := {}, beaconHosts := {} },
  { website := "shop.io".toList, cookies := [⟨⟨"id".toList, "ads.io".toList, -1, none, []⟩, true⟩], beacons := [],
    cookieHosts := {}, beaconHosts := {} }]

private def bothAtRisk : LegalAnalysis :=
  .ofList [("news.io".toList, ⟨.absent, false, false⟩), ("shop.io".toList, ⟨.absent, false, false⟩)]

theorem CorpusSummary.isConsistent_ofWebsites_shop :
    (cleanAndTracking.map (·.website)).Nodup ∧
      ((ofWebsites 1 cleanAndTracking).perWebsite.map (·.trackingResources)).sum < Nat.pow 2 64 ∧
      ((ofWebsites 1 cleanAndTracking).perWebsite.map (·.beacons)).sum < Nat.pow 2 64 ∧
      (ofWebsites 1 cleanAndTracking).trackingResources.total ≤
        (ofWebsites 1 cleanAndTracking).trackingCookies.total + (ofWebsites 1 cleanAndTracking).beacons.total ∧
      ∃ entry ∈ (ofWebsites 1 cleanAndTracking).perWebsite, entry.website = "shop.io".toList ∧
        ("shop.io".toList ∈ (ComplianceOutcome.of bothAtRisk (.ofWebsites cleanAndTracking)).sets.ao.members ∪
            (ComplianceOutcome.of bothAtRisk (.ofWebsites cleanAndTracking)).sets.bo.members ↔
          entry.trackingCookies = 0 ∧ entry.beacons = 0) := by
  have hnodup : (cleanAndTracking.map (·.website)).Nodup := by decide
  have hresources : ((ofWebsites 1 cleanAndTracking).perWebsite.map (·.trackingResources)).sum < Nat.pow 2 64 := by decide
  have hbeacons : ((ofWebsites 1 cleanAndTracking).perWebsite.map (·.beacons)).sum < Nat.pow 2 64 := by decide
  have hrisk : "shop.io".toList ∈ (ComplianceOutcome.of bothAtRisk (.ofWebsites cleanAndTracking)).sets.a.members ∪
      (ComplianceOutcome.of bothAtRisk (.ofWebsites cleanAndTracking)).sets.b.members := by decide +kernel
  obtain ⟨hconsistent, hagrees⟩ := isConsistent_ofWebsites 1 cleanAndTracking
  obtain ⟨entry, hentry, hname, -, hclean⟩ := hagrees hnodup bothAtRisk _ hrisk
  exact ⟨hnodup, hresources, hbeacons, (hconsistent.totals hresources hbeacons).2, entry, hentry, hname, hclean⟩

end TrackerAudit
