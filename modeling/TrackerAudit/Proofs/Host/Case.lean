import TrackerAudit.Proofs.Host.Keys
import TrackerAudit.Proofs.Text.Lower

/-!
# Hosts in any case

Nothing that is read off a host or a request string depends on the case of its ASCII letters: the host of a request is
found at the same place (`requestHost?_lower`), belongs to the same site (`registrable_lower`), lies within the same
domains (`within_lower`), and a request has the same keys (`keys_lower`).
-/

namespace TrackerAudit.Host

open Text

variable (s host : Text)

/-! ### The host of a request -/

theorem isScheme_lower : isScheme (lower s) = isScheme s := by
  cases s with
  | nil => rfl
  | cons c s =>
    have hchars : CaseBlind fun d => isAlnum d || d == '+' || d == '-' || d == '.' := caseBlind_of_ascii (by decide)
    rw [lower_cons, isScheme, isScheme, isAlpha_toLower, lower, List.all_map, hchars.comp]

theorem cutSchemeMark?_lower : cutSchemeMark? (lower s) = (cutSchemeMark? s).map (Prod.map lower lower) := by
  induction s with
  | nil => rfl
  | cons c s ih =>
    have hmark : cutStart? "://".toList (lower (c :: s)) = (cutStart? "://".toList (c :: s)).map lower :=
      cutStart?_lower (by simp) (c :: s)
    rw [lower_cons] at hmark ⊢
    rw [cutSchemeMark?, cutSchemeMark?, hmark, ih]
    cases cutStart? "://".toList (c :: s) with
    | some rest => rfl
    | none =>
      simp only [Option.map_none, Option.map_map]
      rfl

theorem cutSlashes_lower : cutStart? "//".toList (lower s) = (cutStart? "//".toList s).map lower :=
  cutStart?_lower (by simp) s

theorem dropScheme_lower : dropScheme (lower s) = lower (dropScheme s) := by
  have hrelative : (cutStart? "//".toList (lower s)).getD (lower s) = lower ((cutStart? "//".toList s).getD s) := by
    rw [cutSlashes_lower]
    cases cutStart? "//".toList s <;> rfl
  unfold dropScheme
  simp only [hrelative, cutSchemeMark?_lower]
  cases cutSchemeMark? s with
  | none => rfl
  | some lr =>
    simp only [Option.map_some, Prod.map, isScheme_lower]
    split <;> rfl

theorem authority_lower : authority (lower s) = lower (authority s) := by
  have hend : CaseBlind endsAuthority := caseBlind_of_ascii (by decide)
  rw [authority, authority, dropScheme_lower, before_lower hend]

theorem looksLikeDomain_lower : looksLikeDomain (lower host) = looksLikeDomain host := by
  have hchars : CaseBlind fun c => isAlnum c || c == '.' || c == '-' := caseBlind_of_ascii (by decide)
  rw [looksLikeDomain, looksLikeDomain, contains_lower rfl, lower, List.all_map, hchars.comp]

theorem requestHost?_lower : requestHost? (lower s) = (requestHost? s).map lower := by
  have hauthority : authority (trim (lower s)) = lower (authority (trim s)) := by rw [trim_lower, authority_lower]
  have hwithoutUser : ((cutLast? '@' (lower (authority (trim s)))).map (·.2)).getD (lower (authority (trim s))) =
      lower (((cutLast? '@' (authority (trim s))).map (·.2)).getD (authority (trim s))) := by
    rw [cutLast?_lower rfl]
    cases cutLast? '@' (authority (trim s)) <;> rfl
  unfold requestHost?
  simp only [hauthority, hwithoutUser, before_lower (caseBlind_beq (d := ':') rfl), trimDots_lower, looksLikeDomain_lower]
  split <;> rfl

/-! ### Sites -/

theorem parents_lower : parents (lower host) = (parents host).map lower := by
  induction host with
  | nil => rfl
  | cons c host ih =>
    have hdot : (c.toLower == '.') = (c == '.') := caseBlind_beq rfl c
    rw [lower_cons, parents, parents, hdot, isEmpty_lower, ih]
    split <;> rfl

theorem suffixes_lower : suffixes (lower host) = (suffixes host).map lower := by
  unfold suffixes
  simp only [trimDots_lower, isEmpty_lower, parents_lower]
  split <;> rfl

theorem isPublicSuffix_lower : isPublicSuffix (lower host) = isPublicSuffix host := by
  have hlisted : (sameNoCase · (lower host)) = (sameNoCase · host) := by
    funext suffix
    rw [sameNoCase, sameNoCase, lower_lower]
  rw [isPublicSuffix, isPublicSuffix, isEmpty_lower, contains_lower rfl, hlisted]

theorem registrable_lower : registrable (lower host) = registrable host := by
  have hhost : lower (trimDots (lower host)) = lower (trimDots host) := by rw [trimDots_lower, lower_lower]
  rw [registrable, registrable, hhost]

theorem isThirdParty_lower (page : Text) : isThirdParty (lower page) (lower host) = isThirdParty page host := by
  rw [isThirdParty, isThirdParty, sameSite, sameSite, registrable_lower, registrable_lower]

theorem cutName?_lower (name : Text) : cutName? name (lower host) = (cutName? name host).map lower := by
  induction name generalizing host with
  | nil => rfl
  | cons c name ih =>
    cases host with
    | nil => rfl
    | cons d host =>
      rw [lower_cons, cutName?, cutName?, toLower_toLower, ih]
      split <;> rfl

theorem isEntity_lower (name : Text) : isEntity name (lower host) = isEntity name host := by
  unfold isEntity
  rw [cutName?_lower]
  cases cutName? name host with
  | none => rfl
  | some rest =>
    cases rest with
    | nil => rfl
    | cons c rest =>
      rw [Option.map_some, lower_cons]
      by_cases hc : c = '.'
      · subst hc
        exact isPublicSuffix_lower rest
      · have hlower : c.toLower ≠ '.' := fun h => hc ((toLower_eq_iff rfl).1 h)
        simp [hc, hlower]

theorem within_lower (domain : Text) : within (lower host) domain = within host domain := by
  unfold within
  rw [suffixes_lower]
  split
  · rename_i name _
    have hentity : isEntity name ∘ lower = isEntity name := funext fun t => isEntity_lower t name
    rw [List.any_map, hentity]
  · have hsame : (sameNoCase · domain) ∘ lower = (sameNoCase · domain) := funext fun t => sameNoCase_lower t domain
    rw [List.any_map, hsame]

/-! ### Keys -/

theorem anchored_lower : anchored (lower s) = (anchored s).map lower := by
  unfold anchored
  rw [cutSlashes_lower, cutFirst?_lower rfl, List.cons_append, List.cons_append, List.map_cons, List.map_append]
  congr 2
  · cases cutStart? "//".toList s <;> rfl
  · cases cutFirst? ':' s with
    | none => rfl
    | some lr =>
      simp only [Option.map_some, Prod.map, isScheme_lower, cutSlashes_lower]
      split
      · cases cutStart? "//".toList lr.2 <;> rfl
      · rfl

theorem authorityRuns_lower : authorityRuns (lower s) = authorityRuns s := by
  have hend : CaseBlind endsAuthority := caseBlind_of_ascii (by decide)
  have hseparator : CaseBlind isSeparator := caseBlind_of_ascii (by decide)
  have hlower : lower ∘ lower = lower := funext lower_lower
  rw [authorityRuns, authorityRuns, before_lower hend, splitOnP_lower hseparator, List.map_map, hlower]

theorem keys_lower : keys (lower s) = keys s := by
  have hruns : authorityRuns ∘ lower = authorityRuns := funext authorityRuns_lower
  rw [keys, keys, anchored_lower, List.flatMap_map]
  congr 2
  exact congrArg (List.flatMap · (anchored s)) hruns

end TrackerAudit.Host
