import TrackerAudit.Proofs.Rule.Reading
import TrackerAudit.Proofs.Text.Order
import TrackerAudit.Rule.Reduce

/-!
# What the key of a rule says

Two rules have the same key exactly if they say the same: they differ at most in the `badfilter` mark, in the order of
their domains, and in where they stand (`Rule.key_eq_iff`). The pattern is not part of the key, but for rules that were
read it is given by the text, so that rules with the same key match the same requests (`Rule.isMatch_eq_of_key_eq`) and
are filed under the same host.
-/

namespace TrackerAudit

open Text

/-- Lists are the same in order exactly if they are the same up to order. -/
theorem sorted_eq_sorted_iff {a b : List Text} : sorted a = sorted b ↔ a.Perm b := sort_eq_sort_iff

/-! ### Rules that say the same -/

/-- The rules differ at most in the `badfilter` mark, the order of their domains, and where they stand. -/
structure Rule.SaysAs (r r' : Rule) : Prop where
  isException : r.isException = r'.isException
  text : r.text = r'.text
  flags : { r.flags with badfilter := false } = { r'.flags with badfilter := false }
  types : r.types = r'.types
  party : r.party = r'.party
  included : (r.domains.getD {}).included.Perm (r'.domains.getD {}).included
  excluded : (r.domains.getD {}).excluded.Perm (r'.domains.getD {}).excluded

namespace Rule

variable {r r' : Rule}

theorem key_eq_iff : r.key = r'.key ↔ r.SaysAs r' := by
  simp only [key, RuleKey.mk.injEq, sorted_eq_sorted_iff]
  constructor
  · rintro ⟨hexception, hflags, htypes, hparty, htext, hincluded, hexcluded⟩
    exact ⟨hexception, htext, hflags, htypes, hparty, hincluded, hexcluded⟩
  · rintro ⟨hexception, htext, hflags, htypes, hparty, hincluded, hexcluded⟩
    exact ⟨hexception, hflags, htypes, hparty, htext, hincluded, hexcluded⟩

instance : Decidable (r.SaysAs r') :=
  decidable_of_iff (r.isException = r'.isException ∧ r.text = r'.text ∧
      { r.flags with badfilter := false } = { r'.flags with badfilter := false } ∧ r.types = r'.types ∧ r.party = r'.party ∧
      (r.domains.getD {}).included.Perm (r'.domains.getD {}).included ∧
      (r.domains.getD {}).excluded.Perm (r'.domains.getD {}).excluded)
    ⟨fun ⟨h1, h2, h3, h4, h5, h6, h7⟩ => ⟨h1, h2, h3, h4, h5, h6, h7⟩,
      fun ⟨h1, h2, h3, h4, h5, h6, h7⟩ => ⟨h1, h2, h3, h4, h5, h6, h7⟩⟩

theorem SaysAs.rawRegex (h : r.SaysAs r') : r.flags.rawRegex = r'.flags.rawRegex := (RuleFlags.mk.inj h.flags).1

theorem SaysAs.matchCase (h : r.SaysAs r') : r.flags.matchCase = r'.flags.matchCase := (RuleFlags.mk.inj h.flags).2.1

theorem SaysAs.pattern (h : r.SaysAs r') (hr : r.FromText) (hr' : r'.FromText) : r.pattern = r'.pattern := by
  unfold FromText at hr hr'
  rw [h.text, h.rawRegex, h.matchCase, hr'] at hr
  exact (Option.some.inj hr).symm

theorem SaysAs.indexedHost? (h : r.SaysAs r') : r.indexedHost? = r'.indexedHost? := by
  simp only [Rule.indexedHost?, h.text, h.rawRegex, h.matchCase]

end Rule

/-- Whether a page satisfies a constraint does not depend on the order of its domains. -/
theorem DomainConstraint.allows_eq_of_perm {c d : DomainConstraint} (hin : c.included.Perm d.included)
    (hout : c.excluded.Perm d.excluded) : c.allows = d.allows := by
  funext page
  simp only [allows, hin.isEmpty_eq, hin.any_eq, hout.any_eq]

/-- A rule without a constraint applies on the pages that the empty constraint allows. -/
private theorem all_allows_eq (domains : Option DomainConstraint) (page : Option Text) :
    (domains.all fun c => page.all c.allows) = page.all (domains.getD {}).allows := by
  cases domains with
  | none => cases page <;> rfl
  | some c => rfl

namespace Rule

variable {r r' : Rule}

theorem SaysAs.applies (h : r.SaysAs r') (q : Request) : r.applies q = r'.applies q := by
  simp only [Rule.applies, all_allows_eq, h.types, h.party, DomainConstraint.allows_eq_of_perm h.included h.excluded]

/-- Rules with the same key match the same requests. -/
theorem isMatch_eq_of_key_eq (h : r.key = r'.key) (hr : r.FromText) (hr' : r'.FromText) (q : Request) :
    r.isMatch q = r'.isMatch q := by
  -- the pattern is no part of the key, but the text and the flags are
  have hsays := key_eq_iff.1 h
  rw [isMatch, isMatch, hsays.applies, hsays.pattern hr hr']

end Rule

end TrackerAudit
