import TrackerAudit.Proofs.Host.Case
import TrackerAudit.Proofs.Matching.Folding

/-!
# Requests in any case

A request in small letters has the same host keys, lies on the same pages, and folds to the same characters. So a rule
whose pattern ignores case is found for both or for none (`Rule.isFound_lowered`), and a set of such rules decides both
alike, by the same rule (`RuleSet.decision_lowered`).
-/

namespace TrackerAudit

open Text Unicode

theorem Unicode.fold_toLower (c : Char) : fold c.toLower = fold c := by
  rcases Nat.lt_or_ge c.toNat 128 with hc | hc
  · have hlower : c.toLower.toNat < 128 := forall_ascii (p := fun c => c.toLower.toNat < 128) (by decide) hc
    rw [fold_of_ascii hc, fold_of_ascii hlower, toLower_toLower]
  · rw [toLower_of_not_ascii hc]

theorem Unicode.foldAlike_lower (s : Text) : FoldAlike (lower s) s := by
  rw [FoldAlike, lower, List.map_map]
  exact List.map_congr_left fun c _ => fold_toLower c

/-- The request with its string and its page in small letters. -/
def Request.lowered (q : Request) : Request := { q with url := lower q.url, page := q.page.map lower }

theorem DomainConstraint.allows_lower (c : DomainConstraint) (page : Text) : c.allows (lower page) = c.allows page := by
  have hwithin : Host.within (lower page) = Host.within page := funext (Host.within_lower page)
  rw [allows, allows, hwithin]

namespace Rule

variable {r : Rule}

/-- The pattern is no regular expression and does not ask for the case of letters: it is built from parts, and ignores
case. -/
def IgnoresCase (r : Rule) : Prop := ∃ parts, Pattern.ofParts parts false = .ok r.pattern

/-- A rule that was read ignores case unless it is a regular expression or has the option `match-case`. -/
theorem ignoresCase_of_flags (hr : r.FromText) (hraw : r.flags.rawRegex = false) (hcase : r.flags.matchCase = false) :
    r.IgnoresCase := by
  obtain ⟨p, -, hparts⟩ := Rule.exists_parts hr hraw
  rw [hcase] at hparts
  exact ⟨p.parts, hparts⟩

theorem applies_lowered (r : Rule) (q : Request) : r.applies q.lowered = r.applies q := by
  have hpage (c : DomainConstraint) : (q.page.map lower).all c.allows = q.page.all c.allows := by
    cases q.page with
    | none => rfl
    | some page => exact c.allows_lower page
  unfold applies Request.lowered
  simp only [hpage]

theorem isMatch_lowered (h : r.IgnoresCase) (q : Request) : r.isMatch q.lowered = r.isMatch q := by
  obtain ⟨parts, hparts⟩ := h
  have hpattern : r.pattern.isMatch (lower q.url) = r.pattern.isMatch q.url :=
    Pattern.isMatch_eq_of_foldAlike hparts (foldAlike_lower q.url)
  rw [isMatch, isMatch, applies_lowered]
  exact congrArg (r.applies q && ·) hpattern

theorem isFound_lowered (h : r.IgnoresCase) (q : Request) : r.isFound q.lowered = r.isFound q := by
  have hkeys : Host.keys q.lowered.url = Host.keys q.url := Host.keys_lower q.url
  rw [isFound, isFound, isMatch_lowered h, hkeys]

end Rule

namespace RuleSet

variable {s : RuleSet}

theorem first?_lowered (h : ∀ r ∈ s.rules, r.IgnoresCase) (isException : Bool) (q : Request) :
    s.first? isException q.lowered = s.first? isException q := by
  rw [first?_eq_find?, first?_eq_find?]
  refine List.find?_congr fun r hr => ?_
  rw [Rule.isFound_lowered (h r (Array.mem_toList_iff.1 hr))]

theorem decision_lowered (h : ∀ r ∈ s.rules, r.IgnoresCase) (q : Request) : s.decision q.lowered = s.decision q := by
  rw [decision, decision, block?, block?, exception?, exception?, first?_lowered h, first?_lowered h]

end RuleSet

/-- The rules of a list without regular expressions and without the option `match-case` ignore case. -/
theorem CompiledList.ignoresCase {text : Text} {source : SourceList}
    (h : ∀ r ∈ (FilterList.read text source).rules, r.flags.rawRegex = false ∧ r.flags.matchCase = false) :
    ∀ r ∈ (CompiledList.read text source).rules.rules, r.IgnoresCase := by
  intro r hr
  obtain ⟨hraw, hcase⟩ := h r (mem_of_mem_rules hr)
  exact Rule.ignoresCase_of_flags (fromText hr) hraw hcase

end TrackerAudit
