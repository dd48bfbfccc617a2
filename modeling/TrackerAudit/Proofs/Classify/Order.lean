import TrackerAudit.Proofs.Compliance.Monotone

/-!
# The order of the lines in a filter list

Which rules stand on the lines of a list does not depend on the order of the lines, and neither does it whether a rule
of one kind is found (`CompiledList.stricter_of_perm`), although another copy of a repeated rule may stay and another
rule may be the one that decides. So lists with the same lines block the same requests under both scopes of exceptions
(`Catalogue.blocked_judge_eq`), and give the same verdict on every cookie and beacon (`Classifier.classify_eq_of_perm`).
-/

namespace TrackerAudit

open Text

theorem onLines_of_perm {source : SourceList} {ls ls' : List Text} (h : ls.Perm ls') :
    OnLines source ls = OnLines source ls' := by
  funext r
  simp only [OnLines, h.mem_iff]

/-- Lists with the same lines are as strict as each other. -/
theorem CompiledList.stricter_of_perm {source : SourceList} {text text' : Text}
    (h : (Text.lines text).Perm (Text.lines text')) :
    (CompiledList.read text source).rules.Stricter (CompiledList.read text' source).rules := by
  have hon : OnLines source (Text.lines text) = OnLines source (Text.lines text') := onLines_of_perm h
  apply stricter_of_finds
  · intro q hfinds
    rwa [← hon]
  · intro q hfinds
    rwa [hon]

/-- Catalogues that are as strict as each other block the same requests. -/
theorem Catalogue.blocked_judge_eq {c c' : Catalogue} (h : c.Stricter c') (h' : c'.Stricter c) (scope : ExceptionScope)
    (q : Request) : (c.judge scope q).blocked = (c'.judge scope q).blocked := by
  rw [Bool.eq_iff_iff]
  constructor
  · exact h.judge
  · exact h'.judge

namespace Classifier

theorem anyBlocked_eq {c c' : Classifier} (h : c.catalogue.Stricter c'.catalogue) (h' : c'.catalogue.Stricter c.catalogue)
    (ho : c.options = c'.options) : c.anyBlocked = c'.anyBlocked := by
  funext requests
  unfold anyBlocked
  congr 1
  funext q
  rw [judge, judge, ho]
  exact Catalogue.blocked_judge_eq h h' _ q

theorem classify_eq {c c' : Classifier} (h : c.catalogue.Stricter c'.catalogue) (h' : c'.catalogue.Stricter c.catalogue)
    (ho : c.options = c'.options) (site : Evidence) : c.classify site = c'.classify site := by
  have hblocked : c.anyBlocked = c'.anyBlocked := anyBlocked_eq h h' ho
  have hcookie : c.isTrackingCookie site = c'.isTrackingCookie site := by
    funext cookie
    rw [isTrackingCookie, isTrackingCookie, hblocked, ho]
  have hbeacon : c.isTrackingBeacon site = c'.isTrackingBeacon site := by
    funext beacon
    rw [isTrackingBeacon, isTrackingBeacon, hblocked, ho]
  rw [classify, classify, hcookie, hbeacon]

/-- The verdicts on the cookies and beacons of a website do not depend on the order of the lines in the three lists,
whatever stands on the lines and however often. -/
theorem classify_eq_of_perm {texts texts' : SourceList → Text}
    (h : ∀ s, (Text.lines (texts s)).Perm (Text.lines (texts' s))) (options : ClassifierOptions) (site : Evidence) :
    (ofTexts texts options).classify site = (ofTexts texts' options).classify site := by
  have hto : (ofTexts texts options).catalogue.Stricter (ofTexts texts' options).catalogue :=
    ⟨CompiledList.stricter_of_perm (h .easyList), CompiledList.stricter_of_perm (h .easyPrivacy),
      CompiledList.stricter_of_perm (h .fanboyAnnoyance)⟩
  have hfrom : (ofTexts texts' options).catalogue.Stricter (ofTexts texts options).catalogue :=
    ⟨CompiledList.stricter_of_perm (h .easyList).symm, CompiledList.stricter_of_perm (h .easyPrivacy).symm,
      CompiledList.stricter_of_perm (h .fanboyAnnoyance).symm⟩
  exact classify_eq hto hfrom rfl site

/-- A repeated rule, a rule after the `badfilter` rule that names it, an exception and a faulty line, and the same lines
from the last to the first. -/
theorem classify_eq_of_reversed :
    (∀ s : SourceList, (Text.lines (if s = .easyPrivacy then "/ad\n/x$badfilter\n@@/ok\n/x\n||\n/ad".toList else [])).Perm
        (Text.lines (if s = .easyPrivacy then "/ad\n||\n/x\n@@/ok\n/x$badfilter\n/ad".toList else []))) ∧
      (ofTexts (fun s => if s = .easyPrivacy then "/ad\n/x$badfilter\n@@/ok\n/x\n||\n/ad".toList else [])
          { exceptionScope := .global }).classify
          { website := "shop.example".toList, beacons := [⟨[], "https://b.example/ad".toList⟩] } =
        (ofTexts (fun s => if s = .easyPrivacy then "/ad\n||\n/x\n@@/ok\n/x$badfilter\n/ad".toList else [])
          { exceptionScope := .global }).classify
          { website := "shop.example".toList, beacons := [⟨[], "https://b.example/ad".toList⟩] } := by
  have hlines : ∀ s : SourceList,
      (Text.lines (if s = .easyPrivacy then "/ad\n/x$badfilter\n@@/ok\n/x\n||\n/ad".toList else [])).Perm
        (Text.lines (if s = .easyPrivacy then "/ad\n||\n/x\n@@/ok\n/x$badfilter\n/ad".toList else [])) := by
    intro s
    cases s <;> decide +kernel
  exact ⟨hlines, classify_eq_of_perm hlines { exceptionScope := .global }
    { website := "shop.example".toList, beacons := [⟨[], "https://b.example/ad".toList⟩] }⟩

end Classifier

end TrackerAudit
