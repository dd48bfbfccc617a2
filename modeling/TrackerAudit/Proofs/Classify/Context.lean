import TrackerAudit.Proofs.Classify.Monotone
import TrackerAudit.Proofs.Pattern.Pieces

/-!
# What is not known about a request

What is not known satisfies every restriction of a rule, so a rule that matches a request still matches when the page, the
party or the type is forgotten (`Rule.isMatch_forget`). The index looks at the string of a request alone, so the rule is
still found (`Rule.isFound_forget`), and a rule set still finds some rule of the same kind
(`RuleSet.isSome_first?_forget`). Which rule that is may change; where there are exceptions, one of them may match only now.
Without exceptions, a request that is blocked stays blocked (`Catalogue.match_forget`).
-/

namespace TrackerAudit

/-- The request with some parts of its context forgotten. -/
def Request.forget (q : Request) (page party types : Bool) : Request where
  url := q.url
  page := if page then none else q.page
  thirdParty := if party then none else q.thirdParty
  types := if types then none else q.types

/-- What is true of a value, as far as it is known, is true of a value that has been forgotten. -/
theorem all_forgotten {α : Type} {p : α → Bool} {value : Option α} (h : value.all p = true) (forgotten : Bool) :
    (if forgotten then none else value).all p = true := by
  cases forgotten with
  | false => exact h
  | true => rfl

theorem admits_forgotten {n : Nat} {mask : BitVec n} {value : Option (BitVec n)} (h : admits mask value = true)
    (forgotten : Bool) : admits mask (if forgotten then none else value) = true := by
  unfold admits at h ⊢
  rw [Bool.or_eq_true] at h ⊢
  exact h.imp_right fun hvalue => all_forgotten hvalue forgotten

variable {q : Request} (page party types : Bool)

/-! ### One rule -/

namespace Rule

variable {r : Rule}

theorem applies_forget (h : r.applies q = true) : r.applies (q.forget page party types) = true := by
  unfold applies at h ⊢
  simp only [Bool.and_eq_true] at h ⊢
  obtain ⟨⟨htypes, hparty⟩, hpage⟩ := h
  have hparty' : admits r.party ((if party then none else q.thirdParty).map partyOf) = true := by
    have hforgotten := admits_forgotten hparty party
    rwa [← Option.map_none partyOf, ← apply_ite (Option.map partyOf)] at hforgotten
  refine ⟨⟨admits_forgotten htypes types, hparty'⟩, ?_⟩
  rw [Option.all_eq_true] at hpage ⊢
  intro c hc
  exact all_forgotten (hpage c hc) page

theorem isMatch_forget (h : r.isMatch q = true) : r.isMatch (q.forget page party types) = true := by
  unfold isMatch at h ⊢
  rw [Bool.and_eq_true] at h ⊢
  exact ⟨applies_forget page party types h.1, h.2⟩

theorem isFound_forget (h : r.isFound q = true) : r.isFound (q.forget page party types) = true := by
  unfold isFound at h ⊢
  rw [Bool.and_eq_true] at h ⊢
  exact ⟨isMatch_forget page party types h.1, h.2⟩

end Rule

/-! ### One list -/

namespace RuleSet

variable {s : RuleSet}

theorem isSome_first?_forget {isException : Bool} (h : (s.first? isException q).isSome = true) :
    (s.first? isException (q.forget page party types)).isSome = true := by
  rw [first?_eq_find?, List.find?_isSome] at h ⊢
  obtain ⟨r, hr, hfound⟩ := h
  refine ⟨r, hr, ?_⟩
  rw [Bool.and_eq_true] at hfound ⊢
  exact ⟨hfound.1, Rule.isFound_forget page party types hfound.2⟩

theorem exception?_of_exceptions_eq_zero (h : s.exceptions = 0) (q : Request) : s.exception? q = none := by
  rw [exceptions, List.countP_eq_zero] at h
  rw [exception?, first?_eq_find?, List.find?_eq_none]
  intro r hr hfound
  rw [Bool.and_eq_true, beq_iff_eq] at hfound
  exact h r hr hfound.1

/-- Without exceptions, a list blocks what it has a blocking rule for. -/
theorem blocked_of_exceptions_eq_zero (h : s.exceptions = 0) (q : Request) :
    (s.decision q).blocked = true ↔ (s.block? q).isSome = true := by
  rw [decision, decideBy_blocked, exception?_of_exceptions_eq_zero h]
  exact and_iff_left rfl

end RuleSet

/-! ### All lists -/

namespace Catalogue

variable {c : Catalogue}

/-- Without exceptions, a request is blocked under either scope if some list has a blocking rule for it. -/
theorem judge_blocked_of_exceptions_eq_zero (h : ∀ s ∈ c.sets, s.exceptions = 0) (scope : ExceptionScope) (q : Request) :
    (c.judge scope q).blocked = true ↔ ∃ s ∈ c.sets, (s.block? q).isSome = true := by
  cases scope with
  | perList =>
    rw [judge, judgePerList_blocked]
    refine exists_congr fun s => and_congr_right fun hs => ?_
    exact RuleSet.blocked_of_exceptions_eq_zero (h s hs) q
  | global =>
    rw [judge, judgeGlobal_blocked]
    refine and_iff_left ?_
    intro s hs
    rw [RuleSet.exception?_of_exceptions_eq_zero (h s hs)]
    rfl

/-- Whatever is forgotten of a request, a rule that matches it still does, and a catalogue without exceptions still blocks it
if it did so before. -/
theorem match_forget (q : Request) (page party types : Bool) :
    (∀ r : Rule, r.isMatch q = true → r.isMatch (q.forget page party types) = true) ∧
      ∀ c : Catalogue, (∀ s ∈ c.sets, s.exceptions = 0) → ∀ scope, (c.judge scope q).blocked = true →
        (c.judge scope (q.forget page party types)).blocked = true := by
  refine ⟨fun r => Rule.isMatch_forget page party types, ?_⟩
  intro c hc scope hblocked
  rw [judge_blocked_of_exceptions_eq_zero hc] at hblocked ⊢
  obtain ⟨s, hs, hblock⟩ := hblocked
  exact ⟨s, hs, RuleSet.isSome_first?_forget page party types hblock⟩

/-- A rule with a restriction of each kind. -/
private def adsRule (p : Pattern) : Rule where
  isException := false
  flags := {}
  text := "ads".toList
  pattern := p
  types := ResourceType.script.mask
  party := Party.third.mask
  domains := some { included := ["shop.io".toList], excluded := ["my.shop.io".toList] }
  source := .easyList
  line := 1

private def adsCatalogue (p : Pattern) : Catalogue :=
  ⟨.ofList .easyList [adsRule p], .ofList .easyPrivacy [], .ofList .fanboyAnnoyance []⟩

private def adsRequest : Request where
  url := "https://cdn.io/ads.js".toList
  page := some "www.shop.io".toList
  thirdParty := some true
  types := some (typeOfScript true)

/-- A script of another site, of which the page and the type are forgotten. -/
theorem match_forget_ads : ∃ p, Pattern.ofParts [.literal "ads".toList] false = .ok p ∧
    (adsRule p).isMatch adsRequest = true ∧ (adsRule p).isMatch (adsRequest.forget true false true) = true ∧
      (∀ s ∈ (adsCatalogue p).sets, s.exceptions = 0) ∧ ((adsCatalogue p).judge .global adsRequest).blocked = true ∧
        ((adsCatalogue p).judge .global (adsRequest.forget true false true)).blocked = true := by
  have hok : (Pattern.ofParts [.literal "ads".toList] false).toOption.isSome = true := by decide +kernel
  cases h : Pattern.ofParts [.literal "ads".toList] false with
  | error f =>
    rw [h] at hok
    cases hok
  | ok p =>
    have hpieces : p.isMatch adsRequest.url = true := by
      rw [Pattern.isMatch_iff_pieces h]
      refine ⟨"https://cdn.io/".toList, ["ads".toList], ".js".toList, rfl, ?_⟩
      have hself (c : Char) : CountsAs true c c := Or.inl rfl
      exact PatternPart.takePieces_cons.2 ⟨.cons (hself 'a') (.cons (hself 'd') (.cons (hself 's') .nil)),
        PatternPart.takePieces_nil.2 rfl⟩
    have happlies : (adsRule p).applies adsRequest = true := by
      unfold Rule.applies adsRule
      dsimp only
      decide +kernel
    have hmatch : (adsRule p).isMatch adsRequest = true := by
      rw [Rule.isMatch, Bool.and_eq_true]
      exact ⟨happlies, hpieces⟩
    have hexceptions : ∀ s ∈ (adsCatalogue p).sets, s.exceptions = 0 := by
      simp [adsCatalogue, sets, RuleSet.exceptions, RuleSet.ofList, adsRule]
    have hblocked : ((adsCatalogue p).judge .global adsRequest).blocked = true := by
      rw [judge_blocked_of_exceptions_eq_zero hexceptions, mem_sets]
      left
      rw [adsCatalogue, RuleSet.block?, RuleSet.first?_ofList, List.find?_isSome]
      refine ⟨adsRule p, List.mem_singleton_self _, ?_⟩
      simp only [Rule.isFound, hmatch]
      rfl
    obtain ⟨hrule, hcatalogue⟩ := match_forget adsRequest true false true
    exact ⟨p, rfl, hmatch, hrule _ hmatch, hexceptions, hblocked, hcatalogue _ hexceptions .global hblocked⟩

end Catalogue

end TrackerAudit
