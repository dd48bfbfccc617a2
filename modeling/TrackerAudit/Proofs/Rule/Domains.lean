import TrackerAudit.Proofs.Rule.DomainEntry

/-!
# The pages on which a rule applies

The domains of a rule come from its `domain=` options and from the further domains right after them; all other options
leave them as they are (`OptionState.foldlM_keeps`). So a rule with one `domain=` option, after which no further domain
follows, is restricted to the pages that lie within the plain entries of the option, where there are any, and within none
of those after `~` (`Rule.domains_allow_iff`).
-/

namespace TrackerAudit

open Text

/-! ### Options that list domains -/

namespace RuleOption

/-- The option is a `domain=` option. -/
def isDomains : RuleOption → Bool
  | domains _ => true
  | _ => false

/-- Right after a `domain=` option, the option is one more domain. -/
def continues : RuleOption → Bool
  | other name _ => continuesDomains name
  | _ => false

/-- The options as they are read from the texts between the commas; blank ones are passed over. -/
def ofTexts (texts : List Text) : List RuleOption := (((texts.map trim).filter (!·.isEmpty)).map lower).map ofText

theorem ofTexts_append (a b : List Text) : ofTexts (a ++ b) = ofTexts a ++ ofTexts b := by
  simp only [ofTexts, List.map_append, List.filter_append]

theorem map_ofText_optionTexts (text : Text) : (optionTexts text).map ofText = ofTexts (text.splitOn ',') := by
  rw [optionTexts, map_trim_splitOn_trim (by decide), ofTexts]

/-- The option `domain=value`. -/
theorem ofTexts_domains (value : Text) :
    ofTexts ["domain=".toList ++ value] = [.domains (lower (dropEnd isBlank value))] := by
  have htrim : trim ("domain=".toList ++ value) = "domain=".toList ++ dropEnd isBlank value := by
    have hhead : isBlank 'd' = false := by decide
    have hlast : isBlank '=' = false := by decide
    exact trimBy_append_of_ends (by simp) (by simp [hhead]) (by simp [hlast])
  have hcut : cutStart? "domain=".toList (lower ("domain=".toList ++ dropEnd isBlank value)) =
      some (lower (dropEnd isBlank value)) := cutStart?_eq_some.2 lower_append
  rw [ofTexts, List.map_singleton, htrim, List.filter_cons_of_pos (by simp), List.filter_nil, List.map_singleton,
    List.map_singleton, ofText, hcut]

end RuleOption

namespace OptionState

variable {s : OptionState} {o : RuleOption} {os : List RuleOption}

/-- An option that names no domain leaves the domains as they are, and the option after it is none of them. -/
theorem next_keeps (ho : o.isDomains = false) (hc : s.inDomains = false ∨ o.continues = false) :
    ∃ s', s.next o = .ok s' ∧ s'.domains = s.domains ∧ s'.inDomains = false := by
  cases o with
  | domains value => cases ho
  | matchCase => exact ⟨_, rfl, rfl, rfl⟩
  | badfilter => exact ⟨_, rfl, rfl, rfl⟩
  | type t negated => cases negated <;> exact ⟨_, rfl, rfl, rfl⟩
  | party p negated => cases negated <;> exact ⟨_, rfl, rfl, rfl⟩
  | other name negated =>
    have hno : (s.inDomains && continuesDomains name) = false := by
      rw [Bool.and_eq_false_iff]
      exact hc
    rw [next, hno, if_neg Bool.false_ne_true]
    exact ⟨_, rfl, rfl, rfl⟩

theorem foldlM_keeps (hs : s.inDomains = false) (ho : ∀ o ∈ os, o.isDomains = false) :
    ∃ s', os.foldlM next s = .ok s' ∧ s'.domains = s.domains ∧ s'.inDomains = false := by
  induction os generalizing s with
  | nil => exact ⟨s, rfl, rfl, hs⟩
  | cons o os ih =>
    obtain ⟨s₁, hnext, hdomains, hin⟩ := next_keeps (ho o (by simp)) (Or.inl hs)
    obtain ⟨s₂, hrun, hdomains', hin'⟩ := ih hin fun o ho' => ho o (by simp [ho'])
    refine ⟨s₂, ?_, hdomains'.trans hdomains, hin'⟩
    rw [List.foldlM_cons, hnext]
    exact hrun

/-- Options that start with no further domain leave the domains as they are, also after a `domain=` option. -/
theorem foldlM_keeps_of_head (ho : ∀ o ∈ os, o.isDomains = false) (hhead : ∀ o ∈ os.head?, o.continues = false) :
    ∃ s', os.foldlM next s = .ok s' ∧ s'.domains = s.domains := by
  cases os with
  | nil => exact ⟨s, rfl, rfl⟩
  | cons o os =>
    obtain ⟨s₁, hnext, hdomains, hin⟩ := next_keeps (s := s) (ho o (by simp)) (Or.inr (hhead o rfl))
    have hrest : ∀ o ∈ os, o.isDomains = false := fun o ho' => ho o (by simp [ho'])
    obtain ⟨s₂, hrun, hdomains', -⟩ := foldlM_keeps hin hrest
    refine ⟨s₂, ?_, hdomains'.trans hdomains⟩
    rw [List.foldlM_cons, hnext]
    exact hrun

/-- The domains are those of the only `domain=` option, if no further domain follows it. -/
theorem foldlM_domains {value : Text} {c : DomainConstraint} {before after : List RuleOption}
    (hvalue : DomainConstraint.read value = .ok c) (hbefore : ∀ o ∈ before, o.isDomains = false)
    (hafter : ∀ o ∈ after, o.isDomains = false) (hhead : ∀ o ∈ after.head?, o.continues = false) :
    ∃ s, (before ++ .domains value :: after).foldlM next {} = .ok s ∧ s.domains = some c := by
  obtain ⟨s₁, hrun₁, hdomains₁, -⟩ := foldlM_keeps (s := {}) rfl hbefore
  have hnext : s₁.next (.domains value) = .ok { s₁ with domains := some c, inDomains := true } := by
    rw [next, addDomains, hvalue, hdomains₁]
    simp [bind, Except.bind, pure, Except.pure, DomainConstraint.append]
  obtain ⟨s₂, hrun₂, hdomains₂⟩ :=
    foldlM_keeps_of_head (s := { s₁ with domains := some c, inDomains := true }) hafter hhead
  refine ⟨s₂, ?_, hdomains₂⟩
  rw [List.foldlM_append, hrun₁]
  change (s₁.next (.domains value) >>= fun s => after.foldlM next s) = _
  rw [hnext]
  exact hrun₂

end OptionState

/-! ### Rules with options -/

theorem except_bind_eq_ok {ε α β : Type} {x : Except ε α} {f : α → Except ε β} {b : β} :
    x >>= f = .ok b ↔ ∃ a, x = .ok a ∧ f a = .ok b := by
  cases x <;> simp [bind, Except.bind]

/-- The options on a line, as they stand between the commas. -/
def lineOptions? (raw : Text) : Option (List Text) :=
  match hostsFileDomain? (cutException (trim raw)).2 with
  | some _ => none
  | none => (splitOptions (cutException (trim raw)).2).2.map (·.splitOn ',')

/-- The rule was read from a line with these options. -/
def Rule.Carries (r : Rule) (options : List Text) : Prop :=
  ∃ raw source number, Rule.read raw source number = .ok (some r) ∧ lineOptions? raw = some options

theorem RuleContext.exists_rule_of_ruleOf {c : RuleContext} {text : Text} {o : RuleOptions} {r : Rule}
    (h : c.ruleOf text o = .ok r) : ∃ flags pattern, c.rule text flags o pattern = .ok r := by
  unfold ruleOf at h
  split at h
  · exact ⟨_, _, h⟩
  · obtain ⟨p, -, h⟩ := except_bind_eq_ok.1 h
    exact ⟨_, _, h⟩

/-- A rule has the text of its pattern and the restrictions of its options. -/
theorem RuleContext.of_ruleOf {c : RuleContext} {text : Text} {o : RuleOptions} {r : Rule} (h : c.ruleOf text o = .ok r) :
    r.text = text ∧ r.types = o.types ∧ r.party = o.party ∧ r.domains = o.domains := by
  obtain ⟨flags, pattern, hrule⟩ := exists_rule_of_ruleOf h
  unfold rule at hrule
  split at hrule <;> cases hrule
  exact ⟨rfl, rfl, rfl, rfl⟩

theorem RuleContext.flags_of_ruleOf {c : RuleContext} {text : Text} {o : RuleOptions} {r : Rule}
    (h : c.ruleOf text o = .ok r) : r.flags.matchCase = o.matchCase ∧ r.flags.badfilter = o.badfilter := by
  obtain ⟨flags, pattern, hrule⟩ := exists_rule_of_ruleOf h
  unfold rule at hrule
  split at hrule <;> cases hrule
  exact ⟨rfl, rfl⟩

theorem RuleOptions.exists_state_of_read {text : Text} {o : RuleOptions} (h : RuleOptions.read text = .ok o) :
    ∃ s, (RuleOption.ofTexts (text.splitOn ',')).foldlM OptionState.next {} = .ok s ∧ o.matchCase = s.matchCase ∧
      o.badfilter = s.badfilter ∧ o.domains = s.domains := by
  obtain ⟨s, hs, h⟩ := except_bind_eq_ok.1 h
  obtain ⟨types, -, h⟩ := except_bind_eq_ok.1 h
  obtain ⟨party, -, h⟩ := except_bind_eq_ok.1 h
  rw [RuleOption.map_ofText_optionTexts] at hs
  cases h
  exact ⟨s, hs, rfl, rfl, rfl⟩

/-- A rule with options is that of a pattern text with what the options are read as. -/
theorem Rule.Carries.exists_options {r : Rule} {options : List Text} (h : r.Carries options) :
    ∃ (c : RuleContext) (text optionText : Text) (o : RuleOptions), optionText.splitOn ',' = options ∧
      RuleOptions.read optionText = .ok o ∧ c.ruleOf text o = .ok r := by
  obtain ⟨raw, source, number, hread, hoptions⟩ := h
  have hline := Rule.lineRule_of_read hread
  unfold lineOptions? at hoptions
  split at hoptions
  · cases hoptions
  · rename_i hhosts
    obtain ⟨optionText, htext, hsplit⟩ := Option.map_eq_some_iff.1 hoptions
    rw [RuleContext.lineRule, hhosts, RuleContext.patternRule_eq, htext] at hline
    obtain ⟨o, ho, hrule⟩ := except_bind_eq_ok.1 hline
    exact ⟨_, _, optionText, o, hsplit, ho, hrule⟩

/-- The domains of a rule are those that its options leave. -/
theorem Rule.Carries.exists_state {r : Rule} {options : List Text} (h : r.Carries options) :
    ∃ s, (RuleOption.ofTexts options).foldlM OptionState.next {} = .ok s ∧ r.domains = s.domains := by
  obtain ⟨c, text, optionText, o, rfl, ho, hrule⟩ := h.exists_options
  obtain ⟨s, hs, -, -, hdomains⟩ := RuleOptions.exists_state_of_read ho
  obtain ⟨-, -, -, hrest⟩ := RuleContext.of_ruleOf hrule
  exact ⟨s, hs, hrest.trans hdomains⟩

/-! ### The pages of a rule -/

namespace DomainEntry

/-- The option `domain=` with some entries. -/
def option (entries : List DomainEntry) : Text := "domain=".toList ++ join ['|'] (entries.map text)

theorem read_option {entries : List DomainEntry} (hne : entries ≠ []) :
    ∃ value, RuleOption.ofTexts [option entries] = [.domains value] ∧
      DomainConstraint.read value = .ok (constraint entries) := by
  refine ⟨_, RuleOption.ofTexts_domains _, ?_⟩
  rw [← DomainConstraint.read_trim, trim_lower, trim, trimBy_dropEnd, ← trim, ← trim_lower, DomainConstraint.read_trim,
    DomainConstraint.read_texts hne]

end DomainEntry

/-- A rule with one `domain=` option, which no further domain follows: the pages that satisfy its restriction are those
that lie within a plain entry of the option, where there are any, and within no entry after `~`. -/
theorem Rule.domains_allow_iff {r : Rule} {entries : List DomainEntry} {before after : List Text} (hne : entries ≠ [])
    (hr : r.Carries (before ++ DomainEntry.option entries :: after))
    (hother : ∀ o ∈ RuleOption.ofTexts (before ++ after), o.isDomains = false)
    (hnext : ∀ o ∈ (RuleOption.ofTexts after).head?, o.continues = false) {q : Request} {page : Text}
    (hpage : q.page = some page) : (r.domains.all fun c => q.page.all c.allows) = true ↔
      ((∀ e ∈ entries, e.negated = true) ∨ ∃ e ∈ entries, e.negated = false ∧ Host.LiesWithin page e.name) ∧
        ∀ e ∈ entries, e.negated = true → ¬Host.LiesWithin page e.name := by
  obtain ⟨value, hoption, hvalue⟩ := DomainEntry.read_option hne
  rw [RuleOption.ofTexts_append] at hother
  obtain ⟨s, hrun, hdomains⟩ := hr.exists_state
  rw [List.append_cons, RuleOption.ofTexts_append, RuleOption.ofTexts_append, hoption, List.append_assoc,
    List.singleton_append] at hrun
  obtain ⟨s', hrun', hdomains'⟩ := OptionState.foldlM_domains hvalue
    (fun o ho => hother o (List.mem_append_left _ ho)) (fun o ho => hother o (List.mem_append_right _ ho)) hnext
  obtain rfl : s = s' := by
    rw [hrun] at hrun'
    exact Except.ok.inj hrun'
  rw [hdomains, hdomains', hpage, Option.all_some, Option.all_some, DomainEntry.allows_constraint_iff]

/-- A domain, a domain after `~` and an entity, in any case. -/
def shopEntries : List DomainEntry :=
  [⟨false, "A.io".toList, "a.io".toList, by decide +kernel⟩, ⟨true, "b.a.io".toList, "b.a.io".toList, by decide +kernel⟩,
    ⟨false, "Shop.*".toList, "shop.*".toList, by decide +kernel⟩]

/-- A line with options before and after `domain=`. -/
def shopLine : Text := "||ok.io^$script,domain=A.io|~b.a.io|Shop.*,third-party".toList

/-- The rule on the line applies on a shop under a suffix of two labels, and not on the domain after `~`. -/
theorem Rule.domains_allow_iff_shop : ∃ r : Rule, Rule.read shopLine .easyList 1 = .ok (some r) ∧
    (r.domains.all fun c => (some "www.SHOP.co.uk.".toList).all c.allows) = true ∧
      (r.domains.all fun c => (some "x.b.a.io".toList).all c.allows) = false := by
  have hsome : (Rule.read shopLine .easyList 1).toOption.join.isSome = true := by decide +kernel
  obtain ⟨r, hread⟩ : ∃ r, Rule.read shopLine .easyList 1 = .ok (some r) := by
    cases hread : Rule.read shopLine .easyList 1 with
    | error f => simp [hread, Except.toOption] at hsome
    | ok o =>
      cases o with
      | none => simp [hread, Except.toOption] at hsome
      | some r => exact ⟨r, rfl⟩
  have hcarries : r.Carries (["script".toList] ++ DomainEntry.option shopEntries :: ["third-party".toList]) :=
    ⟨shopLine, .easyList, 1, hread, by decide +kernel⟩
  have hiff {q : Request} {page : Text} (hpage : q.page = some page) :=
    Rule.domains_allow_iff (by simp [shopEntries]) hcarries (by decide +kernel) (by decide +kernel) hpage
  refine ⟨r, hread, (hiff (q := { url := [], page := some "www.SHOP.co.uk.".toList }) rfl).2 ⟨Or.inr ?_, ?_⟩, ?_⟩
  · refine ⟨⟨false, "Shop.*".toList, "shop.*".toList, by decide +kernel⟩, by simp [shopEntries], rfl, ?_⟩
    have hends : Host.EndsIn (lower (trimDots "www.SHOP.co.uk.".toList)) ("shop".toList ++ '.' :: "co.uk".toList) :=
      Or.inr ⟨"www".toList, by decide +kernel⟩
    exact .entity (Or.inr (by decide +kernel)) hends
  · intro e he _
    rw [← e.within_iff, Bool.not_eq_true]
    revert e
    simp only [shopEntries, List.forall_mem_cons]
    decide +kernel
  · rw [← Bool.not_eq_true]
    intro hallowed
    have hout := ((hiff (q := { url := [], page := some "x.b.a.io".toList }) rfl).1 hallowed).2
    exact hout ⟨true, "b.a.io".toList, "b.a.io".toList, by decide +kernel⟩ (by simp [shopEntries]) rfl
      (.domain (by decide +kernel) (Or.inr ⟨"x".toList, by decide +kernel⟩))

end TrackerAudit
