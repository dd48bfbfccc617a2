import TrackerAudit.Proofs.Rule.Domains
import TrackerAudit.Proofs.Rule.Mask
import TrackerAudit.Proofs.Rule.OptionText

/-!
# Options that restrict types and parties

A type or a party is allowed by some options if one of them names it, or none names any value of its kind, and none names
it after `~`. What has been read of the options is what they name (`OptionState.Records`): one option adds its name and
changes nothing else (`OptionState.next_records`), so this holds after all of them (`OptionState.foldlM_records`). A line with
such options is refused exactly if no type or no party is allowed, and otherwise its rule applies to the requests of the
types and parties that are (`Rule.read_restrictions`).
-/

namespace TrackerAudit

open Text

/-! ### Names of options -/

/-- What an option restricts: the type of a request or its party. -/
inductive Subject
  | type (t : ResourceType)
  | party (p : Party)

namespace Subject

/-- The option that mentions the type or the party. -/
def option : Subject → Bool → RuleOption
  | type t, negated => .type t negated
  | party p, negated => .party p negated

/-- The type or the party has this name, in any case. -/
def IsNamed : Subject → Text → Prop
  | type t, name => ResourceType.ofOptionName? (lower name) = some t
  | party p, name => Party.ofOptionName? (lower name) = some p

instance : (s : Subject) → (name : Text) → Decidable (s.IsNamed name)
  | type t, name => inferInstanceAs (Decidable (ResourceType.ofOptionName? (lower name) = some t))
  | party p, name => inferInstanceAs (Decidable (Party.ofOptionName? (lower name) = some p))

end Subject

/-- A name, after `~` if it is negated. -/
def signed (negated : Bool) (name : Text) : Text := if negated then '~' :: name else name

/-- The name is read as the option, plainly and after `~`, and may stand in a list of options. -/
def IsOptionName (name : Text) (option : Bool → RuleOption) : Prop :=
  looksLikeOptions name = true ∧ ',' ∉ name ∧ ∀ negated, RuleOption.ofText (signed negated name) = option negated

instance (name : Text) (option : Bool → RuleOption) : Decidable (IsOptionName name option) :=
  inferInstanceAs (Decidable (_ ∧ _ ∧ _))

/-- What is found by its name in a table has what all entries of the table have. -/
private theorem of_findSome?_name {α : Type} {table : List (String × α)} {P : Text → α → Prop}
    (hall : ∀ e ∈ table, P e.1.toList e.2) {name : Text} {a : α}
    (h : (table.findSome? fun (n, a) => if n.toList = name then some a else none) = some a) : P name a := by
  obtain ⟨⟨n, b⟩, hmem, hfound⟩ := List.exists_of_findSome?_eq_some h
  obtain ⟨rfl, hb⟩ := Option.ite_none_right_eq_some.1 hfound
  cases hb
  exact hall _ hmem

theorem Subject.IsNamed.isOptionName {s : Subject} {name : Text} (h : s.IsNamed name) :
    IsOptionName (lower name) s.option := by
  cases s with
  | type t => exact of_findSome?_name (P := fun name t => IsOptionName name (.type t)) (by decide +kernel) h
  | party p => exact of_findSome?_name (P := fun name p => IsOptionName name (.party p)) (by decide +kernel) h

theorem looksLikeOptions_signed {name : Text} (h : looksLikeOptions name = true) (negated : Bool) :
    looksLikeOptions (signed negated name) = true := by
  cases negated with
  | false => exact h
  | true =>
    rw [looksLikeOptions, Bool.and_eq_true] at h ⊢
    exact ⟨rfl, h.2⟩

namespace IsOptionName

variable {written : Text} {option : Bool → RuleOption} (h : IsOptionName (lower written) option) (negated : Bool)

include h

theorem looksLikeOptions_signed : looksLikeOptions (signed negated written) = true := by
  refine TrackerAudit.looksLikeOptions_signed ?_ negated
  rw [← looksLikeOptions_lower]
  exact h.1

theorem comma_not_mem_signed : ',' ∉ signed negated written := by
  have hwritten : ',' ∉ written := fun hc => h.2.1 ((mem_lower_iff rfl).2 hc)
  unfold signed
  split
  · simpa using hwritten
  · exact hwritten

/-- The name is read in any case. -/
theorem ofTexts_signed : RuleOption.ofTexts [signed negated written] = [option negated] := by
  have hlooks := h.looksLikeOptions_signed negated
  have htrim : trim (signed negated written) = signed negated written := trim_of_forall (isBlank_of_looksLikeOptions hlooks)
  have hne : (signed negated written).isEmpty = false := by
    rw [List.isEmpty_eq_false_iff]
    intro hnil
    rw [hnil] at hlooks
    cases hlooks
  have hlower : lower (signed negated written) = signed negated (lower written) := by cases negated <;> rfl
  rw [RuleOption.ofTexts, List.map_singleton, htrim, List.filter_cons_of_pos (by simp [hne]), List.filter_nil,
    List.map_singleton, List.map_singleton, hlower, h.2.2]

end IsOptionName

/-! ### Options as they are written -/

/-- An option on the type or the party of requests. -/
structure Restriction where
  /-- the name stands after `~` -/
  negated : Bool
  /-- the name as it is written -/
  written : Text
  /-- what has the name -/
  subject : Subject
  named : subject.IsNamed written

namespace Restriction

/-- The option as it is written. -/
def text (r : Restriction) : Text := signed r.negated r.written

/-- The option as it is read. -/
def option (r : Restriction) : RuleOption := r.subject.option r.negated

/-- Options as they stand on a line, separated by commas. -/
def optionText (rs : List Restriction) : Text := join [','] (rs.map text)

variable (r : Restriction) {rs : List Restriction}

theorem looksLikeOptions_text : looksLikeOptions r.text = true := r.named.isOptionName.looksLikeOptions_signed r.negated

theorem comma_not_mem_text : ',' ∉ r.text := r.named.isOptionName.comma_not_mem_signed r.negated

theorem ofTexts_text : RuleOption.ofTexts [r.text] = [r.option] := r.named.isOptionName.ofTexts_signed r.negated

theorem ofTexts_texts (rs : List Restriction) : RuleOption.ofTexts (rs.map text) = rs.map option := by
  induction rs with
  | nil => rfl
  | cons r rs ih =>
    rw [List.map_cons, ← List.singleton_append, RuleOption.ofTexts_append, ofTexts_text, ih]
    rfl

theorem looksLikeOptions_optionText (hne : rs ≠ []) : looksLikeOptions (optionText rs) = true := by
  refine looksLikeOptions_join (by simpa using hne) ?_
  intro t ht
  obtain ⟨r, -, rfl⟩ := List.mem_map.1 ht
  exact r.looksLikeOptions_text

theorem map_ofText_optionText (hne : rs ≠ []) : (optionTexts (optionText rs)).map RuleOption.ofText = rs.map option := by
  have hsplit : (optionText rs).splitOn ',' = rs.map text := by
    refine splitOn_join (by simpa using hne) ?_
    intro t ht
    obtain ⟨r, -, rfl⟩ := List.mem_map.1 ht
    exact r.comma_not_mem_text
  rw [RuleOption.map_ofText_optionTexts, hsplit, ofTexts_texts]

/-! ### What options allow -/

/-- Some option names the type or the party, plainly or after `~`. -/
def Names (rs : List Restriction) (negated : Bool) (s : Subject) : Prop := ∃ r ∈ rs, r.negated = negated ∧ r.subject = s

/-- No option names any value of the kind plainly, or one names this value, and none names it after `~`. -/
def Allows {α : Type} (rs : List Restriction) (kind : α → Subject) (a : α) : Prop :=
  ((∀ b, ¬Names rs false (kind b)) ∨ Names rs false (kind a)) ∧ ¬Names rs true (kind a)

theorem names_concat {negated : Bool} {s : Subject} :
    Names (rs ++ [r]) negated s ↔ Names rs negated s ∨ r.negated = negated ∧ r.subject = s := by
  simp [Names, or_and_right, exists_or]

theorem not_names_nil {negated : Bool} {s : Subject} : ¬Names [] negated s := by simp [Names]

end Restriction

open Restriction

/-! ### Reading the options -/

/-- The masks hold what the options so far name, and the options say nothing else. -/
structure OptionState.Records (s : OptionState) (rs : List Restriction) : Prop where
  typesIn : ∀ t, Has ResourceType.index s.typesIn t ↔ Names rs false (.type t)
  typesOut : ∀ t, Has ResourceType.index s.typesOut t ↔ Names rs true (.type t)
  partiesIn : ∀ p, Has Party.index s.partiesIn p ↔ Names rs false (.party p)
  partiesOut : ∀ p, Has Party.index s.partiesOut p ↔ Names rs true (.party p)
  matchCase : s.matchCase = false
  domains : s.domains = none

namespace OptionState

variable {s : OptionState} {rs : List Restriction}

theorem records_nil : Records {} [] where
  typesIn _ := iff_of_false has_zero not_names_nil
  typesOut _ := iff_of_false has_zero not_names_nil
  partiesIn _ := iff_of_false has_zero not_names_nil
  partiesOut _ := iff_of_false has_zero not_names_nil
  matchCase := rfl
  domains := rfl

theorem has_or_type {m : TypeMask} {t u : ResourceType} :
    Has ResourceType.index (m ||| u.mask) t ↔ Has ResourceType.index m t ∨ u = t := by
  rw [has_or, ResourceType.mask, has_single numbers_type, eq_comm]

theorem has_or_party {m : PartyMask} {p q : Party} :
    Has Party.index (m ||| q.mask) p ↔ Has Party.index m p ∨ q = p := by
  rw [has_or, Party.mask_eq, has_single numbers_party, eq_comm]

/-- One more option adds what it names to one of the masks. -/
theorem next_records (hs : s.Records rs) (r : Restriction) :
    ∃ s', s.next r.option = .ok s' ∧ s'.Records (rs ++ [r]) := by
  obtain ⟨negated, written, subject, hnamed⟩ := r
  obtain ⟨htypesIn, htypesOut, hpartiesIn, hpartiesOut, hmatchCase, hdomains⟩ := hs
  cases subject with
  | type t =>
    cases negated with
    | false =>
      refine ⟨{ s with typesIn := s.typesIn ||| t.mask, inDomains := false }, rfl, ?_⟩
      constructor <;> simp [names_concat, has_or_type, *]
    | true =>
      refine ⟨{ s with typesOut := s.typesOut ||| t.mask, inDomains := false }, rfl, ?_⟩
      constructor <;> simp [names_concat, has_or_type, *]
  | party p =>
    cases negated with
    | false =>
      refine ⟨{ s with partiesIn := s.partiesIn ||| p.mask, inDomains := false }, rfl, ?_⟩
      constructor <;> simp [names_concat, has_or_party, *]
    | true =>
      refine ⟨{ s with partiesOut := s.partiesOut ||| p.mask, inDomains := false }, rfl, ?_⟩
      constructor <;> simp [names_concat, has_or_party, *]

theorem foldlM_records (hs : s.Records rs) (more : List Restriction) :
    ∃ s', (more.map option).foldlM next s = .ok s' ∧ s'.Records (rs ++ more) := by
  induction more generalizing s rs with
  | nil => exact ⟨s, rfl, by simpa using hs⟩
  | cons r more ih =>
    obtain ⟨s₁, hnext, hs₁⟩ := next_records hs r
    obtain ⟨s₂, hrun, hs₂⟩ := ih hs₁
    refine ⟨s₂, ?_, by simpa using hs₂⟩
    rw [List.map_cons, List.foldlM_cons, hnext]
    exact hrun

/-- What remains of the values that the options name is what they allow. -/
theorem remains_iff {α : Type} {n : Nat} {index : α → Nat} (h : Numbers index n) {included excluded : BitVec n}
    {kind : α → Subject} (hin : ∀ a, Has index included a ↔ Names rs false (kind a))
    (hout : ∀ a, Has index excluded a ↔ Names rs true (kind a)) (a : α) :
    Remains index included excluded a ↔ Allows rs kind a := by
  rw [Remains, Allows, eq_zero_iff h, hout]
  simp only [hin]

end OptionState

/-- The options say what a list of options on types and parties allows, which is something, and nothing else. -/
structure RuleOptions.Enforces (o : RuleOptions) (rs : List Restriction) : Prop where
  matchCase : o.matchCase = false
  domains : o.domains = none
  exists_type : ∃ t, Allows rs .type t
  exists_party : ∃ p, Allows rs .party p
  types : ∀ t, admits o.types (some t.mask) = true ↔ Allows rs .type t
  party : ∀ p, admits o.party (some p.mask) = true ↔ Allows rs .party p

/-- Either no type or no party is allowed, or the options that are read enforce what is. -/
theorem RuleOptions.read_cases {rs : List Restriction} (hne : rs ≠ []) :
    (read (optionText rs) = .error .contradictoryOptions ∧
      ((∀ t, ¬Allows rs .type t) ∨ ∀ p, ¬Allows rs .party p)) ∨
    ∃ o, read (optionText rs) = .ok o ∧ o.Enforces rs := by
  obtain ⟨s, hrun, hs⟩ := OptionState.foldlM_records OptionState.records_nil rs
  rw [List.nil_append] at hs
  have htype := OptionState.remains_iff numbers_type hs.typesIn hs.typesOut
  have hparty := OptionState.remains_iff numbers_party hs.partiesIn hs.partiesOut
  have hread : read (optionText rs) = do
      let types ← remaining s.typesIn s.typesOut
      let party ← remaining s.partiesIn s.partiesOut
      return { matchCase := s.matchCase, badfilter := s.badfilter, types, party, domains := s.domains } := by
    rw [read, map_ofText_optionText hne, hrun]
    rfl
  rw [hread]
  rcases remaining_cases numbers_type s.typesIn s.typesOut with ⟨htypes, hnone⟩ | ⟨types, htypes, hsome, hadmits⟩
  · left
    rw [htypes]
    exact ⟨rfl, Or.inl fun t ht => hnone t ((htype t).2 ht)⟩
  · rcases remaining_cases numbers_party s.partiesIn s.partiesOut with ⟨hparties, hnone⟩ | ⟨party, hparties, hsome', hadmits'⟩
    · left
      rw [htypes, hparties]
      exact ⟨rfl, Or.inr fun p hp => hnone p ((hparty p).2 hp)⟩
    · right
      rw [htypes, hparties]
      refine ⟨_, rfl, hs.matchCase, hs.domains, ?_, ?_, ?_, ?_⟩
      · exact hsome.imp fun t => (htype t).1
      · exact hsome'.imp fun p => (hparty p).1
      · intro t
        rw [← htype, ← hadmits]
        rfl
      · intro p
        rw [← hparty, ← hadmits', Party.mask_eq]

/-! ### Lines with options -/

/-- The pattern on a line, without the mark of exceptions and the options. -/
def linePattern (raw : Text) : Text := trim (splitOptions (cutException (trim raw)).2).1

/-- The line holds a rule about requests, if its options allow any: it is not passed over, no line of a hosts file, and it
has a pattern that can be read. -/
structure HasPattern (raw : Text) : Prop where
  isIgnored : isIgnored (trim raw) = false
  hosts : hostsFileDomain? (cutException (trim raw)).2 = none
  pattern : (patternOf? (linePattern raw) (rawRegex? (linePattern raw)).isSome false).isSome = true

instance (raw : Text) : Decidable (HasPattern raw) :=
  decidable_of_iff (isIgnored (trim raw) = false ∧ hostsFileDomain? (cutException (trim raw)).2 = none ∧
      (patternOf? (linePattern raw) (rawRegex? (linePattern raw)).isSome false).isSome = true)
    ⟨fun ⟨h₁, h₂, h₃⟩ => ⟨h₁, h₂, h₃⟩, fun ⟨h₁, h₂, h₃⟩ => ⟨h₁, h₂, h₃⟩⟩

namespace RuleContext

variable (c : RuleContext) {text : Text} {o : RuleOptions}

/-- A pattern that can be read makes a rule with any options that leave the case aside. -/
theorem exists_ruleOf (ho : o.matchCase = false) (h : (patternOf? text (rawRegex? text).isSome false).isSome = true) :
    ∃ r, c.ruleOf text o = .ok r := by
  unfold patternOf? at h
  unfold ruleOf
  rw [ho]
  cases hraw : rawRegex? text with
  | some source =>
    rw [hraw] at h
    cases hpattern : Pattern.ofSource source false with
    | error f => simp [hpattern, Except.toOption] at h
    | ok p => exact ⟨_, congrArg (c.rule text { rawRegex := true } o) hpattern⟩
  | none =>
    rw [hraw] at h
    cases hread : PatternText.read text with
    | error f => simp [hread, Except.toOption] at h
    | ok t =>
      cases hpattern : Pattern.ofParts t.parts false with
      | error f => simp [hread, hpattern, Except.toOption] at h
      | ok p => exact ⟨_, congrArg (c.rule text t.flags o) hpattern⟩

end RuleContext

/-- The options are read after what stands before them has been settled. -/
theorem Rule.read_options {options : Text} (hlooks : looksLikeOptions options = true) {pattern : Text}
    (h : HasPattern (pattern ++ '$' :: options)) (source : SourceList) (number : Nat) :
    ∃ c : RuleContext, Rule.read (pattern ++ '$' :: options) source number =
      (RuleOptions.read options >>= c.ruleOf (linePattern (pattern ++ '$' :: options))).map some := by
  have hsplit : (splitOptions (cutException (trim (pattern ++ '$' :: options))).2).2 = some options := by
    rw [trim_options hlooks, cutException_options, splitOptions_options hlooks]
  refine ⟨⟨(cutException (trim (pattern ++ '$' :: options))).1, source, number⟩, ?_⟩
  rw [Rule.read_eq, h.isIgnored, if_neg Bool.false_ne_true, RuleContext.lineRule, h.hosts, RuleContext.patternRule_eq,
    hsplit]
  rfl

/-- A rule without domains, whose masks admit what is allowed, applies to a request exactly if its type and its party are
allowed, as far as they are known. -/
theorem Rule.applies_iff_allows {r : Rule} {rs : List Restriction} (hdomains : r.domains = none)
    (htypes : ∀ t, admits r.types (some t.mask) = true ↔ Allows rs .type t)
    (hparties : ∀ p, admits r.party (some p.mask) = true ↔ Allows rs .party p) {q : Request} {type : Option ResourceType}
    {party : Option Party} (htype : q.types = type.map ResourceType.mask)
    (hparty : q.thirdParty = party.map (· == .third)) :
    r.applies q = true ↔ (∀ t ∈ type, Allows rs .type t) ∧ ∀ p ∈ party, Allows rs .party p := by
  have hmask : q.thirdParty.map partyOf = party.map Party.mask := by
    rw [hparty, Option.map_map]
    congr 1
    funext p
    cases p <;> rfl
  rw [Rule.applies, hdomains, htype, hmask, Option.all_none, Bool.and_true, Bool.and_eq_true]
  refine and_congr ?_ ?_
  · cases type with
    | none => simp [admits]
    | some t => simpa using htypes t
  · cases party with
    | none => simp [admits]
    | some p => simpa using hparties p

/-- A line with a pattern and with options on types and parties is refused because of its options exactly if they allow no
type or no party. Otherwise it holds a rule that applies to a request exactly if they allow its type and its party, as far as
these are known. -/
theorem Rule.read_restrictions {rs : List Restriction} (hne : rs ≠ []) {pattern : Text}
    (hpattern : HasPattern (pattern ++ '$' :: optionText rs)) (source : SourceList) (number : Nat) :
    (Rule.read (pattern ++ '$' :: optionText rs) source number = .error .contradictoryOptions ↔
      (∀ t, ¬Allows rs .type t) ∨ ∀ p, ¬Allows rs .party p) ∧
    ((∃ t, Allows rs .type t) → (∃ p, Allows rs .party p) →
      ∃ r, Rule.read (pattern ++ '$' :: optionText rs) source number = .ok (some r) ∧
        ∀ (q : Request) (type : Option ResourceType) (party : Option Party), q.types = type.map ResourceType.mask →
          q.thirdParty = party.map (· == .third) →
          (r.applies q = true ↔ (∀ t ∈ type, Allows rs .type t) ∧ ∀ p ∈ party, Allows rs .party p)) := by
  obtain ⟨c, hread⟩ := Rule.read_options (looksLikeOptions_optionText hne) hpattern source number
  rw [hread]
  rcases RuleOptions.read_cases hne with ⟨herror, hnone⟩ | ⟨o, hok, ho⟩
  · rw [herror]
    refine ⟨iff_of_true rfl hnone, ?_⟩
    intro htype hparty
    rcases hnone with hnone | hnone
    · exact (htype.elim hnone).elim
    · exact (hparty.elim hnone).elim
  · obtain ⟨r, hrule⟩ := c.exists_ruleOf ho.matchCase hpattern.pattern
    obtain ⟨-, htypes, hparties, hdomains⟩ := RuleContext.of_ruleOf hrule
    rw [except_bind_eq_ok.2 ⟨o, hok, hrule⟩]
    constructor
    · refine iff_of_false (by simp [Except.map]) ?_
      rintro (hnone | hnone)
      · exact ho.exists_type.elim hnone
      · exact ho.exists_party.elim hnone
    · intro _ _
      refine ⟨r, rfl, ?_⟩
      intro q type party
      exact Rule.applies_iff_allows (hdomains.trans ho.domains) (htypes ▸ ho.types) (hparties ▸ ho.party)

/-- Two types, one of them also after `~`, and a party, in any case. -/
def mixedRestrictions : List Restriction :=
  [⟨true, "Script".toList, .type .script, by decide +kernel⟩, ⟨false, "XHR".toList, .type .xhr, by decide +kernel⟩,
    ⟨false, "script".toList, .type .script, by decide +kernel⟩, ⟨false, "3p".toList, .party .third, by decide +kernel⟩]

/-- The rule with these options applies to requests for data from other sites, and to no request for a script. -/
theorem Rule.read_restrictions_mixed : mixedRestrictions ≠ [] ∧
    optionText mixedRestrictions = "~Script,XHR,script,3p".toList ∧
      HasPattern ("||ok.io^".toList ++ '$' :: optionText mixedRestrictions) ∧
        ∃ r, Rule.read ("||ok.io^".toList ++ '$' :: optionText mixedRestrictions) .easyList 1 = .ok (some r) ∧
          r.applies { url := [], thirdParty := some true, types := some ResourceType.xhr.mask } = true ∧
            r.applies { url := [], types := some ResourceType.script.mask } = false := by
  have hne : mixedRestrictions ≠ [] := by simp [mixedRestrictions]
  have hpattern : HasPattern ("||ok.io^".toList ++ '$' :: optionText mixedRestrictions) := by decide +kernel
  have hxhr : Allows mixedRestrictions .type .xhr := by simp [Allows, Names, mixedRestrictions]
  have hscript : ¬Allows mixedRestrictions .type .script := by simp [Allows, Names, mixedRestrictions]
  have hthird : Allows mixedRestrictions .party .third := by simp [Allows, Names, mixedRestrictions]
  obtain ⟨r, hread, happlies⟩ := (Rule.read_restrictions hne hpattern .easyList 1).2 ⟨_, hxhr⟩ ⟨_, hthird⟩
  refine ⟨hne, by decide +kernel, hpattern, r, hread, ?_, ?_⟩
  · exact (happlies _ (some .xhr) (some .third) rfl rfl).2 ⟨by simpa using hxhr, by simpa using hthird⟩
  · rw [← Bool.not_eq_true, happlies _ (some .script) none rfl rfl]
    simpa using hscript

end TrackerAudit
