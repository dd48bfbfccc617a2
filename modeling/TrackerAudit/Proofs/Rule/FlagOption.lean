import TrackerAudit.Proofs.Rule.Restriction

/-!
# Options that set a flag

The options `match-case` and `badfilter` set a flag of the rule, which no other option sets or clears
(`Rule.Carries.isOn_iff`). Setting the flag goes through the reading of further options (`FlagOption.foldlM_set`), and what
is read besides the domains does not depend on the domains (`OptionState.foldlM_withoutDomains`). So such an option among
others sets the flag and changes nothing else but the domains, of which it ends a list (`FlaggedOptions.read_text`). A `~`
before the name makes no difference (`FlaggedOptions.read_text_negated`).
-/

namespace TrackerAudit

open Text

/-! ### Faults and folds -/

section

variable {ε α α' β β' : Type} {e : α → α'}

theorem except_map_bind {g : α → Except ε β} {g' : α' → Except ε β'} {d : β → β'} (h : ∀ a, (g a).map d = g' (e a))
    (x : Except ε α) : (x >>= g).map d = x.map e >>= g' := by
  cases x with
  | error f => rfl
  | ok a => exact h a

/-- A change of the state that goes through one step goes through all steps, up to the same fault. -/
theorem foldlM_map_state {step : α → β → Except ε α} {step' : α' → β → Except ε α'}
    (h : ∀ a b, (step a b).map e = step' (e a) b) (bs : List β) (a : α) :
    (bs.foldlM step a).map e = bs.foldlM step' (e a) := by
  induction bs generalizing a with
  | nil => rfl
  | cons b bs ih =>
    rw [List.foldlM_cons, List.foldlM_cons, ← h]
    exact except_map_bind ih (step a b)

end

/-! ### The option -/

/-- An option that sets a flag of the rule. -/
inductive FlagOption
  | matchCase
  | badfilter
  deriving DecidableEq

namespace FlagOption

/-- The names of the option. -/
def names : FlagOption → List Text
  | matchCase => ["match-case".toList, "match_case".toList]
  | badfilter => ["badfilter".toList]

/-- The option as it is read. -/
def option : FlagOption → RuleOption
  | matchCase => .matchCase
  | badfilter => .badfilter

/-- The rule has the flag. -/
def IsOn : FlagOption → RuleFlags → Prop
  | matchCase, flags => flags.matchCase = true
  | badfilter, flags => flags.badfilter = true

/-- The flag has been set by the options so far. -/
def IsSet : FlagOption → OptionState → Prop
  | matchCase, s => s.matchCase = true
  | badfilter, s => s.badfilter = true

/-- The options with the flag. -/
def mark : FlagOption → RuleOptions → RuleOptions
  | matchCase, o => { o with matchCase := true }
  | badfilter, o => { o with badfilter := true }

/-- What has been read of the options, with the flag. -/
def set : FlagOption → OptionState → OptionState
  | matchCase, s => { s with matchCase := true }
  | badfilter, s => { s with badfilter := true }

/-- Every name of the option is read as the option, also after `~`. -/
theorem isOptionName {f : FlagOption} {name : Text} (h : name ∈ f.names) : IsOptionName name fun _ => f.option := by
  revert name
  cases f <;> decide +kernel

end FlagOption

/-! ### What is read besides the domains -/

/-- Options without the domains of pages. -/
def RuleOptions.withoutDomains (o : RuleOptions) : RuleOptions := { o with domains := none }

namespace OptionState

/-- What has been read of the options, without the domains of pages. -/
def withoutDomains (s : OptionState) : OptionState := { s with domains := none, inDomains := false }

/-- What the options say when all of them have been read. -/
def finish (s : OptionState) : Except LineFault RuleOptions := do
  let types ← remaining s.typesIn s.typesOut
  let party ← remaining s.partiesIn s.partiesOut
  return { matchCase := s.matchCase, badfilter := s.badfilter, types, party, domains := s.domains }

/-- What continues a list of domains is a domain, so it is read without a fault. -/
theorem read_of_continuesDomains {name : Text} (h : continuesDomains name = true) (negated : Bool) :
    ∃ c, DomainConstraint.read (if negated then '~' :: name else name) = .ok c := by
  rw [continuesDomains, Option.any_eq_true] at h
  obtain ⟨normal, hnormal, -⟩ := h
  have hentry : normalEntry? name = some normal := normalEntry?_of_normalDomain? hnormal
  have hbar : '|' ∉ name := fun hmem => absurd (chars_of_normalDomain? hnormal '|' hmem) (by decide)
  cases negated with
  | true =>
    refine ⟨{ excluded := [normal] }, ?_⟩
    rw [if_pos rfl, DomainConstraint.read, List.splitOn_eq_singleton (by simpa using hbar), List.foldlM_cons,
      DomainConstraint.add_negated _ hentry]
    rfl
  | false =>
    refine ⟨{ included := [normal] }, ?_⟩
    rw [if_neg Bool.false_ne_true, DomainConstraint.read, List.splitOn_eq_singleton hbar, List.foldlM_cons,
      DomainConstraint.add_plain _ hentry]
    rfl

/-- The options that are read after some domains have the same faults and say the same of all else as without them. -/
theorem next_withoutDomains (s : OptionState) (o : RuleOption) :
    (s.next o).map withoutDomains = (s.withoutDomains.next o).map withoutDomains := by
  cases o with
  | domains value =>
    rw [next, next, addDomains, addDomains]
    cases DomainConstraint.read value <;> rfl
  | matchCase => rfl
  | badfilter => rfl
  | type t negated => cases negated <;> rfl
  | party p negated => cases negated <;> rfl
  | other name negated =>
    have hpassed : (s.withoutDomains.next (.other name negated)).map withoutDomains = .ok s.withoutDomains := rfl
    rw [hpassed, next]
    split
    · rename_i hcontinues
      obtain ⟨c, hc⟩ := read_of_continuesDomains (Bool.and_eq_true_iff.1 hcontinues).2 negated
      rw [addDomains, hc]
      rfl
    · rfl

theorem foldlM_withoutDomains {s t : OptionState} (h : s.withoutDomains = t.withoutDomains) (os : List RuleOption) :
    (os.foldlM next s).map withoutDomains = (os.foldlM next t).map withoutDomains := by
  have hrun (s : OptionState) : (os.foldlM next s).map withoutDomains =
      os.foldlM (fun s o => (s.next o).map withoutDomains) s.withoutDomains := foldlM_map_state next_withoutDomains os s
  rw [hrun, hrun, h]

theorem finish_withoutDomains (s : OptionState) : s.finish.map RuleOptions.withoutDomains = s.withoutDomains.finish := by
  rw [finish, finish, withoutDomains]
  cases remaining s.typesIn s.typesOut with
  | error f => rfl
  | ok types => cases remaining s.partiesIn s.partiesOut <;> rfl

end OptionState

namespace FlagOption

variable (f : FlagOption) (s : OptionState)

theorem next_option : s.next f.option = .ok { f.set s with inDomains := false } := by cases f <;> rfl

/-- No option clears the flag or asks for it. -/
theorem next_set (o : RuleOption) : (s.next o).map f.set = (f.set s).next o := by
  cases o with
  | domains value =>
    rw [OptionState.next, OptionState.next, OptionState.addDomains, OptionState.addDomains]
    cases DomainConstraint.read value <;> cases f <;> rfl
  | matchCase => cases f <;> rfl
  | badfilter => cases f <;> rfl
  | type t negated => cases f <;> cases negated <;> rfl
  | party p negated => cases f <;> cases negated <;> rfl
  | other name negated =>
    have hset : (f.set s).inDomains = s.inDomains := by cases f <;> rfl
    rw [OptionState.next, OptionState.next, hset]
    split
    · rw [OptionState.addDomains, OptionState.addDomains]
      cases DomainConstraint.read _ <;> cases f <;> rfl
    · cases f <;> rfl

theorem foldlM_set (os : List RuleOption) :
    (os.foldlM OptionState.next s).map f.set = os.foldlM OptionState.next (f.set s) :=
  foldlM_map_state f.next_set os s

theorem finish_set : s.finish.map f.mark = (f.set s).finish := by
  cases f <;> rw [OptionState.finish, OptionState.finish, set] <;> cases remaining s.typesIn s.typesOut <;>
    cases remaining s.partiesIn s.partiesOut <;> rfl

/-- One option more sets the flag exactly if it is the option for it. -/
theorem isSet_of_next {s s' : OptionState} {o : RuleOption} (h : s.next o = .ok s') :
    f.IsSet s' ↔ f.IsSet s ∨ f.option = o := by
  have hdomains {value : Text} (h : s.addDomains value = .ok s') : f.IsSet s' ↔ f.IsSet s := by
    obtain ⟨c, -, h⟩ := except_bind_eq_ok.1 h
    cases h
    cases f <;> rfl
  cases o with
  | domains value =>
    rw [hdomains h]
    cases f <;> simp [option]
  | matchCase => cases h; cases f <;> simp [IsSet, option]
  | badfilter => cases h; cases f <;> simp [IsSet, option]
  | type t negated => cases negated <;> cases h <;> cases f <;> simp [IsSet, option]
  | party p negated => cases negated <;> cases h <;> cases f <;> simp [IsSet, option]
  | other name negated =>
    rw [OptionState.next] at h
    split at h
    · rw [hdomains h]
      cases f <;> simp [option]
    · cases h
      cases f <;> simp [IsSet, option]

theorem isSet_of_foldlM {s s' : OptionState} {os : List RuleOption} (h : os.foldlM OptionState.next s = .ok s') :
    f.IsSet s' ↔ f.IsSet s ∨ f.option ∈ os := by
  induction os generalizing s with
  | nil =>
    cases h
    simp
  | cons o os ih =>
    rw [List.foldlM_cons] at h
    obtain ⟨t, ht, h⟩ := except_bind_eq_ok.1 h
    rw [ih h, f.isSet_of_next ht, List.mem_cons, or_assoc]

/-- The option sets the flag and has no other effect on what is read besides the domains. -/
theorem foldlM_insert (before after : List RuleOption) :
    ((before ++ f.option :: after).foldlM OptionState.next s).map OptionState.withoutDomains =
      ((before ++ after).foldlM OptionState.next s).map fun s => (f.set s).withoutDomains := by
  rw [List.foldlM_append, List.foldlM_append]
  cases before.foldlM OptionState.next s with
  | error fault => rfl
  | ok t =>
    have hended : OptionState.withoutDomains { f.set t with inDomains := false } = (f.set t).withoutDomains := rfl
    calc
      ((f.option :: after).foldlM OptionState.next t).map OptionState.withoutDomains
        = (after.foldlM OptionState.next { f.set t with inDomains := false }).map OptionState.withoutDomains := by
          rw [List.foldlM_cons, f.next_option]
          rfl
      _ = (after.foldlM OptionState.next (f.set t)).map OptionState.withoutDomains :=
          OptionState.foldlM_withoutDomains hended after
      _ = ((after.foldlM OptionState.next t).map f.set).map OptionState.withoutDomains := by rw [f.foldlM_set]
      _ = (after.foldlM OptionState.next t).map fun s => (f.set s).withoutDomains := by
          cases after.foldlM OptionState.next t <;> rfl

end FlagOption

theorem RuleOptions.read_eq (text : Text) :
    read text = (RuleOption.ofTexts (text.splitOn ',')).foldlM OptionState.next {} >>= OptionState.finish := by
  rw [read, RuleOption.map_ofText_optionTexts]
  rfl

/-- A rule has a flag exactly if one of its options is for it. -/
theorem Rule.Carries.isOn_iff {r : Rule} {options : List Text} (h : r.Carries options) (f : FlagOption) :
    f.IsOn r.flags ↔ f.option ∈ RuleOption.ofTexts options := by
  obtain ⟨c, text, optionText, o, rfl, hread, hrule⟩ := h.exists_options
  obtain ⟨s, hs, hmatchCase, hbadfilter, -⟩ := RuleOptions.exists_state_of_read hread
  obtain ⟨hmatchCase', hbadfilter'⟩ := RuleContext.flags_of_ruleOf hrule
  have hset : f.IsOn r.flags ↔ f.IsSet s := by cases f <;> simp [FlagOption.IsOn, FlagOption.IsSet, *]
  have hstart : ¬f.IsSet {} := by cases f <;> simp [FlagOption.IsSet]
  rw [hset, f.isSet_of_foldlM hs, or_iff_right hstart]

/-! ### The option on a line -/

/-- Options on a line, of which one, at any place, sets a flag. -/
structure FlaggedOptions where
  flag : FlagOption
  /-- the name of the option as it is written, without `~` -/
  name : Text
  /-- the options before it -/
  before : List Text
  /-- the options after it -/
  after : List Text
  named : lower name ∈ flag.names
  separate : ∀ t ∈ before ++ after, ',' ∉ t

namespace FlaggedOptions

variable (o : FlaggedOptions) (negated : Bool)

/-- The options, with `~` before the name or without. -/
def texts : List Text := o.before ++ signed negated o.name :: o.after

/-- The options as they stand on a line, separated by commas. -/
def text : Text := join [','] (o.texts negated)

/-- The options without the one that sets the flag, as they stand on a line. -/
def otherText : Text := join [','] (o.before ++ o.after)

theorem ofTexts_texts :
    RuleOption.ofTexts (o.texts negated) = RuleOption.ofTexts o.before ++ o.flag.option :: RuleOption.ofTexts o.after := by
  have hoption := (FlagOption.isOptionName o.named).ofTexts_signed negated
  rw [texts, ← List.singleton_append, RuleOption.ofTexts_append, RuleOption.ofTexts_append, hoption, List.singleton_append]

theorem splitOn_text : (o.text negated).splitOn ',' = o.texts negated := by
  refine splitOn_join (by simp [texts]) ?_
  intro t ht
  rcases List.mem_append.1 ht with ht | ht
  · exact o.separate t (List.mem_append_left _ ht)
  · rcases List.mem_cons.1 ht with rfl | ht
    · exact (FlagOption.isOptionName o.named).comma_not_mem_signed negated
    · exact o.separate t (List.mem_append_right _ ht)

/-- Where no other option stands, there is only a blank one. -/
theorem ofTexts_otherText :
    RuleOption.ofTexts (o.otherText.splitOn ',') = RuleOption.ofTexts o.before ++ RuleOption.ofTexts o.after := by
  rw [← RuleOption.ofTexts_append, otherText]
  by_cases hne : o.before ++ o.after = []
  · rw [hne]
    rfl
  · rw [splitOn_join hne o.separate]

/-- The options say what the others say, with the flag set, apart from the domains. -/
theorem read_text : (RuleOptions.read (o.text negated)).map RuleOptions.withoutDomains =
      (RuleOptions.read o.otherText).map fun p => (o.flag.mark p).withoutDomains := by
  have hfinish (s : OptionState) : s.finish.map (fun p => (o.flag.mark p).withoutDomains) =
      (o.flag.set s).withoutDomains.finish := by
    rw [← OptionState.finish_withoutDomains, ← FlagOption.finish_set]
    cases s.finish <;> rfl
  rw [RuleOptions.read_eq, RuleOptions.read_eq, o.splitOn_text, o.ofTexts_texts, o.ofTexts_otherText,
    except_map_bind OptionState.finish_withoutDomains, except_map_bind hfinish, FlagOption.foldlM_insert]

theorem read_text_negated : RuleOptions.read (o.text true) = RuleOptions.read (o.text false) := by
  rw [RuleOptions.read_eq, RuleOptions.read_eq, o.splitOn_text, o.splitOn_text, o.ofTexts_texts, o.ofTexts_texts]

theorem looksLikeOptions_text (h : looksLikeOptions (o.text false) = true) : looksLikeOptions (o.text true) = true := by
  obtain ⟨a, b, hjoin⟩ := exists_join_eq [','] o.before o.after
  rw [text, texts, hjoin, looksLikeOptions, Bool.and_eq_true, List.all_append, List.all_append] at h ⊢
  refine ⟨?_, ?_⟩
  · cases a with
    | nil => rfl
    | cons c a => exact h.1
  · simpa [signed] using h.2

/-- Every rule with the options has the flag. -/
theorem isOn {r : Rule} (hr : r.Carries (o.texts negated)) : o.flag.IsOn r.flags := by
  rw [hr.isOn_iff, o.ofTexts_texts]
  simp

end FlaggedOptions

end TrackerAudit
