import TrackerAudit.Proofs.Rule.Domains
import TrackerAudit.Proofs.Rule.OptionText

/-!
# Domains after a comma

The domains of a `domain=` option may be separated by commas, so that each further one is an option of its own. Only
domains are taken up in this way: an entity `name.*` ends the list, and what follows it is passed over
(`DomainEntry.foldlM_further`). So commas mean what bars mean for the entries before the first entity that is not the first
entry, and for all entries exactly if no other entry is an entity (`Rule.read_commaOption`).
-/

namespace TrackerAudit

open Text

variable {s normal : Text}

/-! ### Normal forms with a dot -/

theorem dot_mem_of_normalEntry (h : normalEntry? s = some normal) (hdot : '.' ∈ normal) : '.' ∈ s := by
  rcases normalEntry?_cases h with h | ⟨stem, base, htrim, -, -⟩
  · unfold normalDomain? at h
    rw [Option.ite_none_right_eq_some, Option.some.injEq] at h
    rw [← h.2, mem_lower_iff rfl] at hdot
    exact trim_subset s (trimBy_subset _ _ hdot)
  · exact trim_subset s (by simp [htrim])

/-- Among the entries with a dot, the domains are those that are taken up after a comma. -/
theorem continuesDomains_eq (h : normalEntry? s = some normal) (hdot : '.' ∈ normal) :
    continuesDomains s = !normal.contains '*' := by
  rcases normalEntry?_cases h with hdomain | ⟨stem, base, htrim, -, rfl⟩
  · have hstar := star_not_mem_of_normalDomain? hdomain
    simp [continuesDomains, hdomain, hdot, hstar]
  · have hstar : '*' ∈ s := trim_subset s (by simp [htrim])
    simp [continuesDomains, normalDomain?_eq_none hstar (by decide) (by decide)]

/-! ### Entries as options -/

namespace RuleOption

/-- A name with a dot is not in a table of names without one. -/
private theorem findSome?_of_dot {α : Type} {table : List (String × α)} (htable : ∀ x ∈ table, '.' ∉ x.1.toList)
    {name : Text} (hdot : '.' ∈ name) :
    (table.findSome? fun (n, a) => if n.toList = name then some a else none) = none := by
  refine List.findSome?_eq_none_iff.2 fun x hx => if_neg ?_
  rintro rfl
  exact htable x hx hdot

theorem typeOfOptionName?_of_dot {name : Text} (hdot : '.' ∈ name) : ResourceType.ofOptionName? name = none :=
  findSome?_of_dot (by decide) hdot

theorem partyOfOptionName?_of_dot {name : Text} (hdot : '.' ∈ name) : Party.ofOptionName? name = none :=
  findSome?_of_dot (by decide) hdot

/-- A text with a dot names no option. -/
theorem ofText_of_dot {name : Text} (hdot : '.' ∈ name) (heq : '=' ∉ name) (htilde : '~' ∉ name) :
    ofText name = .other name false ∧ ofText ('~' :: name) = .other name true := by
  have hdomain {t : Text} (ht : '=' ∉ t) : cutStart? "domain=".toList t = none := cutStart?_eq_none (by simp) ht
  have hnegated : cutStart? ['~'] name = none := cutStart?_eq_none (by simp) htilde
  have hne {t : Text} (ht : '.' ∉ t) : name ≠ t := fun h => ht (h ▸ hdot)
  have hcut : cutStart? ['~'] ('~' :: name) = some name := cutStart?_eq_some.2 rfl
  constructor
  · rw [ofText, hdomain heq, hnegated]
    simp [hne, typeOfOptionName?_of_dot hdot, partyOfOptionName?_of_dot hdot]
  · rw [ofText, hdomain (by simpa using heq), hcut]
    simp [hne, typeOfOptionName?_of_dot hdot, partyOfOptionName?_of_dot hdot]

end RuleOption

namespace DomainEntry

/-- The entry is a domain, not an entity `name.*`. -/
def isDomain (e : DomainEntry) : Bool := !e.name.contains '*'

/-- The option `domain=` with entries that are separated by commas. -/
def commaOption (entries : List DomainEntry) : Text := "domain=".toList ++ join [','] (entries.map text)

variable (e : DomainEntry)

/-- An entry with a dot is no option of another kind. -/
theorem exists_ofTexts_text (hdot : '.' ∈ e.name) : ∃ name, RuleOption.ofTexts [e.text] = [.other name e.negated] ∧
    normalEntry? name = some e.name ∧ (if e.negated then '~' :: name else name) = lower (trim e.text) := by
  have hother {t : Text} (ht : normalEntry? t = some e.name) :=
    RuleOption.ofText_of_dot (dot_mem_of_normalEntry ht hdot)
      (fun h => absurd (chars_of_normalEntry ht '=' h) (by decide))
      (fun h => absurd (chars_of_normalEntry ht '~' h) (by decide))
  have hsingle {t : Text} (ht : trim t ≠ []) : RuleOption.ofTexts [t] = [.ofText (lower (trim t))] := by
    simp [RuleOption.ofTexts, ht]
  cases hneg : e.negated with
  | true =>
    have htrim : trim e.text = '~' :: dropEnd isBlank e.written := by rw [text_of_negated hneg, trim_negated]
    have hlower : lower (trim e.text) = '~' :: lower (dropEnd isBlank e.written) := congrArg lower htrim
    have hname : normalEntry? (lower (dropEnd isBlank e.written)) = some e.name := by
      rw [normalEntry?_lower, normalEntry?_dropEnd, e.accepted]
    refine ⟨_, ?_, hname, hlower.symm⟩
    rw [hsingle (by simp [htrim]), hlower, (hother hname).2]
  | false =>
    have hname : normalEntry? (lower (trim e.text)) = some e.name := by
      rw [normalEntry?_lower, normalEntry?_trim, text_of_plain hneg, e.accepted]
    refine ⟨_, ?_, hname, rfl⟩
    rw [hsingle (text_of_plain hneg ▸ trim_ne_nil_of_normalEntry e.accepted), (hother hname).1]

theorem read_text : DomainConstraint.read (lower (trim e.text)) = .ok (constraint [e]) := by
  rw [← trim_lower, DomainConstraint.read_trim]
  exact DomainConstraint.read_texts (List.cons_ne_nil e [])

variable {e} {c : DomainConstraint}

/-- Right after a list of domains, a domain is taken up, and an entity ends the list. -/
theorem next_text (hdot : '.' ∈ e.name) : ∃ o, RuleOption.ofTexts [e.text] = [o] ∧
    OptionState.next { domains := some c, inDomains := true } o =
        .ok { domains := some (if e.isDomain then c.append (constraint [e]) else c), inDomains := e.isDomain } ∧
      OptionState.next { domains := some c } o = .ok { domains := some c } := by
  obtain ⟨name, hoption, hname, htext⟩ := e.exists_ofTexts_text hdot
  have hcontinues : continuesDomains name = e.isDomain := continuesDomains_eq hname hdot
  refine ⟨_, hoption, ?_, rfl⟩
  rw [OptionState.next, hcontinues, htext, OptionState.addDomains, read_text]
  cases e.isDomain <;> rfl

theorem ofTexts_texts_cons (entries : List DomainEntry) :
    RuleOption.ofTexts ((e :: entries).map text) = RuleOption.ofTexts [e.text] ++ RuleOption.ofTexts (entries.map text) :=
  RuleOption.ofTexts_append [e.text] (entries.map text)

theorem foldlM_passed {entries : List DomainEntry} (hdots : ∀ e ∈ entries, '.' ∈ e.name) :
    (RuleOption.ofTexts (entries.map text)).foldlM OptionState.next { domains := some c } =
      .ok { domains := some c } := by
  induction entries with
  | nil => rfl
  | cons e entries ih =>
    obtain ⟨o, hoption, -, hnext⟩ := next_text (c := c) (hdots e (by simp))
    rw [ofTexts_texts_cons, hoption, List.singleton_append, List.foldlM_cons, hnext]
    exact ih fun e he => hdots e (by simp [he])

/-- Entries after a list of domains are taken up until the first entity. -/
theorem foldlM_further {entries : List DomainEntry} (hdots : ∀ e ∈ entries, '.' ∈ e.name) :
    (RuleOption.ofTexts (entries.map text)).foldlM OptionState.next { domains := some c, inDomains := true } =
      .ok { domains := some (c.append (constraint (entries.takeWhile isDomain))), inDomains := entries.all isDomain } := by
  induction entries generalizing c with
  | nil => simp [RuleOption.ofTexts, constraint, DomainConstraint.append, pure, Except.pure]
  | cons e entries ih =>
    have hrest : ∀ e ∈ entries, '.' ∈ e.name := fun e he => hdots e (by simp [he])
    obtain ⟨o, hoption, hnext, -⟩ := next_text (c := c) (hdots e (by simp))
    rw [ofTexts_texts_cons, hoption, List.singleton_append, List.foldlM_cons, hnext]
    cases hdomain : e.isDomain with
    | true =>
      rw [List.takeWhile_cons_of_pos hdomain, constraint_cons e (entries.takeWhile isDomain), List.all_cons, hdomain]
      refine (ih hrest).trans ?_
      simp [DomainConstraint.append]
    | false =>
      rw [List.takeWhile_cons_of_neg (by simp [hdomain]), List.all_cons, hdomain]
      refine (foldlM_passed hrest).trans ?_
      simp [constraint, DomainConstraint.append]

end DomainEntry

/-! ### Options with commas and with bars -/

theorem RuleOptions.read_of_domains {text : Text} {c : DomainConstraint} (inDomains : Bool)
    (h : (RuleOption.ofTexts (text.splitOn ',')).foldlM OptionState.next {} = .ok { domains := some c, inDomains }) :
    RuleOptions.read text = .ok { domains := some c } := by
  have htypes : remaining (0 : TypeMask) 0 = .ok 0 := by decide +kernel
  have hparty : remaining (0 : PartyMask) 0 = .ok 0 := by decide +kernel
  rw [RuleOptions.read, RuleOption.map_ofText_optionTexts, h]
  simp only [bind, Except.bind, htypes, hparty]
  rfl

namespace DomainEntry

theorem comma_not_mem_text (e : DomainEntry) : ',' ∉ e.text := fun h => absurd (e.chars_text ',' h) (by decide)

theorem comma_not_mem_option (entries : List DomainEntry) : ',' ∉ option entries := by
  intro h
  rcases List.mem_append.1 h with h | h
  · exact absurd h (by decide)
  · rcases mem_join h with h | ⟨t, ht, h⟩
    · exact absurd h (by decide)
    · obtain ⟨e, -, rfl⟩ := List.mem_map.1 ht
      exact e.comma_not_mem_text h

theorem splitOn_commaOption (first : DomainEntry) (rest : List DomainEntry) :
    (commaOption (first :: rest)).splitOn ',' = option [first] :: rest.map text := by
  have hjoin : commaOption (first :: rest) = join [','] (option [first] :: rest.map text) :=
    append_join [','] "domain=".toList first.text (rest.map text)
  rw [hjoin]
  refine splitOn_join (List.cons_ne_nil _ _) fun t ht => ?_
  rcases List.mem_cons.1 ht with rfl | ht
  · exact comma_not_mem_option [first]
  · obtain ⟨e, -, rfl⟩ := List.mem_map.1 ht
    exact e.comma_not_mem_text

theorem read_option_options {entries : List DomainEntry} (hne : entries ≠ []) :
    RuleOptions.read (option entries) = .ok { domains := some (constraint entries) } := by
  obtain ⟨value, hoption, hvalue⟩ := read_option hne
  refine RuleOptions.read_of_domains true ?_
  rw [List.splitOn_eq_singleton (comma_not_mem_option entries), hoption, List.foldlM_cons, OptionState.next,
    OptionState.addDomains, hvalue]
  rfl

/-- Commas join the entries before the first entity that is not the first entry. -/
theorem read_commaOption_options (first : DomainEntry) {rest : List DomainEntry} (hdots : ∀ e ∈ rest, '.' ∈ e.name) :
    RuleOptions.read (commaOption (first :: rest)) =
      .ok { domains := some (constraint (first :: rest.takeWhile isDomain)) } := by
  obtain ⟨value, hoption, hvalue⟩ := read_option (List.cons_ne_nil first [])
  refine RuleOptions.read_of_domains (rest.all isDomain) ?_
  rw [splitOn_commaOption, ← List.singleton_append, RuleOption.ofTexts_append, hoption, List.singleton_append,
    List.foldlM_cons, OptionState.next, OptionState.addDomains, hvalue,
    constraint_cons first (rest.takeWhile isDomain)]
  exact foldlM_further hdots

/-- A constraint has as many domains as there are entries. -/
theorem length_constraint (entries : List DomainEntry) :
    (constraint entries).included.length + (constraint entries).excluded.length = entries.length := by
  have := List.length_eq_length_filter_add (l := entries) (·.negated)
  simp only [constraint, List.length_map]
  omega

theorem constraint_takeWhile_eq_iff (first : DomainEntry) {rest : List DomainEntry} :
    constraint (first :: rest.takeWhile isDomain) = constraint (first :: rest) ↔ ∀ e ∈ rest, e.isDomain = true := by
  rw [← List.takeWhile_eq_self_iff]
  constructor
  · intro h
    have hlength := length_constraint (first :: rest.takeWhile isDomain)
    rw [h, length_constraint, List.length_cons, List.length_cons] at hlength
    exact (List.takeWhile_prefix isDomain).eq_of_length (Nat.succ.inj hlength).symm
  · exact fun h => by rw [h]

/-- Entries without blanks may stand in options, with commas or bars between them. -/
theorem looksLikeOptions_texts {sep : Char} (hsep : sep = ',' ∨ sep = '|') {entries : List DomainEntry}
    (hblank : ∀ e ∈ entries, ∀ c ∈ e.written, isBlank c = false) :
    looksLikeOptions ("domain=".toList ++ join [sep] (entries.map text)) = true := by
  have hkey : ∀ c ∈ "domain=".toList, (isAlnum c || "~=,|._-*/:".toList.contains c) = true :=
    List.all_eq_true.1 (by decide +kernel)
  have htext : ∀ e ∈ entries, ∀ c ∈ e.text, (isAlnum c || "~=,|._-*/:".toList.contains c) = true := by
    intro e he c hc
    have hnot : isBlank c = false := by
      unfold text at hc
      split at hc
      · rcases List.mem_cons.1 hc with rfl | hc
        · rfl
        · exact hblank e he c hc
      · exact hblank e he c hc
    rcases e.chars_text c hc with h | h | rfl | rfl
    · rw [hnot] at h
      cases h
    · simp only [Host.isNameChar, Bool.or_eq_true, beq_iff_eq] at h
      rcases h with (h | rfl) | rfl
      · simp [h]
      · decide
      · decide
    · decide
    · decide
  rw [looksLikeOptions, Bool.and_eq_true]
  refine ⟨rfl, List.all_eq_true.2 fun c hc => ?_⟩
  rcases List.mem_append.1 hc with hc | hc
  · exact hkey c hc
  · rcases mem_join hc with hc | ⟨t, ht, hc⟩
    · obtain rfl := List.mem_singleton.1 hc
      rcases hsep with rfl | rfl <;> decide
    · obtain ⟨e, he, rfl⟩ := List.mem_map.1 ht
      exact htext e he c hc

end DomainEntry

/-- On every line, the entries of a `domain=` option with commas between them, of which all after the first have a dot, mean
what the entries before the first entity that is not the first entry mean with bars between them. So commas mean what bars
mean for all entries exactly if no entry after the first is an entity. -/
theorem Rule.read_commaOption {first : DomainEntry} {rest : List DomainEntry} (hdots : ∀ e ∈ rest, '.' ∈ e.name)
    (hblank : ∀ e ∈ first :: rest, ∀ c ∈ e.written, isBlank c = false) :
    (∀ (pattern : Text) (source : SourceList) (number : Nat),
      Rule.read (pattern ++ '$' :: DomainEntry.commaOption (first :: rest)) source number =
        Rule.read (pattern ++ '$' :: DomainEntry.option (first :: rest.takeWhile DomainEntry.isDomain)) source number) ∧
      (RuleOptions.read (DomainEntry.commaOption (first :: rest)) = RuleOptions.read (DomainEntry.option (first :: rest)) ↔
        ∀ e ∈ rest, e.isDomain = true) := by
  have hcommas := DomainEntry.read_commaOption_options first hdots
  constructor
  · have hsub : ∀ e ∈ first :: rest.takeWhile DomainEntry.isDomain, ∀ c ∈ e.written, isBlank c = false := by
      intro e he
      rcases List.mem_cons.1 he with rfl | he
      · exact hblank e (by simp)
      · exact hblank e (List.mem_cons_of_mem _ ((List.takeWhile_sublist _).subset he))
    refine Rule.read_congr_options (DomainEntry.looksLikeOptions_texts (Or.inl rfl) hblank)
      (DomainEntry.looksLikeOptions_texts (Or.inr rfl) hsub) ?_
    rw [hcommas, DomainEntry.read_option_options (List.cons_ne_nil _ _)]
  · rw [hcommas, DomainEntry.read_option_options (List.cons_ne_nil _ _), ← DomainEntry.constraint_takeWhile_eq_iff first]
    simp

/-- An entity, a domain after `~`, an entity with a dot, and one more domain. -/
def mixedEntries : List DomainEntry :=
  [⟨false, "Mail.*".toList, "mail.*".toList, by decide +kernel⟩,
    ⟨true, "x.Mail.es".toList, "x.mail.es".toList, by decide +kernel⟩,
    ⟨false, "www.b.*".toList, "www.b.*".toList, by decide +kernel⟩,
    ⟨false, "c.io".toList, "c.io".toList, by decide +kernel⟩]

/-- Of these entries with commas between them, the first two count. -/
theorem Rule.read_commaOption_mixed : (∀ e ∈ mixedEntries.tail, '.' ∈ e.name) ∧
    (∀ e ∈ mixedEntries, ∀ c ∈ e.written, isBlank c = false) ∧
    Rule.read "||ok.io^$domain=Mail.*,~x.Mail.es,www.b.*,c.io".toList .easyList 1 =
      Rule.read "||ok.io^$domain=Mail.*|~x.Mail.es".toList .easyList 1 := by
  have hdots : ∀ e ∈ mixedEntries.tail, '.' ∈ e.name := by decide +kernel
  have hwritten : mixedEntries.all (fun e => e.written.all (!isBlank ·)) = true := by decide +kernel
  have hblank : ∀ e ∈ mixedEntries, ∀ c ∈ e.written, isBlank c = false := by simpa using hwritten
  exact ⟨hdots, hblank, (Rule.read_commaOption hdots hblank).1 "||ok.io^".toList .easyList 1⟩

/-- With a comma an entity is left out, with a bar it is not. -/
theorem Rule.domains_ne_commaOption :
    normalEntry? "a.io".toList = some "a.io".toList ∧ normalEntry? "www.b.*".toList = some "www.b.*".toList ∧
      (Rule.read "||ok.io^$domain=a.io,www.b.*".toList .easyList 1).map (Option.map Rule.domains) =
        .ok (some (some ⟨["a.io".toList], []⟩)) ∧
      (Rule.read "||ok.io^$domain=a.io|www.b.*".toList .easyList 1).map (Option.map Rule.domains) =
        .ok (some (some ⟨["a.io".toList, "www.b.*".toList], []⟩)) := by
  decide +kernel

end TrackerAudit
