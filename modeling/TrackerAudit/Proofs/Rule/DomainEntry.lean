import TrackerAudit.Matching.Request
import TrackerAudit.Proofs.Host.Within
import TrackerAudit.Proofs.Rule.HostLine

/-!
# Entries of a `domain=` option

An entry is a domain or an entity `name.*`, perhaps after `~`, that has a normal form. Neither blanks around an entry nor
the case of its letters show in the normal form. A `domain=` option that is joined from entries gives the constraint with
their normal forms (`DomainConstraint.read_texts`), and a page satisfies the constraint if it lies within one of the plain
entries, where there are any, and within none of those after `~` (`DomainEntry.allows_constraint_iff`).
-/

namespace TrackerAudit

open Text

variable {s normal : Text}

/-! ### Normal domains -/

theorem normalDomain?_trim (s : Text) : normalDomain? (trim s) = normalDomain? s := by
  unfold normalDomain?
  rw [trim_trim]

theorem normalDomain?_lower (s : Text) : normalDomain? (lower s) = normalDomain? s := by
  have hchars : CaseBlind fun c => isAlnum c || c == '.' || c == '-' := caseBlind_of_ascii (by decide)
  unfold normalDomain?
  simp only [trim_lower, trimDots_lower, isEmpty_lower, lower_lower]
  rw [lower, List.all_map, hchars.comp]

theorem lower_of_normalDomain? (h : normalDomain? s = some normal) : lower normal = normal := by
  unfold normalDomain? at h
  rw [Option.ite_none_right_eq_some, Option.some.injEq] at h
  rw [← h.2, lower_lower]

/-- A text with a normal domain has only characters of domains, apart from blanks. -/
theorem chars_of_normalDomain? (h : normalDomain? s = some normal) :
    ∀ c ∈ s, isBlank c = true ∨ Host.isNameChar c = true := by
  unfold normalDomain? at h
  simp only [Bool.and_eq_true, List.all_eq_true, Option.ite_none_right_eq_some] at h
  intro c hc
  cases hblank : isBlank c with
  | true => exact Or.inl rfl
  | false =>
    by_cases hdot : c = '.'
    · exact Or.inr (by simp [Host.isNameChar, hdot])
    · exact Or.inr (h.1.2 c (mem_trimBy (mem_trimBy hc hblank) (by simpa using hdot)))

theorem normalDomain?_eq_none {c : Char} (hc : c ∈ s) (hblank : isBlank c = false) (hname : Host.isNameChar c = false) :
    normalDomain? s = none := by
  rw [Option.eq_none_iff_forall_ne_some]
  intro normal h
  have hchar := chars_of_normalDomain? h c hc
  rw [hblank, hname] at hchar
  exact hchar.elim Bool.false_ne_true Bool.false_ne_true

theorem star_not_mem_of_normalDomain? (h : normalDomain? s = some normal) : '*' ∉ normal :=
  fun hmem => absurd ((normalDomain?_eq_some h).2 '*' hmem) (by decide)

/-! ### Normal entries -/

theorem normalEntry?_trim (s : Text) : normalEntry? (trim s) = normalEntry? s := by
  unfold normalEntry?
  rw [trim_trim, normalDomain?_trim]

theorem normalEntry?_dropEnd (s : Text) : normalEntry? (dropEnd isBlank s) = normalEntry? s := by
  rw [← normalEntry?_trim, trim, trimBy_dropEnd, ← trim, normalEntry?_trim]

theorem normalEntry?_lower (s : Text) : normalEntry? (lower s) = normalEntry? s := by
  unfold normalEntry?
  rw [trim_lower, cutEnd?_lower (by simp), normalDomain?_lower]
  cases cutEnd? ".*".toList (trim s) with
  | none => rfl
  | some stem => exact congrArg (Option.map _) (normalDomain?_lower stem)

theorem normalEntry?_of_normalDomain? (h : normalDomain? s = some normal) : normalEntry? s = some normal := by
  have hstar : '*' ∉ trim s := fun hmem => by
    rw [← normalDomain?_trim, normalDomain?_eq_none hmem (by decide) (by decide)] at h
    cases h
  have hcut : cutEnd? ".*".toList (trim s) = none := by
    rw [Option.eq_none_iff_forall_ne_some]
    intro stem hstem
    rw [cutEnd?_eq_some.1 hstem] at hstar
    exact hstar (by simp)
  unfold normalEntry?
  rw [hcut, h]

/-- A normal entry is a normal domain, or one before `.*`. -/
theorem normalEntry?_cases (h : normalEntry? s = some normal) : normalDomain? s = some normal ∨
    ∃ stem base, trim s = stem ++ ".*".toList ∧ normalDomain? stem = some base ∧ normal = base ++ ".*".toList := by
  unfold normalEntry? at h
  split at h
  · rename_i stem hcut
    obtain ⟨base, hbase, rfl⟩ := Option.map_eq_some_iff.1 h
    exact Or.inr ⟨stem, base, cutEnd?_eq_some.1 hcut, hbase, rfl⟩
  · exact Or.inl h

theorem chars_of_normalEntry (h : normalEntry? s = some normal) :
    ∀ c ∈ s, isBlank c = true ∨ Host.isNameChar c = true ∨ c = '*' := by
  intro c hc
  rcases normalEntry?_cases h with h | ⟨stem, base, htrim, hbase, -⟩
  · exact (chars_of_normalDomain? h c hc).imp_right Or.inl
  · cases hblank : isBlank c with
    | true => exact Or.inl rfl
    | false =>
      have hmem : c ∈ trim s := mem_trimBy hc hblank
      simp only [htrim, String.reduceToList, List.mem_append, List.mem_cons, List.not_mem_nil, or_false] at hmem
      rcases hmem with hmem | rfl | rfl
      · exact hblank ▸ (chars_of_normalDomain? hbase c hmem).imp_right Or.inl
      · exact Or.inr (Or.inl rfl)
      · exact Or.inr (Or.inr rfl)

theorem trim_ne_nil_of_normalEntry (h : normalEntry? s = some normal) : trim s ≠ [] := by
  intro hnil
  rw [← normalEntry?_trim, hnil] at h
  cases h

/-- Trimming leaves a `~` at the start. -/
theorem trim_negated (s : Text) : trim ('~' :: s) = '~' :: dropEnd isBlank s := by
  have hblank : isBlank '~' = false := by decide
  exact trimBy_append_of_ends (a := ['~']) (by simp) (by simp [hblank]) (by simp [hblank])

/-! ### Entries -/

/-- An entry of a `domain=` option: a domain or an entity `name.*`, perhaps after `~`. -/
structure DomainEntry where
  /-- the entry stands after `~` -/
  negated : Bool
  /-- the entry as it is written, without `~` -/
  written : Text
  /-- the normal form of the entry -/
  name : Text
  accepted : normalEntry? written = some name

namespace DomainEntry

/-- The entry as it is written. -/
def text (e : DomainEntry) : Text := if e.negated then '~' :: e.written else e.written

/-- The constraint with some entries. -/
def constraint (entries : List DomainEntry) : DomainConstraint where
  included := (entries.filter (!·.negated)).map name
  excluded := (entries.filter (·.negated)).map name

variable (e : DomainEntry) (entries : List DomainEntry)

theorem text_of_negated {e : DomainEntry} (h : e.negated = true) : e.text = '~' :: e.written := if_pos h

theorem text_of_plain {e : DomainEntry} (h : e.negated = false) : e.text = e.written := if_neg (by simp [h])

theorem chars_text : ∀ c ∈ e.text, isBlank c = true ∨ Host.isNameChar c = true ∨ c = '*' ∨ c = '~' := by
  have hwritten : ∀ c ∈ e.written, isBlank c = true ∨ Host.isNameChar c = true ∨ c = '*' ∨ c = '~' :=
    fun c hc => (chars_of_normalEntry e.accepted c hc).imp_right fun h => h.imp_right Or.inl
  intro c hc
  unfold text at hc
  split at hc
  · rcases List.mem_cons.1 hc with rfl | hc
    · exact Or.inr (Or.inr (Or.inr rfl))
    · exact hwritten c hc
  · exact hwritten c hc

theorem bar_not_mem_text : '|' ∉ e.text := fun h => absurd (e.chars_text '|' h) (by decide)

theorem within_iff (page : Text) : Host.within page e.name = true ↔ Host.LiesWithin page e.name := by
  rcases normalEntry?_cases e.accepted with h | ⟨stem, base, -, h, hname⟩
  · exact Host.within_domain_iff (lower_of_normalDomain? h) (normalDomain?_eq_some h).1 (star_not_mem_of_normalDomain? h)
  · rw [hname]
    exact Host.within_entity_iff (lower_of_normalDomain? h)

theorem constraint_cons : constraint (e :: entries) = (constraint [e]).append (constraint entries) := by
  cases h : e.negated <;> simp [constraint, DomainConstraint.append, h]

theorem isEmpty_constraint (hne : entries ≠ []) : (constraint entries).isEmpty = false := by
  obtain ⟨e, rest, rfl⟩ := List.exists_cons_of_ne_nil hne
  cases h : e.negated <;> simp [constraint, DomainConstraint.isEmpty, h]

/-- A page satisfies the constraint with some entries exactly if it lies within a plain one, where there are any, and
within none after `~`. -/
theorem allows_constraint_iff (page : Text) : (constraint entries).allows page = true ↔
    ((∀ e ∈ entries, e.negated = true) ∨ ∃ e ∈ entries, e.negated = false ∧ Host.LiesWithin page e.name) ∧
      ∀ e ∈ entries, e.negated = true → ¬Host.LiesWithin page e.name := by
  have hincluded : (constraint entries).included.isEmpty = true ↔ ∀ e ∈ entries, e.negated = true := by
    simp [constraint]
  have hin : (constraint entries).included.any (Host.within page) = true ↔
      ∃ e ∈ entries, e.negated = false ∧ Host.LiesWithin page e.name := by
    simp [constraint, within_iff]
  have hout : (constraint entries).excluded.any (Host.within page) = true ↔
      ∃ e ∈ entries, e.negated = true ∧ Host.LiesWithin page e.name := by
    simp [constraint, within_iff]
  rw [DomainConstraint.allows, Bool.and_eq_true, Bool.or_eq_true, hincluded, hin, Bool.not_eq_true', ← Bool.not_eq_true,
    hout]
  push Not
  rfl

end DomainEntry

/-! ### Reading a `domain=` option -/

namespace DomainConstraint

variable (c : DomainConstraint)

theorem add_trim (s : Text) : c.add (trim s) = c.add s := by
  unfold add
  rw [trim_trim]

theorem add_plain (h : normalEntry? s = some normal) : c.add s = .ok { c with included := c.included ++ [normal] } := by
  have hcut : cutStart? ['~'] (trim s) = none :=
    cutStart?_eq_none (by simp) fun hc => absurd (chars_of_normalEntry h '~' (trim_subset s hc)) (by decide)
  unfold add
  simp only [List.isEmpty_eq_false_iff.2 (trim_ne_nil_of_normalEntry h), hcut, normalEntry?_trim, h]
  rfl

theorem add_negated (h : normalEntry? s = some normal) :
    c.add ('~' :: s) = .ok { c with excluded := c.excluded ++ [normal] } := by
  have hcut : cutStart? ['~'] ('~' :: dropEnd isBlank s) = some (dropEnd isBlank s) := cutStart?_eq_some.2 rfl
  unfold add
  simp only [trim_negated, hcut, normalEntry?_dropEnd, h]
  rfl

theorem add_text (e : DomainEntry) : c.add (lower e.text) = .ok (c.append (DomainEntry.constraint [e])) := by
  have h : normalEntry? (lower e.written) = some e.name := (normalEntry?_lower e.written).trans e.accepted
  cases hneg : e.negated with
  | true =>
    have htext : lower e.text = '~' :: lower e.written := congrArg lower (DomainEntry.text_of_negated hneg)
    rw [htext, c.add_negated h]
    simp [DomainEntry.constraint, append, hneg]
  | false =>
    rw [DomainEntry.text_of_plain hneg, c.add_plain h]
    simp [DomainEntry.constraint, append, hneg]

theorem foldlM_add_texts (entries : List DomainEntry) :
    (entries.map fun e => lower e.text).foldlM add c = .ok (c.append (DomainEntry.constraint entries)) := by
  induction entries generalizing c with
  | nil => simp [append, DomainEntry.constraint, pure, Except.pure]
  | cons e entries ih =>
    rw [List.map_cons, List.foldlM_cons, add_text, DomainEntry.constraint_cons e entries]
    exact (ih _).trans (by simp [append])

/-- Blanks around the value of a `domain=` option count for nothing. -/
theorem read_trim (value : Text) : read (trim value) = read value := by
  have htrim : add = fun c s => add c (trim s) := by
    funext c s
    rw [add_trim]
  have hpieces (t : Text) : (t.splitOn '|').foldlM add {} = ((t.splitOn '|').map trim).foldlM add {} := by
    rw [List.foldlM_map, ← htrim]
  rw [read, read, hpieces, hpieces value, map_trim_splitOn_trim (by decide)]

/-- A `domain=` option that is joined from entries gives the constraint with their normal forms. -/
theorem read_texts {entries : List DomainEntry} (hne : entries ≠ []) :
    read (lower (join ['|'] (entries.map DomainEntry.text))) = .ok (DomainEntry.constraint entries) := by
  have hsplit : (lower (join ['|'] (entries.map DomainEntry.text))).splitOn '|' = entries.map fun e => lower e.text := by
    rw [lower_join rfl, List.map_map]
    refine splitOn_join (by simpa using hne) fun t ht => ?_
    obtain ⟨e, -, rfl⟩ := List.mem_map.1 ht
    exact fun h => e.bar_not_mem_text ((mem_lower_iff rfl).1 h)
  have happend : append {} (DomainEntry.constraint entries) = DomainEntry.constraint entries := by simp [append]
  rw [read, hsplit, foldlM_add_texts, happend]
  simp only [Except.bind, bind, DomainEntry.isEmpty_constraint entries hne]
  rfl

end DomainConstraint

end TrackerAudit
