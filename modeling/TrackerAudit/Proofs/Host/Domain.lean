import TrackerAudit.Proofs.Host.Keys

/-!
# Domain names

A domain name is a row of labels. It lies within another one if the labels of the other are its last labels, up to the
case of letters; in terms of texts, if the other is the name itself or stands at its end after a dot
(`DomainName.isWithin_iff`).
-/

namespace TrackerAudit

open Text

/-! ### Names -/

/-- At least two labels of ASCII letters, digits and hyphens, in any case. -/
structure DomainName where
  labels : List Text
  two_le : 2 ≤ labels.length
  nonempty : ∀ l ∈ labels, l ≠ []
  chars : ∀ l ∈ labels, ∀ c ∈ l, (isAlnum c || c == '-') = true

namespace DomainName

/-- The name of given labels. -/
def ofLabels (labels : List Text) (two_le : 2 ≤ labels.length)
    (h : (labels.all fun l => !l.isEmpty && l.all fun c => isAlnum c || c == '-') = true) : DomainName where
  labels
  two_le
  nonempty := by
    intro l hl
    have := List.all_eq_true.1 h l hl
    simp only [Bool.and_eq_true, Bool.not_eq_true', List.isEmpty_eq_false_iff] at this
    exact this.1
  chars := by
    intro l hl
    have := List.all_eq_true.1 h l hl
    rw [Bool.and_eq_true] at this
    exact List.all_eq_true.1 this.2

/-- The labels with dots between them. -/
def text (d : DomainName) : Text := join ['.'] d.labels

/-- The labels of `d` are the last labels of the host, in any case. -/
def IsWithin (host d : DomainName) : Prop := d.labels.map lower <:+ host.labels.map lower

instance (host d : DomainName) : Decidable (host.IsWithin d) := inferInstanceAs (Decidable (_ <:+ _))

variable (d : DomainName)

theorem labels_ne_nil : d.labels ≠ [] := by
  intro h
  have := d.two_le
  rw [h] at this
  exact absurd this (by decide)

theorem dot_not_mem : ∀ l ∈ d.labels, '.' ∉ l := by
  intro l hl hc
  have := d.chars l hl '.' hc
  revert this
  decide

theorem chars_text : ∀ c ∈ d.text, isAlnum c = true ∨ c = '.' ∨ c = '-' := by
  intro c hc
  rcases mem_join hc with hc | ⟨l, hl, hc⟩
  · exact Or.inr (Or.inl (List.mem_singleton.1 hc))
  · have := d.chars l hl c hc
    rw [Bool.or_eq_true, beq_iff_eq] at this
    exact this.imp_right Or.inr

/-- The text of a name is its first label, a dot, and the rest; and likewise from the end. -/
theorem text_eq : ∃ first rest, first ∈ d.labels ∧ d.text = first ++ '.' :: rest := by
  have htwo := d.two_le
  unfold text
  match hlabels : d.labels with
  | [] => simp [hlabels] at htwo
  | [_] => simp [hlabels] at htwo
  | l :: m :: ls => exact ⟨l, join ['.'] (m :: ls), by simp, by simp [join_cons_cons]⟩

theorem text_eq' : ∃ rest last, last ∈ d.labels ∧ d.text = rest ++ '.' :: last := by
  obtain hnil | ⟨ls, l, hlabels⟩ := List.eq_nil_or_concat' d.labels
  · exact absurd hnil d.labels_ne_nil
  · have hls : ls ≠ [] := by
      rintro rfl
      have htwo := d.two_le
      simp [hlabels] at htwo
    refine ⟨join ['.'] ls, l, by simp [hlabels], ?_⟩
    rw [text, hlabels, join_append hls (List.cons_ne_nil l [])]
    simp [join]

theorem dot_mem_text : '.' ∈ d.text := by
  obtain ⟨first, rest, -, h⟩ := d.text_eq
  simp [h]

theorem isPlain : Host.IsPlain d.text where
  nonempty := List.ne_nil_of_mem d.dot_mem_text
  head := by
    obtain ⟨first, rest, hmem, h⟩ := d.text_eq
    cases first with
    | nil => exact absurd rfl (d.nonempty [] hmem)
    | cons c first =>
      rw [h, List.cons_append, List.head?_cons, ne_eq, Option.some.injEq]
      rintro rfl
      exact d.dot_not_mem _ hmem (by simp)
  last := by
    obtain ⟨rest, last, hmem, h⟩ := d.text_eq'
    rcases List.eq_nil_or_concat' last with rfl | ⟨last, c, rfl⟩
    · exact absurd rfl (d.nonempty [] hmem)
    · have hlast : (rest ++ '.' :: (last ++ [c])).getLast? = some c := by
        rw [← List.cons_append, ← List.append_assoc, List.getLast?_concat]
      rw [h, hlast, ne_eq, Option.some.injEq]
      rintro rfl
      exact d.dot_not_mem _ hmem (by simp)
  chars := by
    intro c hc
    rcases d.chars_text c hc with h | rfl | rfl
    · simp [Host.isNameChar, h]
    · rfl
    · rfl

theorem dot_not_mem_lower : ∀ l ∈ d.labels.map lower, '.' ∉ l := by
  intro l hl hc
  obtain ⟨m, hm, rfl⟩ := List.mem_map.1 hl
  obtain ⟨c, hc, hdot⟩ := List.mem_map.1 hc
  obtain rfl := (toLower_eq_iff rfl).1 hdot
  exact d.dot_not_mem m hm hc

theorem lower_text : lower d.text = join ['.'] (d.labels.map lower) := lower_join rfl d.labels

/-- A host lies within a domain if the domain is the host, or stands at its end after a dot, in any case. -/
theorem isWithin_iff {host : DomainName} : host.IsWithin d ↔ ∃ labels name, host.text = labels ++ name ∧
    (∀ c ∈ labels.getLast?, c = '.') ∧ lower name = lower d.text := by
  rw [IsWithin, suffix_iff_join (by simpa using host.labels_ne_nil) (by simpa using d.labels_ne_nil)
    host.dot_not_mem_lower d.dot_not_mem_lower, ← lower_text, ← lower_text]
  constructor
  · rintro (h | ⟨pre, h⟩)
    · exact ⟨[], host.text, rfl, by simp, h⟩
    · obtain ⟨a, b, hhost, -, hb⟩ := lower_eq_append_iff.1 h
      obtain ⟨c, name, rfl, hc, hname⟩ := List.map_eq_cons_iff.1 hb
      obtain rfl := (toLower_eq_iff rfl).1 hc
      exact ⟨a ++ ['.'], name, by simp [hhost], by simp, hname⟩
  · rintro ⟨labels, name, hhost, hlast, hname⟩
    rcases List.eq_nil_or_concat' labels with rfl | ⟨a, c, rfl⟩
    · exact Or.inl (by rw [hhost, ← hname]; rfl)
    · obtain rfl := hlast c (by simp)
      exact Or.inr ⟨lower a, by rw [hhost, ← hname]; simp [lower]⟩

end DomainName

end TrackerAudit
