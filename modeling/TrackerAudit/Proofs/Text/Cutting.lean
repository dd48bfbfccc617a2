import Mathlib.Data.List.Basic
import Mathlib.Data.List.TakeDrop
import Mathlib.Data.List.TakeWhile
import TrackerAudit.Proofs.Text.Letters

/-!
# Pieces of a text

A text that is taken apart at the characters of one kind has exactly those pieces that stand between two such
characters, or between one and an end of the text, without another one inside. Small letters are found character by
character. A text that is joined from pieces without the separator falls into the same pieces again (`splitOn_join`).
-/

namespace TrackerAudit.Text

variable {p : Char → Bool} {a b s : Text}

/-! ### Cutting -/

theorem before_append (h : ∀ c ∈ a, p c = false) : before p (a ++ b) = a ++ before p b := by
  apply List.takeWhile_append_of_pos
  intro c hc
  simp [h c hc]

theorem dropEnd_append (h : ∀ c ∈ b.getLast?, p c = false) (hb : b ≠ []) : dropEnd p (a ++ b) = a ++ b := by
  obtain ⟨b, c, rfl⟩ := List.eq_nil_or_concat' b |>.resolve_left hb
  have hc := h c (by simp)
  simp [dropEnd, hc]

theorem dropEnd_of_getLast? (h : ∀ c ∈ s.getLast?, p c = false) : dropEnd p s = s := by
  by_cases hs : s = []
  · subst hs
    rfl
  · exact dropEnd_append (a := []) h hs

/-- What remains of a text without the leading characters of one kind. -/
theorem dropWhile_append_of_head? (h : ∀ c ∈ b.head?, p c = false) : (a ++ b).dropWhile p = a.dropWhile p ++ b := by
  induction a with
  | nil =>
    cases b with
    | nil => rfl
    | cons c b =>
      have := h c rfl
      simp [this]
  | cons c a ih =>
    rw [List.cons_append, List.dropWhile_cons, List.dropWhile_cons, ih]
    split <;> rfl

theorem span_of_forall (h : ∀ c ∈ s, p c = true) : s.span p = (s, []) := by
  rw [List.span_eq_takeWhile_dropWhile, List.takeWhile_eq_self_iff.2 h, List.dropWhile_eq_nil_iff.2 h]

/-- What stands before and from the first character of another kind on, if more follows. -/
theorem span_append_of_head? (h : ∀ c ∈ b.head?, p c = false) :
    (a ++ b).span p = ((a.span p).1, (a.span p).2 ++ b) := by
  induction a with
  | nil =>
    cases b with
    | nil => rfl
    | cons c b =>
      have := h c rfl
      simp [List.span_eq_takeWhile_dropWhile, this]
  | cons c a ih =>
    simp only [List.span_eq_takeWhile_dropWhile, Prod.mk.injEq, List.cons_append, List.takeWhile_cons,
      List.dropWhile_cons] at ih ⊢
    split <;> simp [ih]

theorem getLast?_dropWhile {c : Char} (h : c ∈ (s.dropWhile p).getLast?) : c ∈ s.getLast? := by
  obtain ⟨t, ht⟩ := List.dropWhile_suffix (l := s) p
  rw [← ht, List.getLast?_append]
  simp [Option.mem_def.1 h]

/-- Of two ways to divide a text, the one that comes to a character of a kind later has more before the cut. -/
theorem exists_of_append_eq {r t : Text} (h : a ++ r = b ++ t) (ha : ∀ c ∈ a, p c = false)
    (ht : ∀ c ∈ t.head?, p c = true) : ∃ x, b = a ++ x ∧ r = x ++ t := by
  rcases List.append_eq_append_iff.1 h with ⟨x, hb, hr⟩ | ⟨x, rfl, rfl⟩
  · exact ⟨x, hb, hr⟩
  · cases x with
    | nil => exact ⟨[], by simp, by simp⟩
    | cons c x =>
      have hfree := ha c (by simp)
      rw [ht c (by simp)] at hfree
      cases hfree

/-- A text does not start with one that has a character which it lacks. -/
theorem cutStart?_eq_none {lead : Text} {c : Char} (hc : c ∈ lead) (hs : c ∉ s) : cutStart? lead s = none := by
  rw [Option.eq_none_iff_forall_ne_some]
  intro rest hrest
  rw [cutStart?_eq_some.1 hrest] at hs
  exact hs (List.mem_append_left _ hc)

/-! ### Pieces -/

/-- What stands between two separators without one inside is a piece. -/
theorem mem_splitOnP {run : Text} (hrun : ∀ c ∈ run, p c = false) (ha : ∀ c ∈ a.getLast?, p c = true)
    (hb : ∀ c ∈ b.head?, p c = true) : run ∈ (a ++ run ++ b).splitOnP p := by
  have hright : run ∈ (run ++ b).splitOnP p := by
    cases b with
    | nil => simp [List.splitOnP_eq_singleton hrun]
    | cons c b => simp [List.splitOnP_append_cons_of_forall_mem hrun c (hb c rfl)]
  rcases List.eq_nil_or_concat' a with rfl | ⟨a, c, rfl⟩
  · exact hright
  · have hc := ha c (by simp)
    rw [List.append_assoc, List.append_assoc, List.singleton_append, List.splitOnP_append_cons _ _ hc]
    exact List.mem_append_right _ hright

/-- The first piece starts at the start of the text, and the others behind a separator. -/
private theorem splitOnP_cases {first : Text} {rest : List Text} (h : s.splitOnP p = first :: rest) :
    (∃ b, s = first ++ b ∧ (∀ c ∈ first, p c = false) ∧ ∀ c ∈ b.head?, p c = true) ∧
      ∀ run ∈ rest, ∃ a c b, s = a ++ c :: (run ++ b) ∧ p c = true ∧ (∀ d ∈ run, p d = false) ∧
        ∀ d ∈ b.head?, p d = true := by
  induction s generalizing first rest with
  | nil =>
    rw [List.splitOnP_nil, List.cons.injEq] at h
    obtain ⟨rfl, rfl⟩ := h
    exact ⟨⟨[], rfl, by simp, by simp⟩, by simp⟩
  | cons d s ih =>
    obtain ⟨first', rest', hpieces⟩ := List.exists_cons_of_ne_nil (List.splitOnP_ne_nil p s)
    obtain ⟨⟨b, hb, hfree, hend⟩, hrest⟩ := ih hpieces
    rw [List.splitOnP_cons_eq_if_modifyHead, hpieces] at h
    split at h
    · rename_i hd
      obtain ⟨rfl, rfl⟩ := List.cons.inj h
      refine ⟨⟨d :: s, rfl, by simp, by simpa using hd⟩, fun run hrun => ?_⟩
      rcases List.mem_cons.1 hrun with rfl | hrun
      · exact ⟨[], d, b, by rw [hb]; rfl, hd, hfree, hend⟩
      · obtain ⟨a, c, b, rfl, hc⟩ := hrest run hrun
        exact ⟨d :: a, c, b, rfl, hc⟩
    · rename_i hd
      obtain ⟨rfl, rfl⟩ := List.cons.inj h
      refine ⟨⟨b, by rw [hb]; rfl, by simpa [hd] using hfree, hend⟩, fun run hrun => ?_⟩
      obtain ⟨a, c, b, rfl, hc⟩ := hrest run hrun
      exact ⟨d :: a, c, b, rfl, hc⟩

/-- A piece stands between two separators, or between one and an end of the text, without one inside. -/
theorem exists_of_mem_splitOnP {run : Text} (h : run ∈ s.splitOnP p) : ∃ a b, s = a ++ run ++ b ∧
    (∀ c ∈ run, p c = false) ∧ (∀ c ∈ a.getLast?, p c = true) ∧ ∀ c ∈ b.head?, p c = true := by
  obtain ⟨first, rest, hpieces⟩ := List.exists_cons_of_ne_nil (List.splitOnP_ne_nil p s)
  obtain ⟨⟨b, hb, hfree, hend⟩, hrest⟩ := splitOnP_cases hpieces
  rw [hpieces] at h
  rcases List.mem_cons.1 h with rfl | h
  · exact ⟨[], b, hb, hfree, by simp, hend⟩
  · obtain ⟨a, c, b, rfl, hc, hfree, hend⟩ := hrest run h
    exact ⟨a ++ [c], b, by simp, hfree, by simpa using hc, hend⟩

/-- A piece has no separator, and its characters are characters of the text. -/
theorem of_mem_splitOn {c : Char} {piece : Text} (h : piece ∈ s.splitOn c) : c ∉ piece ∧ piece ⊆ s := by
  induction s generalizing piece with
  | nil =>
    rw [List.splitOn_nil, List.mem_singleton] at h
    simp [h]
  | cons d s ih =>
    obtain ⟨first, rest, hpieces⟩ := List.exists_cons_of_ne_nil (List.splitOn_ne_nil c s)
    rw [hpieces] at ih
    rw [List.splitOn_cons_eq_if_modifyHead, hpieces] at h
    split at h
    · rcases List.mem_cons.1 h with rfl | h
      · simp
      · obtain ⟨hfree, hsub⟩ := ih h
        exact ⟨hfree, List.subset_cons_of_subset d hsub⟩
    · rename_i hd
      rcases List.mem_cons.1 h with rfl | h
      · obtain ⟨hfree, hsub⟩ := ih List.mem_cons_self
        have hne : c ≠ d := by
          rintro rfl
          simp at hd
        exact ⟨by simp [hne, hfree], List.cons_subset_cons d hsub⟩
      · obtain ⟨hfree, hsub⟩ := ih (List.mem_cons_of_mem _ h)
        exact ⟨hfree, List.subset_cons_of_subset d hsub⟩

/-- Every text ends in a stretch without separators, which starts at the start of the text or after a separator. -/
theorem exists_last_run (p : Char → Bool) (s : Text) :
    ∃ a run, s = a ++ run ∧ (∀ c ∈ run, p c = false) ∧ ∀ c ∈ a.getLast?, p c = true := by
  induction s with
  | nil => exact ⟨[], [], rfl, by simp, by simp⟩
  | cons c s ih =>
    obtain ⟨a, run, rfl, hrun, ha⟩ := ih
    cases a with
    | nil =>
      cases hc : p c with
      | true => exact ⟨[c], run, rfl, hrun, by simpa using hc⟩
      | false => exact ⟨[], c :: run, rfl, by simpa [hc] using hrun, by simp⟩
    | cons d a => exact ⟨c :: d :: a, run, rfl, hrun, by simpa [List.getLast?_cons_cons] using ha⟩

/-! ### Small letters -/

@[simp] theorem lower_append : lower (a ++ b) = lower a ++ lower b := List.map_append

theorem lower_eq_append_iff {t u : Text} : lower s = t ++ u ↔ ∃ a b, s = a ++ b ∧ lower a = t ∧ lower b = u :=
  List.map_eq_append_iff

theorem lower_lower (s : Text) : lower (lower s) = lower s := by
  rw [lower, lower, List.map_map]
  exact List.map_congr_left fun c _ => toLower_toLower c

/-! ### Joining -/

theorem join_cons_cons (sep l m : Text) (ls : List Text) : join sep (l :: m :: ls) = l ++ sep ++ join sep (m :: ls) := rfl

theorem append_join (sep a l : Text) (ls : List Text) : a ++ join sep (l :: ls) = join sep ((a ++ l) :: ls) := by
  cases ls with
  | nil => rfl
  | cons m ls => rw [join_cons_cons, join_cons_cons, List.append_assoc, List.append_assoc, List.append_assoc]

theorem mem_join {sep : Text} {ls : List Text} {c : Char} (h : c ∈ join sep ls) : c ∈ sep ∨ ∃ l ∈ ls, c ∈ l := by
  induction ls with
  | nil => cases h
  | cons l ls ih =>
    cases ls with
    | nil => exact Or.inr ⟨l, by simp, h⟩
    | cons m ls =>
      rw [join_cons_cons, List.mem_append, List.mem_append] at h
      rcases h with (h | h) | h
      · exact Or.inr ⟨l, by simp, h⟩
      · exact Or.inl h
      · exact (ih h).imp_right fun ⟨l', hl', hc⟩ => ⟨l', by simp [hl'], hc⟩

theorem join_append {sep : Text} {xs ys : List Text} (hxs : xs ≠ []) (hys : ys ≠ []) :
    join sep (xs ++ ys) = join sep xs ++ sep ++ join sep ys := by
  obtain ⟨y, ys, rfl⟩ := List.exists_cons_of_ne_nil hys
  induction xs with
  | nil => exact absurd rfl hxs
  | cons x xs ih =>
    cases xs with
    | nil => rfl
    | cons x' xs =>
      have ih := ih (List.cons_ne_nil x' xs)
      rw [List.cons_append, List.cons_append, join_cons_cons, ← List.cons_append, ih, join_cons_cons]
      simp only [List.append_assoc]

/-- What stands around one of the texts that are joined. -/
theorem exists_join_eq (sep : Text) (before after : List Text) :
    ∃ a b, ∀ s, join sep (before ++ s :: after) = a ++ (s ++ b) := by
  have htail : ∃ b, ∀ s, join sep (s :: after) = s ++ b := by
    cases after with
    | nil => exact ⟨[], fun s => (List.append_nil s).symm⟩
    | cons l after => exact ⟨sep ++ join sep (l :: after), fun s => List.append_assoc s _ _⟩
  obtain ⟨b, hb⟩ := htail
  by_cases hbefore : before = []
  · subst hbefore
    exact ⟨[], b, hb⟩
  · exact ⟨join sep before ++ sep, b, fun s => by rw [join_append hbefore (List.cons_ne_nil _ _), hb]⟩

theorem splitOn_join {c : Char} {ls : List Text} (hne : ls ≠ []) (h : ∀ l ∈ ls, c ∉ l) :
    (join [c] ls).splitOn c = ls := by
  induction ls with
  | nil => exact absurd rfl hne
  | cons l ls ih =>
    have hl := h l (by simp)
    cases ls with
    | nil => exact List.splitOn_eq_singleton hl
    | cons m ls =>
      have ih := ih (List.cons_ne_nil m ls) fun x hx => h x (by simp [hx])
      rw [join_cons_cons, List.append_assoc, List.singleton_append, List.splitOn_append_cons_self,
        List.splitOn_eq_singleton hl, ih]
      rfl

theorem lower_join {sep : Text} (hsep : lower sep = sep) (ls : List Text) :
    lower (join sep ls) = join sep (ls.map lower) := by
  induction ls with
  | nil => rfl
  | cons l ls ih =>
    cases ls with
    | nil => rfl
    | cons m ls =>
      rw [join_cons_cons, lower_append, lower_append, hsep, ih]
      rfl

/-- Rows of texts without a separator end alike exactly if they do when they are joined. -/
theorem suffix_iff_join {c : Char} {xs ys : List Text} (hxs : xs ≠ []) (hys : ys ≠ []) (hx : ∀ l ∈ xs, c ∉ l)
    (hy : ∀ l ∈ ys, c ∉ l) :
    ys <:+ xs ↔ join [c] xs = join [c] ys ∨ ∃ pre, join [c] xs = pre ++ c :: join [c] ys := by
  constructor
  · rintro ⟨pre, rfl⟩
    by_cases hpre : pre = []
    · subst hpre
      exact Or.inl rfl
    · exact Or.inr ⟨join [c] pre, by rw [join_append hpre hys]; simp⟩
  · -- divided at the separator, joined rows are the rows again
    rintro (h | ⟨pre, h⟩)
    · have heq := congrArg (List.splitOn c) h
      rw [splitOn_join hxs hx, splitOn_join hys hy] at heq
      exact heq ▸ List.suffix_refl xs
    · have heq := congrArg (List.splitOn c) h
      rw [splitOn_join hxs hx, List.splitOn_append_cons_self, splitOn_join hys hy] at heq
      exact ⟨_, heq.symm⟩

end TrackerAudit.Text
