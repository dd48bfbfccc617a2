import TrackerAudit.Proofs.Text.Cutting

/-!
# Lines and words

A line feed divides the lines of a text into those before and those after it (`lines_append`). So the lines that a text
is joined from are its lines again (`lines_join`), and a line that is put between two others is one line more
(`InsertsLine.of_append`). Likewise a blank divides the words of a text (`words_append`).
-/

namespace TrackerAudit.Text

/-! ### Lines -/

/-- A line without a carriage return at its end. -/
def withoutReturn (l : Text) : Text := (cutEnd? ['\r'] l).getD l

/-- A text that stands on a line of its own as it is. -/
def IsLine (l : Text) : Prop := '\n' ∉ l ∧ l.getLast? ≠ some '\r'

instance (l : Text) : Decidable (IsLine l) := inferInstanceAs (Decidable (_ ∧ _))

theorem withoutReturn_of_isLine {l : Text} (h : IsLine l) : withoutReturn l = l := by
  unfold withoutReturn
  cases hcut : cutEnd? ['\r'] l with
  | none => rfl
  | some m =>
    obtain rfl := cutEnd?_eq_some.1 hcut
    exact absurd (by simp) h.2

theorem lines_append (a b : Text) : lines (a ++ '\n' :: b) = (a.splitOn '\n').map withoutReturn ++ lines b := by
  have hne : b.splitOn '\n' ≠ [] := List.splitOn_ne_nil _ _
  unfold lines
  dsimp only
  rw [List.splitOn_append_cons_self, List.dropLast_append_of_ne_nil hne, List.map_append, List.append_assoc]
  congr 1
  simp [List.getLastD_eq_getLast?, List.getLast?_append, List.getLast?_eq_some_getLast hne]

/-- What follows the end of a line has lines of its own. -/
theorem lines_append_of_getLast? {a : Text} (h : ∀ c ∈ a.getLast?, c = '\n') (b : Text) :
    lines (a ++ b) = lines a ++ lines b := by
  rcases List.eq_nil_or_concat' a with rfl | ⟨a, c, rfl⟩
  · rfl
  · obtain rfl : c = '\n' := h c (by simp)
    rw [List.append_assoc, List.singleton_append, lines_append, lines_append, List.append_assoc]
    rfl

theorem lines_append_of_isLine {l : Text} (h : IsLine l) (b : Text) : lines (l ++ '\n' :: b) = l :: lines b := by
  rw [lines_append, List.splitOn_eq_singleton h.1, List.map_singleton, withoutReturn_of_isLine h]
  rfl

theorem lines_of_isLine {l : Text} (h : IsLine l) (hne : l ≠ []) : lines l = [l] := by
  unfold lines
  rw [List.splitOn_eq_singleton h.1]
  simp [hne]

/-- The lines of a text that is joined from lines. -/
theorem lines_join (ls : List Text) (h : ∀ l ∈ ls, IsLine l ∧ l ≠ []) : lines (join ['\n'] ls) = ls := by
  induction ls with
  | nil => rfl
  | cons l ls ih =>
    obtain ⟨hl, hne⟩ := h l (by simp)
    cases ls with
    | nil => exact lines_of_isLine hl hne
    | cons m ls =>
      have ih := ih fun x hx => h x (by simp [hx])
      rw [join_cons_cons, List.append_assoc, List.singleton_append, lines_append_of_isLine hl, ih]

/-- The second text has the lines of the first and one line more. -/
def InsertsLine (line text text' : Text) : Prop :=
  ∃ before after, lines text = before ++ after ∧ lines text' = before ++ line :: after

/-- A line with its end, put at the start of a text or after a line feed, is one line more. -/
theorem InsertsLine.of_append {line a b : Text} (h : IsLine line) (ha : ∀ c ∈ a.getLast?, c = '\n') :
    InsertsLine line (a ++ b) (a ++ (line ++ '\n' :: b)) := by
  refine ⟨lines a, lines b, lines_append_of_getLast? ha b, ?_⟩
  rw [lines_append_of_getLast? ha, lines_append_of_isLine h]

/-! ### Words -/

theorem words_append {c : Char} (hc : isBlank c = true) (a b : Text) : words (a ++ c :: b) = words a ++ words b := by
  unfold words
  rw [List.splitOnP_append_cons a b hc, List.filter_append]

theorem words_blanks_append {blanks : Text} (h : ∀ c ∈ blanks, isBlank c = true) (s : Text) :
    words (blanks ++ s) = words s := by
  induction blanks with
  | nil => rfl
  | cons c blanks ih =>
    have := words_append (h c (by simp)) [] (blanks ++ s)
    rw [List.nil_append] at this
    rw [List.cons_append, this, ih fun d hd => h d (by simp [hd])]
    rfl

theorem words_of_forall {s : Text} (hne : s ≠ []) (h : ∀ c ∈ s, isBlank c = false) : words s = [s] := by
  unfold words
  rw [List.splitOnP_eq_singleton h]
  simp [hne]

theorem exists_words_cons {c : Char} (hc : isBlank c = false) (s : Text) : ∃ w ws, words (c :: s) = (c :: w) :: ws := by
  obtain ⟨piece, pieces, hpieces⟩ := List.exists_cons_of_ne_nil (List.splitOnP_ne_nil isBlank s)
  refine ⟨piece, pieces.filter (!·.isEmpty), ?_⟩
  rw [words, List.splitOnP_cons_eq_if_modifyHead, hc, if_neg Bool.false_ne_true, hpieces]
  rfl

end TrackerAudit.Text
