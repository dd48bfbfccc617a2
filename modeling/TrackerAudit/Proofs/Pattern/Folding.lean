import TrackerAudit.Proofs.Host.Keys
import TrackerAudit.Proofs.Pattern.Meaning

/-!
# Patterns that ignore case

Texts that fold to the same characters, one by one, are not told apart by any part of a pattern that ignores case
(`PatternPart.takes_of_foldAlike`). Literals and the kinds of characters look at the folded characters only, and the
characters at which the other parts start or stop are ASCII but no letters, so they fold like no other. With its parts,
the pattern matches either both texts or none (`Pattern.isMatch_eq_of_foldAlike`).
-/

namespace TrackerAudit

open Text

namespace Unicode

/-- The texts have the same length, and fold alike character by character. -/
def FoldAlike (s t : Text) : Prop := s.map fold = t.map fold

instance (s t : Text) : Decidable (FoldAlike s t) := inferInstanceAs (Decidable (_ = _))

/-- An ASCII character that is no letter folds like no other. -/
theorem eq_of_fold_eq {c d : Char} (hc : c.toNat < 128) (ha : c.isAlpha = false) (h : fold d = fold c) : d = c := by
  cases hd : isStray d with
  | false =>
    have hlow := (fold_eq_fold_iff hc hd).1 h
    rw [toLower_eq_self ha] at hlow
    exact (toLower_eq_iff ha).1 hlow
  | true =>
    -- the strays fold to letters
    rw [fold_of_ascii hc, toLower_eq_self ha] at h
    simp only [isStray, Bool.or_eq_true, beq_iff_eq] at hd
    rcases hd with rfl | rfl
    · have hfold : fold '\u017F' = 's' := by decide +kernel
      rw [← h, hfold] at ha
      cases ha
    · have hfold : fold '\u212A' = 'k' := by decide +kernel
      rw [← h, hfold] at ha
      cases ha

namespace FoldAlike

variable {s t a b : Text} {c : Char}

theorem symm (h : FoldAlike s t) : FoldAlike t s := Eq.symm h

theorem eq_nil (h : FoldAlike [] t) : t = [] := by
  simpa [FoldAlike, eq_comm] using h

theorem append {u v : Text} (hs : FoldAlike a s) (ht : FoldAlike u v) : FoldAlike (a ++ u) (s ++ v) := by
  rw [FoldAlike, List.map_append, List.map_append, hs, ht]

theorem exists_append (h : FoldAlike (a ++ b) t) : ∃ u v, t = u ++ v ∧ FoldAlike a u ∧ FoldAlike b v := by
  rw [FoldAlike, List.map_append, eq_comm, List.map_eq_append_iff] at h
  obtain ⟨u, v, rfl, hu, hv⟩ := h
  exact ⟨u, v, rfl, hu.symm, hv.symm⟩

theorem exists_cons (h : FoldAlike (c :: s) t) : ∃ d u, t = d :: u ∧ fold d = fold c ∧ FoldAlike s u := by
  rw [FoldAlike, List.map_cons, eq_comm, List.map_eq_cons_iff] at h
  obtain ⟨d, u, rfl, hd, hu⟩ := h
  exact ⟨d, u, rfl, hd, hu.symm⟩

theorem exists_mem {d : Char} (h : FoldAlike s t) (hd : d ∈ t) : ∃ c ∈ s, fold d = fold c := by
  have hmem : fold d ∈ s.map fold := h ▸ List.mem_map_of_mem hd
  obtain ⟨c, hc, hfold⟩ := List.mem_map.1 hmem
  exact ⟨c, hc, hfold.symm⟩

/-- ASCII characters that are no letters stand at the same places of both texts. -/
theorem eq_of_ascii (h : FoldAlike s t) (hs : ∀ c ∈ s, c.toNat < 128 ∧ c.isAlpha = false) : t = s := by
  induction s generalizing t with
  | nil => exact h.eq_nil
  | cons c s ih =>
    obtain ⟨d, u, rfl, hd, hu⟩ := h.exists_cons
    have hc := hs c (by simp)
    rw [eq_of_fold_eq hc.1 hc.2 hd, ih hu fun x hx => hs x (by simp [hx])]

end FoldAlike

end Unicode

open Unicode

theorem countsAs_iff_fold {c d : Char} : CountsAs true c d ↔ fold d = fold c := by
  constructor
  · rintro (rfl | ⟨-, h⟩)
    · rfl
    · exact h
  · exact fun h => Or.inr ⟨rfl, h⟩

theorem forall₂_countsAs_iff_foldAlike {text taken : Text} :
    List.Forall₂ (CountsAs true) text taken ↔ FoldAlike text taken := by
  induction text generalizing taken with
  | nil => simp [FoldAlike, eq_comm]
  | cons c text ih =>
    cases taken with
    | nil => simp [FoldAlike]
    | cons d taken =>
      rw [List.forall₂_cons, ih, countsAs_iff_fold, FoldAlike, FoldAlike, List.map_cons, List.map_cons, List.cons.injEq,
        eq_comm]

theorem CountsAsOne.of_fold_eq {kind : Char → Bool} {c d : Char} (h : CountsAsOne true kind c) (hd : fold d = fold c) :
    CountsAsOne true kind d := by
  obtain ⟨e, he, hc⟩ := h
  exact ⟨e, he, countsAs_iff_fold.2 (hd.trans (countsAs_iff_fold.1 hc))⟩

namespace PatternPart

open Regex

variable {taken taken' rest rest' : Text} {prev prev' : Option Char}

theorem IsSchemeMark.of_foldAlike (h : IsSchemeMark true taken) (hfold : FoldAlike taken taken') :
    IsSchemeMark true taken' := by
  obtain ⟨c, name, slashes, rfl, hc, hname, hslashes⟩ := h
  obtain ⟨d, _, rfl, hd, hfold⟩ := hfold.exists_cons
  obtain ⟨name', _, rfl, hname', hfold⟩ := hfold.exists_append
  -- the colon and the slashes stay as they are
  have hrigid : ∀ c ∈ ':' :: slashes, c.toNat < 128 ∧ c.isAlpha = false := by
    rcases hslashes with rfl | rfl <;> simp
  obtain rfl := hfold.eq_of_ascii hrigid
  refine ⟨d, name', slashes, rfl, hc.of_fold_eq hd, fun x hx => ?_, hslashes⟩
  obtain ⟨y, hy, hxy⟩ := hname'.exists_mem hx
  exact (hname y hy).of_fold_eq hxy

theorem IsLabels.of_foldAlike (h : IsLabels taken) (hfold : FoldAlike taken taken') : IsLabels taken' := by
  obtain ⟨run, rfl, hrun⟩ := h
  obtain ⟨run', _, rfl, hrun', hdot⟩ := hfold.exists_append
  obtain rfl := hdot.eq_of_ascii (by simp)
  refine ⟨run', rfl, fun c hc => ?_⟩
  rw [Bool.eq_false_iff]
  intro hend
  have hrigid := Host.ascii_of_endsAuthority hend
  obtain ⟨d, hd, hcd⟩ := hrun'.exists_mem hc
  rw [eq_of_fold_eq hrigid.1 hrigid.2 hcd.symm] at hd
  rw [hrun c hd] at hend
  cases hend

/-- A part that ignores case takes any text that folds like one it takes. -/
theorem takes_of_foldAlike {part : PatternPart} (h : part.Takes true prev taken rest) (hprev : prev = none → prev' = none)
    (htaken : FoldAlike taken taken') (hrest : FoldAlike rest rest') : part.Takes true prev' taken' rest' := by
  cases part with
  | literal text =>
    rw [Takes, forall₂_countsAs_iff_foldAlike] at h ⊢
    exact Eq.trans h htaken
  | wildcard =>
    intro hn
    obtain ⟨c, hc, hfold⟩ := htaken.exists_mem hn
    rw [eq_of_fold_eq (by decide) (by decide) hfold.symm] at hc
    exact h hc
  | separator =>
    rcases h with ⟨c, rfl, hc⟩ | ⟨rfl, rfl⟩
    · obtain ⟨d, u, rfl, hd, hu⟩ := htaken.exists_cons
      obtain rfl := hu.eq_nil
      exact Or.inl ⟨d, rfl, fun hword => hc (hword.of_fold_eq hd.symm)⟩
    · exact Or.inr ⟨htaken.eq_nil, hrest.eq_nil⟩
  | requestStart =>
    obtain ⟨hnone, rfl⟩ := h
    exact ⟨hprev hnone, htaken.eq_nil⟩
  | requestEnd =>
    obtain ⟨rfl, rfl⟩ := h
    exact ⟨htaken.eq_nil, hrest.eq_nil⟩
  | hostAnchor =>
    obtain ⟨hnone, scheme, labels, rfl, hscheme, hlabels⟩ := h
    obtain ⟨scheme', labels', rfl, hs, hl⟩ := htaken.exists_append
    refine ⟨hprev hnone, scheme', labels', rfl, ?_, ?_⟩
    · rcases hscheme with rfl | hscheme
      · exact Or.inl hs.eq_nil
      · exact Or.inr (hscheme.of_foldAlike hs)
    · rcases hlabels with rfl | hlabels
      · exact Or.inl hl.eq_nil
      · exact Or.inr (hlabels.of_foldAlike hl)

/-- What parts that ignore case take one after another, they take in any text that folds alike. -/
theorem takeAll_of_foldAlike {parts : List PatternPart} (h : TakeAll true parts prev taken rest)
    (hprev : prev = none → prev' = none) (htaken : FoldAlike taken taken') (hrest : FoldAlike rest rest') :
    TakeAll true parts prev' taken' rest' := by
  induction parts generalizing prev prev' taken taken' with
  | nil =>
    obtain rfl : taken = [] := h
    exact htaken.eq_nil
  | cons part parts ih =>
    obtain ⟨u, v, rfl, hu, hv⟩ := h
    obtain ⟨u', v', rfl, hfoldu, hfoldv⟩ := htaken.exists_append
    refine ⟨u', v', rfl, takes_of_foldAlike hu hprev hfoldu (hfoldv.append hrest), ih hv ?_ hfoldv⟩
    intro hnone
    cases hlast : u.getLast? with
    | none =>
      obtain rfl := List.getLast?_eq_none_iff.1 hlast
      rw [hfoldu.eq_nil, prevAfter_nil]
      exact hprev hnone
    | some c =>
      rw [prevAfter, hlast] at hnone
      cases hnone

end PatternPart

/-- A pattern that ignores case matches two texts that fold alike, or none of them. -/
theorem Pattern.isMatch_eq_of_foldAlike {parts : List PatternPart} {p : Pattern} (h : Pattern.ofParts parts false = .ok p)
    {s t : Text} (hfold : FoldAlike s t) : p.isMatch s = p.isMatch t := by
  have hmatch {s t : Text} (hfold : FoldAlike s t) (hs : p.isMatch s = true) : p.isMatch t = true := by
    obtain ⟨before, taken, rest, rfl, hparts⟩ := (Pattern.isMatch_ofParts h s).1 hs
    obtain ⟨_, rest', rfl, hfold, hrest⟩ := hfold.exists_append
    obtain ⟨before', taken', rfl, hbefore, htaken⟩ := hfold.exists_append
    refine (Pattern.isMatch_ofParts h _).2 ⟨before', taken', rest', rfl, ?_⟩
    refine PatternPart.takeAll_of_foldAlike hparts (fun hnone => ?_) htaken hrest
    obtain rfl := List.getLast?_eq_none_iff.1 hnone
    rw [hbefore.eq_nil, List.getLast?_nil]
  rw [Bool.eq_iff_iff]
  exact ⟨hmatch hfold, hmatch hfold.symm⟩

end TrackerAudit
