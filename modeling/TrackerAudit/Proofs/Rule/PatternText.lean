import Mathlib.Data.List.Chain
import Mathlib.Data.List.Infix
import TrackerAudit.Proofs.Text.Cutting
import TrackerAudit.Rule.Line

/-!
# The text of a pattern

The parts of a pattern, written one after another, are its text again with one star for each run of stars. The text
between the anchors is divided into literals, wildcards and separators, as few as possible (`flatMap_text_bodyParts`,
`isChain_bodyParts`), and the anchors stand around them (`PatternText.exists_frame`). So a pattern is refused exactly if
nothing or a bar remains between its anchors, and all others are read without a loss (`PatternText.read_isWritten_iff`).
-/

namespace TrackerAudit

open Text

/-- A part as it is written in a pattern. -/
def PatternPart.text : PatternPart → Text
  | literal text => text
  | wildcard => ['*']
  | separator => ['^']
  | requestStart => ['|']
  | requestEnd => ['|']
  | hostAnchor => "||".toList

/-- One part may stand right before another: two literals, or two wildcards, would be one part. -/
def PatternPart.MayPrecede : PatternPart → PatternPart → Prop
  | literal _, literal _ => False
  | wildcard, wildcard => False
  | _, _ => True

/-- The part is an anchor. -/
def PatternPart.isAnchor : PatternPart → Bool
  | requestStart | requestEnd | hostAnchor => true
  | _ => false

/-- The text with one star for each run of stars. -/
def singleStars : Text → Text
  | [] => []
  | c :: s => if c = '*' ∧ s.head? = some '*' then singleStars s else c :: singleStars s

/-- What remains of a pattern without a leading `||`, or else `|`, and a trailing `|`. -/
def withoutAnchors (s : Text) : Text :=
  let rest := if "||".toList <+: s then s.drop 2 else if ['|'] <+: s then s.drop 1 else s
  if ['|'] <:+ rest then rest.dropLast else rest

theorem PatternPart.mayPrecede_of_isAnchor_left {a : PatternPart} (h : a.isAnchor = true) (b : PatternPart) :
    a.MayPrecede b := by
  cases a with
  | literal t => cases h
  | wildcard => cases h
  | separator => cases h
  | _ => exact trivial

theorem PatternPart.mayPrecede_of_isAnchor_right (a : PatternPart) {b : PatternPart} (h : b.isAnchor = true) :
    a.MayPrecede b := by
  cases b with
  | literal t => cases h
  | wildcard => cases h
  | separator => cases h
  | _ => cases a <;> exact trivial

/-! ### Runs of stars -/

theorem singleStars_cons {c : Char} (hc : c ≠ '*') (s : Text) : singleStars (c :: s) = c :: singleStars s :=
  if_neg fun h => hc h.1

theorem singleStars_append {b : Text} (hb : b.head? ≠ some '*') (a : Text) :
    singleStars (a ++ b) = singleStars a ++ singleStars b := by
  induction a with
  | nil => rfl
  | cons c a ih =>
    have hhead : (a ++ b).head? = some '*' ↔ a.head? = some '*' := by
      cases a with
      | nil => simpa using hb
      | cons d a => rfl
    simp only [List.cons_append, singleStars, hhead, ih]
    split
    · rfl
    · rfl

/-! ### The parts between the anchors -/

section

variable {s : Text} {a : PatternPart} {t : Text}

theorem head?_bodyParts_eq_wildcard_iff : (bodyParts s).head? = some .wildcard ↔ s.head? = some '*' := by
  fun_cases bodyParts s with
  | case1 => simp
  | case2 s rest hrest => simp
  | case3 s hrest => simp
  | case4 s => simp
  | case5 c s hstar hsep t rest hrest => simpa using hstar
  | case6 c s hstar hsep hrest => simpa using hstar

/-- The parts, as they are written, are the text with one star for each run of stars. -/
theorem flatMap_text_bodyParts (s : Text) : (bodyParts s).flatMap PatternPart.text = singleStars s := by
  fun_induction bodyParts s with
  | case1 => rfl
  | case2 s rest hrest ih =>
    have hstar : s.head? = some '*' := by
      rw [← head?_bodyParts_eq_wildcard_iff, hrest]
      rfl
    rw [← hrest, ih, singleStars, if_pos ⟨rfl, hstar⟩]
  | case3 s hrest ih =>
    have hstar : s.head? ≠ some '*' := by
      rw [ne_eq, ← head?_bodyParts_eq_wildcard_iff, List.head?_eq_some_iff]
      rintro ⟨rest, h⟩
      exact hrest rest h
    rw [singleStars, if_neg fun h => hstar h.2, ← ih]
    rfl
  | case4 s ih =>
    rw [singleStars_cons (by decide), ← ih]
    rfl
  | case5 c s hstar hsep t rest hrest ih =>
    rw [singleStars_cons hstar, ← ih, hrest]
    rfl
  | case6 c s hstar hsep hrest ih =>
    rw [singleStars_cons hstar, ← ih]
    rfl

theorem isChain_bodyParts (s : Text) : (bodyParts s).IsChain PatternPart.MayPrecede := by
  fun_induction bodyParts s with
  | case1 => exact .nil
  | case2 s rest hrest ih => rwa [← hrest]
  | case3 s hrest ih =>
    refine List.isChain_cons.2 ⟨?_, ih⟩
    intro b hb
    obtain ⟨rest, h⟩ := List.head?_eq_some_iff.1 hb
    cases b with
    | wildcard => exact hrest rest h
    | _ => trivial
  | case4 s ih => exact List.isChain_cons.2 ⟨fun b _ => trivial, ih⟩
  | case5 c s hstar hsep t rest hrest ih =>
    rw [hrest, List.isChain_cons] at ih
    -- the longer literal has the neighbours of the shorter one
    refine List.isChain_cons.2 ⟨?_, ih.2⟩
    intro b hb
    have := ih.1 b hb
    cases b with
    | literal t' => exact this
    | _ => trivial
  | case6 c s hstar hsep hrest ih =>
    refine List.isChain_cons.2 ⟨?_, ih⟩
    intro b hb
    obtain ⟨rest, h⟩ := List.head?_eq_some_iff.1 hb
    cases b with
    | literal t => exact hrest t rest h
    | _ => trivial

/-- What wildcards and separators have, and literals of characters of the text, all parts have. -/
theorem forall_mem_bodyParts {P : PatternPart → Prop} (hwildcard : P .wildcard) (hseparator : P .separator)
    (hone : ∀ c ∈ s, c ≠ '*' → c ≠ '^' → P (.literal [c]))
    (hmore : ∀ c ∈ s, c ≠ '*' → c ≠ '^' → ∀ t, P (.literal t) → P (.literal (c :: t))) : ∀ a ∈ bodyParts s, P a := by
  fun_induction bodyParts s with
  | case1 => exact List.forall_mem_nil P
  | case2 s rest hrest ih =>
    rw [← hrest]
    exact ih (fun c hc => hone c (by simp [hc])) fun c hc => hmore c (by simp [hc])
  | case3 s hrest ih =>
    refine List.forall_mem_cons.2 ⟨hwildcard, ?_⟩
    exact ih (fun c hc => hone c (by simp [hc])) fun c hc => hmore c (by simp [hc])
  | case4 s ih =>
    refine List.forall_mem_cons.2 ⟨hseparator, ?_⟩
    exact ih (fun c hc => hone c (by simp [hc])) fun c hc => hmore c (by simp [hc])
  | case5 c s hstar hsep t rest hrest ih =>
    have hs := ih (fun c hc => hone c (by simp [hc])) fun c hc => hmore c (by simp [hc])
    rw [hrest, List.forall_mem_cons] at hs
    exact List.forall_mem_cons.2 ⟨hmore c (by simp) hstar hsep t hs.1, hs.2⟩
  | case6 c s hstar hsep hrest ih =>
    refine List.forall_mem_cons.2 ⟨hone c (by simp) hstar hsep, ?_⟩
    exact ih (fun c hc => hone c (by simp [hc])) fun c hc => hmore c (by simp [hc])

theorem isAnchor_of_mem_bodyParts (h : a ∈ bodyParts s) : a.isAnchor = false :=
  forall_mem_bodyParts (P := fun a => a.isAnchor = false) rfl rfl (fun _ _ _ _ => rfl) (fun _ _ _ _ _ _ => rfl) a h

/-- A literal is not empty, and has characters of the text, without stars and separators. -/
theorem of_literal_mem_bodyParts (h : .literal t ∈ bodyParts s) : t ≠ [] ∧ ∀ c ∈ t, c ∈ s ∧ c ≠ '*' ∧ c ≠ '^' := by
  let P (a : PatternPart) : Prop := ∀ t, a = .literal t → t ≠ [] ∧ ∀ c ∈ t, c ∈ s ∧ c ≠ '*' ∧ c ≠ '^'
  have hone : ∀ c ∈ s, c ≠ '*' → c ≠ '^' → P (.literal [c]) := by
    rintro c hc hstar hsep _ ⟨⟩
    simp [hc, hstar, hsep]
  have hmore : ∀ c ∈ s, c ≠ '*' → c ≠ '^' → ∀ t, P (.literal t) → P (.literal (c :: t)) := by
    rintro c hc hstar hsep t ht _ ⟨⟩
    exact ⟨List.cons_ne_nil c t, List.forall_mem_cons.2 ⟨⟨hc, hstar, hsep⟩, (ht t rfl).2⟩⟩
  have hall : ∀ a ∈ bodyParts s, P a := forall_mem_bodyParts nofun nofun hone hmore
  exact hall _ h t rfl

end

/-! ### The parts with the anchors -/

namespace PatternText

/-- The parts of a pattern are written as the text, and as few and as plain as they can be. -/
structure IsWritten (p : PatternText) (s : Text) : Prop where
  text : p.parts.flatMap PatternPart.text = singleStars s
  apart : p.parts.IsChain PatternPart.MayPrecede
  literals : ∀ t, .literal t ∈ p.parts → t ≠ [] ∧ ∀ c ∈ t, c ≠ '*' ∧ c ≠ '^' ∧ c ≠ '|'
  inFront : ∀ a ∈ p.parts.tail, a ≠ .hostAnchor ∧ a ≠ .requestStart
  atEnd : ∀ a ∈ p.parts.dropLast, a ≠ .requestEnd
  hostAnchor : p.flags.hostAnchor = true ↔ .hostAnchor ∈ p.parts
  leftAnchor : p.flags.leftAnchor = true ↔ .requestStart ∈ p.parts
  rightAnchor : p.flags.rightAnchor = true ↔ .requestEnd ∈ p.parts

/-- The anchors before and after the other parts of a pattern, with their flags. -/
structure IsFrame (flags : RuleFlags) (before after : List PatternPart) : Prop where
  before_cases : before = [] ∨ before = [.hostAnchor] ∨ before = [.requestStart]
  after_cases : after = [] ∨ after = [.requestEnd]
  flags_eq : flags = {
    hostAnchor := before == [.hostAnchor]
    leftAnchor := before == [.requestStart]
    rightAnchor := after == [.requestEnd] }

private theorem exists_lead (s : Text) : ∃ flags before rest, leadingAnchor s = (flags, before, rest) ∧
    IsFrame flags before [] ∧ s = before.flatMap PatternPart.text ++ rest ∧
      rest = if "||".toList <+: s then s.drop 2 else if ['|'] <+: s then s.drop 1 else s := by
  unfold leadingAnchor
  split
  · rename_i rest
    exact ⟨_, _, rest, rfl, ⟨by simp, by simp, rfl⟩, rfl, by simp⟩
  · rename_i rest hno
    have hrest : rest.head? ≠ some '|' := by
      intro h
      obtain ⟨tail, rfl⟩ := List.head?_eq_some_iff.1 h
      exact hno tail rfl
    have htwo : ¬ "||".toList <+: '|' :: rest := by
      rintro ⟨tail, h⟩
      have := congrArg List.head? (List.cons.inj h).2
      exact hrest this.symm
    refine ⟨_, _, rest, rfl, ⟨by simp, by simp, rfl⟩, rfl, ?_⟩
    rw [if_neg htwo, if_pos ⟨rest, rfl⟩]
    rfl
  · rename_i hno
    have hone : ¬ ['|'] <+: s := by
      rintro ⟨tail, rfl⟩
      exact hno tail rfl
    have htwo : ¬ "||".toList <+: s := fun h => hone (List.IsPrefix.trans ⟨['|'], rfl⟩ h)
    exact ⟨_, _, s, rfl, ⟨by simp, by simp, rfl⟩, rfl, by rw [if_neg htwo, if_neg hone]⟩

theorem exists_frame (s : Text) : ∃ flags before after, IsFrame flags before after ∧
    s = before.flatMap PatternPart.text ++ (withoutAnchors s ++ after.flatMap PatternPart.text) ∧
      read s = if (withoutAnchors s).isEmpty then .error .emptyPattern
        else if (withoutAnchors s).contains '|' then .error .misplacedAnchor
        else .ok ⟨flags, before ++ bodyParts (withoutAnchors s) ++ after⟩ := by
  obtain ⟨flags, before, rest, hlead, hframe, hs, hrest⟩ := exists_lead s
  have hbody : withoutAnchors s = if ['|'] <:+ rest then rest.dropLast else rest := by rw [withoutAnchors, ← hrest]
  unfold read
  rw [hlead]
  cases hcut : cutEnd? ['|'] rest with
  | some body =>
    have hrest' := cutEnd?_eq_some.1 hcut
    have hbody' : withoutAnchors s = body := by
      rw [hbody, if_pos ⟨body, hrest'.symm⟩, hrest', List.dropLast_concat]
    refine ⟨{ flags with rightAnchor := true }, before, [.requestEnd], ⟨hframe.before_cases, Or.inr rfl, ?_⟩, ?_, ?_⟩
    · rw [hframe.flags_eq]
      rfl
    · rw [hbody', hs, hrest']
      rfl
    · rw [hbody']
      dsimp only
      rw [hcut]
  | none =>
    have hnot : ¬ ['|'] <:+ rest := by
      rintro ⟨body, h⟩
      rw [cutEnd?_eq_some.2 h.symm] at hcut
      cases hcut
    have hbody' : withoutAnchors s = rest := by rw [hbody, if_neg hnot]
    refine ⟨flags, before, [], hframe, ?_, ?_⟩
    · rw [hbody', List.flatMap_nil, List.append_nil]
      exact hs
    · rw [hbody']
      dsimp only
      rw [hcut]

namespace IsFrame

variable {flags : RuleFlags} {before after : List PatternPart} (h : IsFrame flags before after) (body : Text)

include h

theorem isAnchor : ∀ a ∈ before ++ after, a.isAnchor = true := by
  obtain ⟨rfl | rfl | rfl, rfl | rfl, -⟩ := h <;> simp [PatternPart.isAnchor]

omit h in
theorem not_mem_bodyParts {a : PatternPart} (ha : a.isAnchor = true) : a ∉ bodyParts body := by
  intro hmem
  rw [isAnchor_of_mem_bodyParts hmem] at ha
  cases ha

theorem flatMap_text : (before ++ bodyParts body ++ after).flatMap PatternPart.text =
    singleStars (before.flatMap PatternPart.text ++ (body ++ after.flatMap PatternPart.text)) := by
  have hleft (t : Text) :
      singleStars (before.flatMap PatternPart.text ++ t) = before.flatMap PatternPart.text ++ singleStars t := by
    rcases h.before_cases with rfl | rfl | rfl <;> rfl
  have hright : singleStars (after.flatMap PatternPart.text) = after.flatMap PatternPart.text ∧
      (after.flatMap PatternPart.text).head? ≠ some '*' := by
    rcases h.after_cases with rfl | rfl <;> exact ⟨rfl, by decide⟩
  rw [hleft, singleStars_append hright.2, hright.1, List.flatMap_append, List.flatMap_append, flatMap_text_bodyParts,
    List.append_assoc]

theorem isChain : (before ++ bodyParts body ++ after).IsChain PatternPart.MayPrecede := by
  have hbefore : before.IsChain PatternPart.MayPrecede := by
    rcases h.before_cases with rfl | rfl | rfl <;> simp
  have hafter : after.IsChain PatternPart.MayPrecede := by
    rcases h.after_cases with rfl | rfl <;> simp
  refine List.isChain_append.2 ⟨List.isChain_append.2 ⟨hbefore, isChain_bodyParts body, ?_⟩, hafter, ?_⟩
  · intro a ha b _
    have := h.isAnchor a (List.mem_append_left _ (List.mem_of_mem_getLast? ha))
    exact PatternPart.mayPrecede_of_isAnchor_left this b
  · intro a _ b hb
    have := h.isAnchor b (List.mem_append_right _ (List.mem_of_mem_head? hb))
    exact PatternPart.mayPrecede_of_isAnchor_right a this

theorem literal_mem {t : Text} (ht : .literal t ∈ before ++ bodyParts body ++ after) : .literal t ∈ bodyParts body := by
  have hno : .literal t ∉ before ++ after := by
    intro hmem
    cases h.isAnchor _ hmem
  simp only [List.mem_append, not_or] at ht hno
  tauto

theorem of_mem_tail {a : PatternPart} (ha : a ∈ (before ++ bodyParts body ++ after).tail) :
    a ≠ .hostAnchor ∧ a ≠ .requestStart := by
  have hmem : a ∈ bodyParts body ++ after := by
    rw [List.append_assoc] at ha
    rcases h.before_cases with rfl | rfl | rfl
    · exact List.mem_of_mem_tail ha
    · exact ha
    · exact ha
  rcases List.mem_append.1 hmem with hmem | hmem
  · exact ⟨fun h => not_mem_bodyParts body rfl (h ▸ hmem), fun h => not_mem_bodyParts body rfl (h ▸ hmem)⟩
  · rcases h.after_cases with rfl | rfl
    · cases hmem
    · obtain rfl := List.mem_singleton.1 hmem
      exact ⟨by decide, by decide⟩

theorem of_mem_dropLast {a : PatternPart} (ha : a ∈ (before ++ bodyParts body ++ after).dropLast) : a ≠ .requestEnd := by
  have hmem : a ∈ before ++ bodyParts body := by
    rcases h.after_cases with rfl | rfl
    · rw [List.append_nil] at ha
      exact List.mem_of_mem_dropLast ha
    · rwa [List.dropLast_concat] at ha
  rintro rfl
  rcases List.mem_append.1 hmem with hmem | hmem
  · rcases h.before_cases with rfl | rfl | rfl <;> simp at hmem
  · exact not_mem_bodyParts body rfl hmem

theorem flags_iff : (flags.hostAnchor = true ↔ .hostAnchor ∈ before ++ bodyParts body ++ after) ∧
    (flags.leftAnchor = true ↔ .requestStart ∈ before ++ bodyParts body ++ after) ∧
      (flags.rightAnchor = true ↔ .requestEnd ∈ before ++ bodyParts body ++ after) := by
  obtain ⟨hbefore, hafter, rfl⟩ := h
  have hmem : ∀ a, a.isAnchor = true → (a ∈ before ++ bodyParts body ++ after ↔ a ∈ before ∨ a ∈ after) := by
    intro a ha
    simp [not_mem_bodyParts body ha]
  rw [hmem _ rfl, hmem _ rfl, hmem _ rfl]
  rcases hbefore with rfl | rfl | rfl <;> rcases hafter with rfl | rfl <;> simp

/-- The parts in their frame are written as the text. -/
theorem isWritten (hbar : '|' ∉ body) : IsWritten ⟨flags, before ++ bodyParts body ++ after⟩
    (before.flatMap PatternPart.text ++ (body ++ after.flatMap PatternPart.text)) where
  text := h.flatMap_text body
  apart := h.isChain body
  literals := by
    intro t ht
    obtain ⟨hne, hchars⟩ := of_literal_mem_bodyParts (h.literal_mem body ht)
    refine ⟨hne, ?_⟩
    intro c hc
    obtain ⟨hmem, hstar, hsep⟩ := hchars c hc
    exact ⟨hstar, hsep, fun heq => hbar (heq ▸ hmem)⟩
  inFront _ := h.of_mem_tail body
  atEnd _ := h.of_mem_dropLast body
  hostAnchor := (h.flags_iff body).1
  leftAnchor := (h.flags_iff body).2.1
  rightAnchor := (h.flags_iff body).2.2

end IsFrame

/-- A pattern is refused as empty exactly if nothing remains between its anchors, and because of a misplaced anchor exactly
if a bar remains; in all other cases, and in no others, its parts are read and are written as the pattern. -/
theorem read_isWritten_iff (s : Text) : (read s = .error .emptyPattern ↔ withoutAnchors s = []) ∧
    (read s = .error .misplacedAnchor ↔ '|' ∈ withoutAnchors s) ∧
      ((∃ p, read s = .ok p ∧ p.IsWritten s) ↔ withoutAnchors s ≠ [] ∧ '|' ∉ withoutAnchors s) := by
  obtain ⟨flags, before, after, hframe, hs, hread⟩ := exists_frame s
  have hwritten := hframe.isWritten (withoutAnchors s)
  rw [← hs] at hwritten
  rw [hread]
  by_cases hempty : withoutAnchors s = []
  · simp [hempty]
  · by_cases hbar : '|' ∈ withoutAnchors s
    · simp [hempty, hbar]
    · simpa [hempty, hbar] using hwritten hbar

end PatternText

end TrackerAudit
