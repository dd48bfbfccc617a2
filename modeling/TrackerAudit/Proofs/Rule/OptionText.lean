import TrackerAudit.Proofs.Rule.DomainEntry

/-!
# The options on a line

What follows the last `$` of a line and looks like options has a bearing on the rule only through what the options say:
whether the line is a comment, a rule about page elements, an exception or a line of a hosts file is settled by what stands
before (`isIgnored_options`, `cutException_options`, `hostsFileDomain?_options`). So two lines that differ in options which
say the same read as the same rule (`Rule.read_congr_options`).
-/

namespace TrackerAudit

open Text

namespace Text

/-! ### Parts of a text -/

theorem includes_iff {part s : Text} : includes part s = true ↔ ∃ a b, s = a ++ (part ++ b) := by
  induction s with
  | nil =>
    rw [includes, List.isEmpty_iff]
    constructor
    · rintro rfl
      exact ⟨[], [], rfl⟩
    · rintro ⟨a, b, h⟩
      exact (List.append_eq_nil_iff.1 (List.append_eq_nil_iff.1 h.symm).2).1
  | cons c s ih =>
    have hstart : (cutStart? part (c :: s)).isSome = true ↔ ∃ b, c :: s = part ++ b := by
      simp only [Option.isSome_iff_exists, cutStart?_eq_some]
    rw [includes, Bool.or_eq_true, hstart, ih]
    constructor
    · rintro (⟨b, hb⟩ | ⟨a, b, rfl⟩)
      · exact ⟨[], b, hb⟩
      · exact ⟨c :: a, b, rfl⟩
    · rintro ⟨a, b, h⟩
      cases a with
      | nil => exact Or.inl ⟨b, h⟩
      | cons d a => exact Or.inr ⟨a, b, (List.cons.inj h).2⟩

/-- What ends in a character that the rest does not have occurs only before the rest. -/
theorem includes_append_of_not_mem {part a b : Text} {c : Char} (hlast : part.getLast? = some c) (hc : c ∉ b) :
    includes part (a ++ b) = includes part a := by
  obtain ⟨init, rfl⟩ := List.getLast?_eq_some_iff.1 hlast
  rw [Bool.eq_iff_iff, includes_iff, includes_iff]
  constructor
  · rintro ⟨x, y, h⟩
    have hcut : a ++ b = (x ++ init) ++ c :: y := by simpa using h
    rcases List.append_eq_append_iff.1 hcut with ⟨z, -, hb⟩ | ⟨z, ha, hz⟩
    · exact absurd (by simp [hb]) hc
    · cases z with
      | nil =>
        rw [List.nil_append] at hz
        exact absurd (hz ▸ List.mem_cons_self) hc
      | cons d z =>
        obtain ⟨rfl, -⟩ := List.cons.inj hz
        exact ⟨x, z, by simp [ha]⟩
  · rintro ⟨x, y, rfl⟩
    exact ⟨x, y ++ b, by simp⟩

/-- Looking at the start for a text without the character where the rest begins. -/
theorem cutStart?_append_cons {lead : Text} {c : Char} (hc : c ∉ lead) (a b : Text) :
    cutStart? lead (a ++ c :: b) = (cutStart? lead a).map (· ++ c :: b) := by
  induction lead generalizing a with
  | nil => rfl
  | cons d lead ih =>
    have hd : d ≠ c := fun h => hc (by simp [h])
    cases a with
    | nil => simp [cutStart?, hd]
    | cons e a =>
      rw [List.cons_append, cutStart?, cutStart?, ih (fun h => hc (by simp [h]))]
      split <;> rfl

theorem trimStart_append_cons {c : Char} (hc : isBlank c = false) (a b : Text) :
    trimStart (a ++ c :: b) = trimStart a ++ c :: b :=
  dropWhile_append_of_head? (by simpa using hc)

end Text

/-! ### Lists of options -/

theorem looksLikeOptions_lower (s : Text) : looksLikeOptions (lower s) = looksLikeOptions s := by
  have hhead : CaseBlind fun c => isAlnum c || c == '~' := caseBlind_of_ascii (by decide)
  have hchars : CaseBlind fun c => isAlnum c || "~=,|._-*/:".toList.contains c := caseBlind_of_ascii (by decide)
  rw [looksLikeOptions, looksLikeOptions, lower, List.all_map, hchars.comp]
  cases s with
  | nil => rfl
  | cons c s => exact congrArg (· && _) (hhead c)

theorem looksLikeOptions_append {a b : Text} (ha : looksLikeOptions a = true) (hb : looksLikeOptions b = true) :
    looksLikeOptions (a ++ ',' :: b) = true := by
  rw [looksLikeOptions, Bool.and_eq_true] at ha hb ⊢
  have hcomma : (isAlnum ',' || "~=,|._-*/:".toList.contains ',') = true := by decide
  refine ⟨?_, by rw [List.all_append, List.all_cons, ha.2, hb.2, hcomma]; rfl⟩
  cases a with
  | nil => cases ha.1
  | cons c a => exact ha.1

theorem looksLikeOptions_join {texts : List Text} (hne : texts ≠ []) (h : ∀ t ∈ texts, looksLikeOptions t = true) :
    looksLikeOptions (join [','] texts) = true := by
  induction texts with
  | nil => exact absurd rfl hne
  | cons t texts ih =>
    have ht : looksLikeOptions t = true := h t (by simp)
    cases texts with
    | nil => exact ht
    | cons u texts =>
      rw [join_cons_cons, List.append_assoc]
      exact looksLikeOptions_append ht (ih (by simp) fun t' ht' => h t' (List.mem_cons_of_mem _ ht'))

/-! ### Options and the rest of the line -/

section

variable {options : Text} (h : looksLikeOptions options = true)

include h

theorem chars_of_looksLikeOptions :
    ∀ c ∈ options, (isAlnum c || "~=,|._-*/:".toList.contains c) = true := by
  rw [looksLikeOptions, Bool.and_eq_true, List.all_eq_true] at h
  exact h.2

theorem isBlank_of_looksLikeOptions : ∀ c ∈ options, isBlank c = false := by
  intro c hc
  have hchar := chars_of_looksLikeOptions h c hc
  simp only [String.reduceToList, Bool.or_eq_true, List.contains_iff_mem, List.mem_cons, List.not_mem_nil,
    or_false] at hchar
  rcases hchar with hchar | rfl | rfl | rfl | rfl | rfl | rfl | rfl | rfl | rfl | rfl
  · exact isBlank_of_isNameChar (by simp [Host.isNameChar, hchar])
  all_goals rfl

theorem not_mem_of_looksLikeOptions {c : Char} (hc : (isAlnum c || "~=,|._-*/:".toList.contains c) = false) :
    c ∉ options := by
  intro hmem
  rw [chars_of_looksLikeOptions h c hmem] at hc
  cases hc

variable (pattern : Text)

theorem trim_options : trim (pattern ++ '$' :: options) = trimStart pattern ++ '$' :: options := by
  have hend : ∀ c ∈ ('$' :: options).getLast?, isBlank c = false := by
    intro c hc
    rcases List.mem_cons.1 (List.mem_of_mem_getLast? hc) with rfl | hc
    · decide
    · exact isBlank_of_looksLikeOptions h c hc
  have hstart := trimStart_append_cons (c := '$') (by decide) pattern options
  rw [trim, trimBy, ← trimStart, hstart]
  exact dropEnd_append hend (by simp)

/-- A mark of rules about page elements ends in a character that options do not have. -/
theorem isIgnored_options : isIgnored (pattern ++ '$' :: options) = (isComment pattern || isElementRule pattern) := by
  have hmarks : ∀ mark ∈ elementMarks, mark.getLast? = some '#' := by decide
  have hhash : '#' ∉ '$' :: options := by
    have := not_mem_of_looksLikeOptions h (c := '#') (by decide)
    simpa using this
  have helement : isElementRule (pattern ++ '$' :: options) = isElementRule pattern := by
    rw [isElementRule, isElementRule, Bool.eq_iff_iff, List.any_eq_true, List.any_eq_true]
    refine exists_congr fun mark => and_congr_right fun hmark => ?_
    rw [includes_append_of_not_mem (hmarks mark hmark) hhash]
  have hcomment : isComment (pattern ++ '$' :: options) = isComment pattern := by
    cases pattern <;> rfl
  have hempty : (pattern ++ '$' :: options).isEmpty = false := by cases pattern <;> rfl
  rw [isIgnored, helement, hcomment, hempty, Bool.false_or]

omit h in
theorem cutException_options : cutException (pattern ++ '$' :: options) =
    ((cutException pattern).1, (cutException pattern).2 ++ '$' :: options) := by
  unfold cutException
  rw [cutStart?_append_cons (by simp)]
  cases cutStart? "@@".toList pattern with
  | none => rfl
  | some rest => exact congrArg (Prod.mk true) (trimStart_append_cons (by decide) rest options)

/-- The word that ends with the options is no domain, so the domain of a hosts file stands before it. -/
theorem hostsFileDomain?_options {options' : Text} (h' : looksLikeOptions options' = true) :
    hostsFileDomain? (pattern ++ '$' :: options) = hostsFileDomain? (pattern ++ '$' :: options') := by
  obtain ⟨a, run, rfl, hrun, ha⟩ := exists_last_run isBlank pattern
  have hwords {t : Text} (ht : looksLikeOptions t = true) :
      words (a ++ run ++ '$' :: t) = words a ++ [run ++ '$' :: t] := by
    have hword : ∀ c ∈ run ++ '$' :: t, isBlank c = false := by
      intro c hc
      rcases List.mem_append.1 hc with hc | hc
      · exact hrun c hc
      · rcases List.mem_cons.1 hc with rfl | hc
        · decide
        · exact isBlank_of_looksLikeOptions ht c hc
    rcases List.eq_nil_or_concat' a with rfl | ⟨a, c, rfl⟩
    · exact words_of_forall (by simp) hword
    · have hc := ha c (by simp)
      have hlast : words (a ++ [c]) = words a := by
        rw [words_append hc a []]
        exact List.append_nil _
      rw [List.append_assoc, List.append_assoc, List.singleton_append, words_append hc, words_of_forall (by simp) hword,
        hlast]
  have hnone (t : Text) : normalDomain? (run ++ '$' :: t) = none :=
    normalDomain?_eq_none (c := '$') (by simp) (by decide) (by decide)
  rw [hostsFileDomain?, hostsFileDomain?, hwords h, hwords h']
  rcases words a with _ | ⟨address, _ | ⟨domain, rest⟩⟩
  · rfl
  · simp [hnone]
  · rfl

theorem splitOptions_options : splitOptions (pattern ++ '$' :: options) = (pattern, some options) := by
  have hcut : cutLast? '$' (pattern ++ '$' :: options) = some (pattern, options) :=
    cutLast?_eq_some.2 ⟨rfl, not_mem_of_looksLikeOptions h (by decide)⟩
  rw [splitOptions, hcut]
  simp [h]

end

/-- Two lines that differ only in their options, which say the same, read as the same rule. -/
theorem Rule.read_congr_options {options options' : Text} (h : looksLikeOptions options = true)
    (h' : looksLikeOptions options' = true) (hread : RuleOptions.read options = RuleOptions.read options')
    (pattern : Text) (source : SourceList) (number : Nat) :
    Rule.read (pattern ++ '$' :: options) source number = Rule.read (pattern ++ '$' :: options') source number := by
  have hline (c : RuleContext) (line : Text) :
      c.lineRule (line ++ '$' :: options) = c.lineRule (line ++ '$' :: options') := by
    rw [RuleContext.lineRule, RuleContext.lineRule, hostsFileDomain?_options h line h', RuleContext.patternRule_eq,
      RuleContext.patternRule_eq, splitOptions_options h, splitOptions_options h', RuleContext.optionsOf,
      RuleContext.optionsOf, hread]
  rw [Rule.read_eq, Rule.read_eq, trim_options h, trim_options h', isIgnored_options h, isIgnored_options h',
    cutException_options, cutException_options, hline]

end TrackerAudit
