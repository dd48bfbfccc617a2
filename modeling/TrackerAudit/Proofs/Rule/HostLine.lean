import TrackerAudit.Proofs.Host.Address
import TrackerAudit.Proofs.Host.Domain
import TrackerAudit.Proofs.Rule.Number
import TrackerAudit.Proofs.Text.Lines
import TrackerAudit.Proofs.Text.Trimming

/-!
# Lines with a plain host

A line `||domain^`, the same line with the mark of exceptions, and a line of a hosts file all read as the rule for a
domain (`HostLine.read_text`).
-/

namespace TrackerAudit

open Text

/-! ### Ignored lines -/

namespace Text

theorem subset_of_includes {part s : Text} (h : includes part s = true) : ∀ c ∈ part, c ∈ s := by
  induction s with
  | nil =>
    rw [includes, List.isEmpty_iff] at h
    simp [h]
  | cons d s ih =>
    rw [includes, Bool.or_eq_true] at h
    intro c hc
    rcases h with h | h
    · obtain ⟨rest, hrest⟩ := Option.isSome_iff_exists.1 h
      rw [cutStart?_eq_some.1 hrest]
      exact List.mem_append_left _ hc
    · exact List.mem_cons_of_mem _ (ih h c hc)

end Text

/-- A line that neither starts like a comment nor has a `#` is not ignored. -/
theorem isIgnored_eq_false {line : Text} (hne : line ≠ []) (hhead : ∀ c ∈ line.head?, c ≠ '!' ∧ c ≠ '[')
    (hhash : '#' ∉ line) : isIgnored line = false := by
  have hmarks : ∀ mark ∈ elementMarks, '#' ∈ mark := by decide
  have helement : isElementRule line = false := by
    rw [isElementRule, List.any_eq_false]
    exact fun mark hmark h => hhash (subset_of_includes h '#' (hmarks mark hmark))
  have hcomment : isComment line = false := by
    cases line with
    | nil => rfl
    | cons c line =>
      have hc := hhead c rfl
      have hc' : c ≠ '#' := by
        rintro rfl
        exact hhash (by simp)
      simp [isComment, hc, hc']
  simp [isIgnored, hne, hcomment, helement]

theorem Host.FourNumbers.isNameChar_of_mem_text (x : Host.FourNumbers) {c : Char} (hc : c ∈ x.text) :
    Host.isNameChar c = true := by
  rcases x.chars_text c hc with hd | rfl
  · simp [Host.isNameChar, isAlnum, Char.isAlphanum, hd]
  · rfl

theorem isBlank_of_isNameChar {c : Char} (h : Host.isNameChar c = true) : isBlank c = false :=
  Unicode.forall_ascii (p := fun c => Host.isNameChar c = true → isBlank c = false) (by decide) (ascii_of_isNameChar h) h

theorem Host.IsPlain.isBlank {name : Text} (h : Host.IsPlain name) : ∀ c ∈ name, isBlank c = false :=
  fun c hc => isBlank_of_isNameChar (h.chars c hc)

/-- A plain name is normal but for its case. -/
theorem normalDomain?_of_isPlain {name : Text} (h : Host.IsPlain name) : normalDomain? name = some (lower name) := by
  have htrim : trim name = name := trim_of_forall h.isBlank
  have hdots : trimDots name = name := trimBy_of_ends h.head_ne h.last_ne
  have hchars : (name.all fun c => isAlnum c || c == '.' || c == '-') = true := List.all_eq_true.2 h.chars
  unfold normalDomain?
  rw [htrim]
  dsimp only
  rw [hdots, hchars]
  simp [h.nonempty]

/-! ### Lines for a domain -/

section

variable {name : Text} (h : Host.IsPlain name)

include h

private theorem mem_anchored {c : Char} (hc : c ∈ "||".toList ++ name ++ ['^']) :
    c = '|' ∨ Host.isNameChar c = true ∨ c = '^' := by
  simp only [String.reduceToList, List.mem_append, List.mem_cons, List.not_mem_nil, or_false, or_self] at hc
  rcases hc with (hc | hc) | hc
  · exact Or.inl hc
  · exact Or.inr (Or.inl (h.chars c hc))
  · exact Or.inr (Or.inr hc)

private theorem isBlank_anchored : ∀ c ∈ "||".toList ++ name ++ ['^'], isBlank c = false := by
  intro c hc
  rcases mem_anchored h hc with rfl | hc | rfl
  · rfl
  · exact isBlank_of_isNameChar hc
  · rfl

private theorem not_mem_anchored {c : Char} (hbar : c ≠ '|') (hname : Host.isNameChar c = false) (hsep : c ≠ '^') :
    c ∉ "||".toList ++ name ++ ['^'] := by
  intro hc
  rcases mem_anchored h hc with rfl | hc | rfl
  · exact hbar rfl
  · rw [hname] at hc
    cases hc
  · exact hsep rfl

private theorem trim_anchored : trim ("||".toList ++ name ++ ['^']) = "||".toList ++ name ++ ['^'] :=
  trim_of_forall (isBlank_anchored h)

private theorem splitOptions_anchored :
    splitOptions ("||".toList ++ name ++ ['^']) = ("||".toList ++ name ++ ['^'], none) := by
  have hcut : cutLast? '$' ("||".toList ++ name ++ ['^']) = none := by
    cases hcut : cutLast? '$' ("||".toList ++ name ++ ['^']) with
    | none => rfl
    | some lr =>
      have hmem : '$' ∈ "||".toList ++ name ++ ['^'] := by
        rw [(cutLast?_eq_some.1 hcut).1]
        simp
      exact absurd hmem (not_mem_anchored h (by decide) (by decide) (by decide))
  rw [splitOptions, hcut]

theorem RuleContext.lineRule_anchored (c : RuleContext) :
    c.lineRule ("||".toList ++ name ++ ['^']) = c.domainRule name := by
  have hwords : hostsFileDomain? ("||".toList ++ name ++ ['^']) = none := by
    rw [hostsFileDomain?, words_of_forall (by simp) (isBlank_anchored h)]
  have hraw : rawRegex? ("||".toList ++ name ++ ['^']) = none := by
    unfold rawRegex?
    split <;> rfl
  rw [lineRule, hwords, patternRule_eq, splitOptions_anchored h, trim_anchored h]
  change c.ruleOf ("||".toList ++ name ++ ['^']) {} = _
  rw [ruleOf, hraw, PatternText.read_host h.nonempty h.chars]
  rfl

theorem hostsFileDomain?_address (x : Host.FourNumbers) {blanks : Text} (hne : blanks ≠ [])
    (hblanks : ∀ c ∈ blanks, isBlank c = true) : hostsFileDomain? (x.text ++ blanks ++ name) = some (lower name) := by
  have haddress : ∀ c ∈ x.text, isBlank c = false := fun c hc => isBlank_of_isNameChar (x.isNameChar_of_mem_text hc)
  have hwords : words (x.text ++ blanks ++ name) = [x.text, name] := by
    obtain ⟨b, bs, rfl⟩ := List.exists_cons_of_ne_nil hne
    rw [List.append_assoc, List.cons_append, words_append (hblanks b (by simp)), words_of_forall x.text_ne_nil haddress,
      words_blanks_append (fun c hc => hblanks c (by simp [hc])), words_of_forall h.nonempty h.isBlank]
    rfl
  rw [hostsFileDomain?, hwords]
  simp only [x.isAddress_text, if_true]
  exact normalDomain?_of_isPlain h

end

/-- A line of a filter list about one domain. -/
inductive HostLine
  /-- `||domain^` -/
  | block (d : DomainName)
  /-- `@@||domain^` -/
  | exception (d : DomainName)
  /-- an address, spaces or tabs, and the domain -/
  | hostsFile (address : Host.FourNumbers) (blanks : Text) (d : DomainName) (nonempty : blanks ≠ [])
    (isBlanks : ∀ c ∈ blanks, c = ' ' ∨ c = '\t')

namespace HostLine

/-- The line as it is written. -/
def text : HostLine → Text
  | block d => "||".toList ++ d.text ++ ['^']
  | exception d => "@@".toList ++ ("||".toList ++ d.text ++ ['^'])
  | hostsFile address blanks d _ _ => address.text ++ blanks ++ d.text

/-- The domain that the line is about. -/
def domain : HostLine → DomainName
  | block d => d
  | exception d => d
  | hostsFile _ _ d _ _ => d

/-- The line is an exception. -/
def isException : HostLine → Bool
  | exception _ => true
  | _ => false

/-- The domain as it stands in the rule on the line: a hosts file gives it in small letters. -/
def name : HostLine → Text
  | block d => d.text
  | exception d => d.text
  | hostsFile _ _ d _ _ => lower d.text

variable (l : HostLine)

theorem lower_name : lower l.name = lower l.domain.text := by
  cases l with
  | block d => rfl
  | exception d => rfl
  | hostsFile _ _ d _ _ => exact lower_lower d.text

theorem isPlain_name : Host.IsPlain l.name := l.domain.isPlain.of_lower_eq l.lower_name

theorem dot_mem_name : '.' ∈ l.name := by
  have hmem : '.' ∈ lower l.name := by
    rw [lower_name]
    exact List.mem_map.2 ⟨'.', l.domain.dot_mem_text, rfl⟩
  obtain ⟨c, hc, hdot⟩ := List.mem_map.1 hmem
  rwa [(toLower_eq_iff rfl).1 hdot] at hc

private theorem read_of_cut {line rest : Text} {isException : Bool} (htrim : trim line = line)
    (hignored : isIgnored line = false) (hcut : cutException line = (isException, rest)) (source : SourceList)
    (number : Nat) : Rule.read line source number =
      (RuleContext.lineRule ⟨isException, source, number⟩ rest).map some := by
  rw [Rule.read_eq, htrim, hignored, hcut]
  rfl

private theorem cutException_eq_false {line : Text} (h : '@' ∉ line) : cutException line = (false, line) := by
  rw [cutException, cutStart?_eq_none (by simp) h]

private theorem read_block (d : DomainName) (source : SourceList) (number : Nat) :
    Rule.read (block d).text source number = (RuleContext.domainRule ⟨false, source, number⟩ d.text).map some := by
  have hplain := d.isPlain
  have hignored : isIgnored ("||".toList ++ d.text ++ ['^']) = false :=
    isIgnored_eq_false (by simp) (by simp) (not_mem_anchored hplain (by decide) (by decide) (by decide))
  have hcut := cutException_eq_false (not_mem_anchored hplain (c := '@') (by decide) (by decide) (by decide))
  rw [text, read_of_cut (trim_anchored hplain) hignored hcut, RuleContext.lineRule_anchored hplain]

private theorem read_exception (d : DomainName) (source : SourceList) (number : Nat) :
    Rule.read (exception d).text source number = (RuleContext.domainRule ⟨true, source, number⟩ d.text).map some := by
  have hplain := d.isPlain
  have htrim : trim ("@@".toList ++ ("||".toList ++ d.text ++ ['^'])) = "@@".toList ++ ("||".toList ++ d.text ++ ['^']) := by
    refine trim_of_forall fun c hc => ?_
    rcases List.mem_append.1 hc with hc | hc
    · obtain rfl : c = '@' := by simpa using hc
      rfl
    · exact isBlank_anchored hplain c hc
  have hignored : isIgnored ("@@".toList ++ ("||".toList ++ d.text ++ ['^'])) = false := by
    refine isIgnored_eq_false (by simp) (by simp) fun h => ?_
    rcases List.mem_append.1 h with h | h
    · simp at h
    · exact not_mem_anchored hplain (by decide) (by decide) (by decide) h
  have hcut : cutException ("@@".toList ++ ("||".toList ++ d.text ++ ['^'])) = (true, "||".toList ++ d.text ++ ['^']) := rfl
  rw [text, read_of_cut htrim hignored hcut, RuleContext.lineRule_anchored hplain]

section

variable (x : Host.FourNumbers) {blanks : Text} (d : DomainName) (hblanks : ∀ c ∈ blanks, c = ' ' ∨ c = '\t')

include hblanks

private theorem not_mem_hostsFile {c : Char} (hname : Host.isNameChar c = false) (hspace : c ≠ ' ') (htab : c ≠ '\t') :
    c ∉ x.text ++ blanks ++ d.text := by
  have hnot {t : Text} (ht : ∀ c ∈ t, Host.isNameChar c = true) : c ∉ t := by
    intro hc
    rw [ht c hc] at hname
    cases hname
  rw [List.mem_append, List.mem_append]
  rintro ((hc | hc) | hc)
  · exact hnot (fun _ => x.isNameChar_of_mem_text) hc
  · exact (hblanks c hc).elim hspace htab
  · exact hnot d.isPlain.chars hc

private theorem read_hostsFile (hne : blanks ≠ []) (source : SourceList) (number : Nat) :
    Rule.read (hostsFile x blanks d hne hblanks).text source number =
      (RuleContext.domainRule ⟨false, source, number⟩ (lower d.text)).map some := by
  have hplain := d.isPlain
  have htrim : trim (x.text ++ blanks ++ d.text) = x.text ++ blanks ++ d.text := by
    refine trimBy_of_ends (fun c hc => ?_) fun c hc => ?_
    · rw [List.append_assoc, List.head?_append_of_ne_nil _ x.text_ne_nil] at hc
      exact isBlank_of_isNameChar (x.isNameChar_of_mem_text (List.mem_of_mem_head? hc))
    · rw [List.getLast?_append_of_ne_nil _ hplain.nonempty] at hc
      exact hplain.isBlank c (List.mem_of_mem_getLast? hc)
  have hignored : isIgnored (x.text ++ blanks ++ d.text) = false := by
    refine isIgnored_eq_false (by simp [hplain.nonempty]) (fun c hc => ⟨?_, ?_⟩)
      (not_mem_hostsFile x d hblanks (by decide) (by decide) (by decide))
    · rintro rfl
      exact not_mem_hostsFile x d hblanks (by decide) (by decide) (by decide) (List.mem_of_mem_head? hc)
    · rintro rfl
      exact not_mem_hostsFile x d hblanks (by decide) (by decide) (by decide) (List.mem_of_mem_head? hc)
  have hcut := cutException_eq_false (not_mem_hostsFile x d hblanks (c := '@') (by decide) (by decide) (by decide))
  have hisBlank : ∀ c ∈ blanks, isBlank c = true := by
    intro c hc
    rcases hblanks c hc with rfl | rfl <;> rfl
  rw [text, read_of_cut htrim hignored hcut, RuleContext.lineRule, hostsFileDomain?_address hplain x hne hisBlank]

end

/-- A line about one domain reads as the rule for the domain. -/
theorem read_text (source : SourceList) (number : Nat) : Rule.read l.text source number =
    (RuleContext.domainRule ⟨l.isException, source, number⟩ l.name).map some := by
  cases l with
  | block d => exact read_block d source number
  | exception d => exact read_exception d source number
  | hostsFile x blanks d hne hblanks => exact read_hostsFile x d hblanks hne source number

end HostLine

end TrackerAudit
