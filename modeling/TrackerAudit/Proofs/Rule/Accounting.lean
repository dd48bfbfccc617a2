import TrackerAudit.Proofs.Rule.Number
import TrackerAudit.Proofs.Text.Lines

/-!
# Every line of a list is accounted for

A list whose lines stand after those of another is read as the two lists one after the other, with the numbers of the
second moved on (`FilterList.ofLines_append`). A line gives one rule, one error or nothing on purpose, and putting lists
together keeps each of their lines accounted for under its own number (`FilterList.IsAccounted.append`). So a text may be
cut at the end of any line and read in two parts, and no line is lost or counted twice (`FilterList.read_append`).
-/

namespace TrackerAudit

open Text

/-! ### Moving line numbers -/

/-- The outcome with the number of its line moved on. -/
def LineOutcome.moved (offset : Nat) : LineOutcome → LineOutcome
  | rule r => rule (r.onLine (r.line + offset))
  | ignored => ignored
  | error e => error { e with line := e.line + offset }

theorem Rule.line_of_read {raw : Text} {source : SourceList} {number : Nat} {r : Rule}
    (h : Rule.read raw source number = .ok (some r)) : r.line = number := by
  have hnumber := Rule.read_number raw source number number
  rw [h] at hnumber
  exact congrArg Rule.line (Option.some.inj (Except.ok.inj hnumber))

theorem LineOutcome.read_add (source : SourceList) (line : Text) (number offset : Nat) :
    LineOutcome.read source line (number + offset) = (LineOutcome.read source line number).moved offset := by
  unfold LineOutcome.read
  rw [Rule.read_number line source (number + offset) number]
  cases hread : Rule.read line source number with
  | error fault => rfl
  | ok r? =>
    cases r? with
    | none => rfl
    | some r =>
      have hline := Rule.line_of_read hread
      subst hline
      rfl

namespace FilterList

/-- One list after another: the lines of the second are numbered on from those of the first. -/
def append (a b : FilterList) : FilterList where
  source := a.source
  rules := a.rules ++ b.rules.map fun r => r.onLine (r.line + a.lines)
  errors := a.errors ++ b.errors.map fun e => { e with line := e.line + a.lines }
  ignored := a.ignored + b.ignored
  lines := a.lines + b.lines

/-- The list with the given outcomes of its lines. -/
def ofOutcomes (source : SourceList) (outcomes : List LineOutcome) : FilterList where
  source := source
  rules := outcomes.filterMap LineOutcome.rule?
  errors := outcomes.filterMap LineOutcome.error?
  ignored := outcomes.countP LineOutcome.isIgnored
  lines := outcomes.length

/-- The list with the given lines. -/
def ofLines (source : SourceList) (lines : List Text) : FilterList :=
  ofOutcomes source ((lines.zipIdx 1).map fun x => LineOutcome.read source x.1 x.2)

theorem read_eq (text : Text) (source : SourceList) : read text source = ofLines source (Text.lines text) := rfl

private theorem ofOutcomes_append (source : SourceList) (os ps : List LineOutcome) :
    ofOutcomes source (os ++ ps.map (·.moved os.length)) = (ofOutcomes source os).append (ofOutcomes source ps) := by
  have hrules : (ps.map (·.moved os.length)).filterMap LineOutcome.rule? =
      (ps.filterMap LineOutcome.rule?).map fun r => r.onLine (r.line + os.length) := by
    rw [List.filterMap_map, List.map_filterMap]
    refine List.filterMap_congr fun o _ => ?_
    cases o <;> rfl
  have herrors : (ps.map (·.moved os.length)).filterMap LineOutcome.error? =
      (ps.filterMap LineOutcome.error?).map fun e => { e with line := e.line + os.length } := by
    rw [List.filterMap_map, List.map_filterMap]
    refine List.filterMap_congr fun o _ => ?_
    cases o <;> rfl
  have hignored : (ps.map (·.moved os.length)).countP LineOutcome.isIgnored = ps.countP LineOutcome.isIgnored := by
    rw [List.countP_map]
    refine List.countP_congr fun o _ => ?_
    cases o <;> rfl
  simp only [ofOutcomes, append, List.filterMap_append, List.countP_append, List.length_append, List.length_map, hrules,
    herrors, hignored]

theorem ofLines_append (source : SourceList) (ls ms : List Text) :
    ofLines source (ls ++ ms) = (ofLines source ls).append (ofLines source ms) := by
  have hnumbers : ms.zipIdx (1 + ls.length) = (ms.zipIdx 1).map (Prod.map id (· + ls.length)) := by
    rw [Nat.add_comm, List.map_snd_add_zipIdx_eq_zipIdx]
  have hmoved : (ms.zipIdx (1 + ls.length)).map (fun x => LineOutcome.read source x.1 x.2) =
      ((ms.zipIdx 1).map fun x => LineOutcome.read source x.1 x.2).map (·.moved ls.length) := by
    rw [hnumbers, List.map_map, List.map_map]
    exact List.map_congr_left fun x _ => LineOutcome.read_add source x.1 x.2 ls.length
  have hlength : ((ls.zipIdx 1).map fun x => LineOutcome.read source x.1 x.2).length = ls.length := by simp
  rw [ofLines, List.zipIdx_append, List.map_append, hmoved, ← hlength, ofOutcomes_append]
  rfl

end FilterList

/-! ### Accounting for lines -/

/-- Numbers of some of the first lines, in their order. -/
structure AreLines (count : Nat) (numbers : List Nat) : Prop where
  ascending : numbers.Pairwise (· < ·)
  within : ∀ n ∈ numbers, 1 ≤ n ∧ n ≤ count

section

variable {m n : Nat} {xs ys : List Nat}

/-- The numbers of later lines, moved on, come after those of the lines before them. -/
theorem AreLines.append (hx : AreLines m xs) (hy : AreLines n ys) : AreLines (m + n) (xs ++ ys.map (· + m)) where
  ascending := by
    refine List.pairwise_append.2 ⟨hx.ascending, List.pairwise_map.2 ?_, ?_⟩
    · exact hy.ascending.imp fun h => Nat.add_lt_add_right h m
    · intro x hxs z hz
      obtain ⟨y, hys, rfl⟩ := List.mem_map.1 hz
      have := hx.within x hxs
      have := hy.within y hys
      omega
  within := by
    intro z hz
    rcases List.mem_append.1 hz with hz | hz
    · have := hx.within z hz
      omega
    · obtain ⟨y, hys, rfl⟩ := List.mem_map.1 hz
      have := hy.within y hys
      omega

theorem AreLines.disjoint_append {xs' ys' : List Nat} (hx : AreLines m xs) (hx' : AreLines m xs') (hy : AreLines n ys)
    (hy' : AreLines n ys') (hxx : xs.Disjoint xs') (hyy : ys.Disjoint ys') :
    (xs ++ ys.map (· + m)).Disjoint (xs' ++ ys'.map (· + m)) := by
  intro z hz hz'
  rcases List.mem_append.1 hz with hz | hz <;> rcases List.mem_append.1 hz' with hz' | hz'
  · exact hxx hz hz'
  · obtain ⟨y, hys, rfl⟩ := List.mem_map.1 hz'
    have := hx.within _ hz
    have := hy'.within y hys
    omega
  · obtain ⟨y, hys, rfl⟩ := List.mem_map.1 hz
    have := hx'.within _ hz'
    have := hy.within y hys
    omega
  · obtain ⟨y, hys, rfl⟩ := List.mem_map.1 hz
    obtain ⟨y', hys', heq⟩ := List.mem_map.1 hz'
    obtain rfl : y' = y := by omega
    exact hyy hys hys'

end

namespace FilterList

/-- Each line has a rule, an error or nothing on purpose, under its own number. -/
structure IsAccounted (l : FilterList) : Prop where
  lines_eq : l.rules.length + l.errors.length + l.ignored = l.lines
  rules : AreLines l.lines (l.rules.map Rule.line)
  errors : AreLines l.lines (l.errors.map LineError.line)
  apart : (l.rules.map Rule.line).Disjoint (l.errors.map LineError.line)

theorem IsAccounted.append {a b : FilterList} (ha : a.IsAccounted) (hb : b.IsAccounted) : (a.append b).IsAccounted := by
  have hrules : (a.append b).rules.map Rule.line = a.rules.map Rule.line ++ (b.rules.map Rule.line).map (· + a.lines) := by
    simp [FilterList.append, Rule.onLine]
  have herrors : (a.append b).errors.map LineError.line =
      a.errors.map LineError.line ++ (b.errors.map LineError.line).map (· + a.lines) := by
    simp [FilterList.append]
  constructor
  · have := ha.lines_eq
    have := hb.lines_eq
    simp only [FilterList.append, List.length_append, List.length_map]
    omega
  · rw [hrules]
    exact ha.rules.append hb.rules
  · rw [herrors]
    exact ha.errors.append hb.errors
  · rw [hrules, herrors]
    exact ha.rules.disjoint_append ha.errors hb.rules hb.errors ha.apart hb.apart

/-- One line is read under the number one. -/
theorem isAccounted_singleton (source : SourceList) (line : Text) : (ofLines source [line]).IsAccounted := by
  have hone : AreLines 1 [1] := ⟨List.pairwise_singleton _ _, by simp⟩
  have hnone : AreLines 1 [] := ⟨.nil, by simp⟩
  have hlines : ofLines source [line] = ofOutcomes source [LineOutcome.read source line 1] := rfl
  rw [hlines, LineOutcome.read]
  cases hread : Rule.read line source 1 with
  | error fault => exact ⟨rfl, hnone, hone, List.disjoint_nil_left _⟩
  | ok r? =>
    cases r? with
    | none => exact ⟨rfl, hnone, hnone, List.disjoint_nil_left _⟩
    | some r =>
      have hrules : AreLines 1 [r.line] := by
        rw [Rule.line_of_read hread]
        exact hone
      exact ⟨rfl, hrules, hnone, List.disjoint_nil_right _⟩

theorem isAccounted_ofLines (source : SourceList) (ls : List Text) : (ofLines source ls).IsAccounted := by
  induction ls with
  | nil =>
    have hnone : AreLines 0 [] := ⟨.nil, by simp⟩
    exact ⟨rfl, hnone, hnone, List.disjoint_nil_left _⟩
  | cons l ls ih =>
    rw [← List.singleton_append, ofLines_append]
    exact (isAccounted_singleton source l).append ih

/-- A text that is cut at the end of a line is read as its two parts, one after the other, and every line of a text is
accounted for. -/
theorem read_append {a : Text} (ha : ∀ c ∈ a.getLast?, c = '\n') (b : Text) (source : SourceList) :
    read (a ++ b) source = (read a source).append (read b source) ∧ ∀ text, (read text source).IsAccounted := by
  constructor
  · rw [read_eq, lines_append_of_getLast? ha, ofLines_append]
    rfl
  · intro text
    rw [read_eq]
    exact isAccounted_ofLines source (Text.lines text)

/-- A rule and a faulty line, with line ends of both kinds. -/
def mixedHead : Text := "/ads/*\r\n||\n".toList

/-- A comment, a blank line, a faulty line, and an exception on a line without an end. -/
def mixedTail : Text := "! ads\n\n|a|b|\n@@/ok/*".toList

/-- The numbers of the second part go on after those of the first. -/
theorem read_append_mixed : (∀ c ∈ mixedHead.getLast?, c = '\n') ∧
    read (mixedHead ++ mixedTail) .easyList = (read mixedHead .easyList).append (read mixedTail .easyList) ∧
      ((read mixedHead .easyList).append (read mixedTail .easyList)).rules.map Rule.line = [1, 6] ∧
        ((read mixedHead .easyList).append (read mixedTail .easyList)).errors.map LineError.line = [2, 5] := by
  have hend : ∀ c ∈ mixedHead.getLast?, c = '\n' := by
    have hlast : mixedHead.getLast? = some '\n' := by decide +kernel
    simp [hlast]
  exact ⟨hend, (read_append hend mixedTail .easyList).1, by decide +kernel, by decide +kernel⟩

end FilterList

end TrackerAudit
