import TrackerAudit.Proofs.Regex.Taking
import TrackerAudit.Regex.Match

/-!
# The search finds what occurs

`isMatch_iff_occurs`: the search says that a regular expression matches a text exactly if the expression takes some part
of it. One attempt fits a text if its expressions take some start of the text one after another (`FitsAt`). What is left
of an attempt after a character fits the rest of the text exactly if the attempt fits the whole with that character
taken (`advance_iff`), so the search keeps track of all fits that begin before the current position.

The expressions must be `Counted`: no repetition asks for more copies than it allows.
-/

namespace TrackerAudit.Regex

variable {r s : Regex} {rs ss : List Regex} {prev : Option Char} {c : Char} {text : Text}

/-- No repetition asks for more copies than it allows. -/
def Counted : Regex → Prop
  | cat r s => r.Counted ∧ s.Counted
  | alt r s => r.Counted ∧ s.Counted
  | rep r min max => r.Counted ∧ ∀ m ∈ max, min ≤ m
  | _ => True

/-- The expressions of a list take some start of the text one after another. -/
def FitsAt (rs : List Regex) (prev : Option Char) (text : Text) : Prop :=
  ∃ taken rest, text = taken ++ rest ∧ ConsumesAll rs prev taken rest

theorem fitsAt_nil : FitsAt [] prev text := ⟨[], text, rfl, rfl⟩

theorem fitsAt_append : FitsAt (rs ++ ss) prev text ↔
    ∃ u v, text = u ++ v ∧ ConsumesAll rs prev u v ∧ FitsAt ss (prevAfter prev u) v := by
  constructor
  · rintro ⟨_, rest, rfl, h⟩
    obtain ⟨u, v, rfl, hu, hv⟩ := consumesAll_append.1 h
    exact ⟨u, v ++ rest, by simp, hu, v, rest, rfl, hv⟩
  · rintro ⟨u, _, rfl, hu, v, rest, rfl, hv⟩
    exact ⟨u ++ v, rest, by simp, consumesAll_append.2 ⟨u, v, rfl, hu, hv⟩⟩

/-- An expression takes what its factors take in a row. -/
theorem consumesAll_factors {t rest : Text} : ConsumesAll r.factors prev t rest ↔ r.Consumes prev t rest := by
  induction r generalizing prev t rest with
  | cat r s ihr ihs => rw [factors, consumesAll_append, consumes_cat]; simp only [ihr, ihs]
  | _ => exact consumesAll_singleton

theorem fitsAt_push {a : Attempt} : FitsAt (a.push r).todo prev text ↔
    ∃ u v, text = u ++ v ∧ r.Consumes prev u v ∧ FitsAt a.todo (prevAfter prev u) v := by
  rw [Attempt.push, fitsAt_append]
  simp only [consumesAll_factors]

/-! ### Taking nothing -/

private theorem rep_takes_nothing {min : Nat} {max : Option Nat} {rest : Text} (hm : ∀ m ∈ max, min ≤ m)
    (hr : r.Consumes prev [] rest) : Consumes (.rep r min max) prev [] rest := by
  induction min generalizing max with
  | zero => exact .done
  | succ n ih =>
    refine Consumes.more (u := []) (v := []) ?_ hr (ih ?_)
    · rintro rfl
      have := hm 0 rfl
      omega
    · intro m hm'
      obtain ⟨m', rfl, rfl⟩ := Option.map_eq_some_iff.1 hm'
      have := hm m' rfl
      omega

/-- An expression can take nothing exactly if it is nullable there. -/
theorem nullable_iff (h : r.Counted) : r.nullable prev text.head? = true ↔ r.Consumes prev [] text := by
  induction r with
  | empty => simp [nullable, consumes_empty]
  | set s => simp [nullable, consumes_set]
  | look l => simp [nullable, consumes_look]
  | cat r s ihr ihs =>
    simp only [nullable, Bool.and_eq_true, consumes_cat, ihr h.1, ihs h.2]
    constructor
    · rintro ⟨hr, hs⟩
      exact ⟨[], [], rfl, hr, hs⟩
    · rintro ⟨u, v, huv, hr, hs⟩
      obtain ⟨rfl, rfl⟩ := List.nil_eq_append_iff.1 huv
      exact ⟨hr, hs⟩
  | alt r s ihr ihs => simp only [nullable, Bool.or_eq_true, consumes_alt, ihr h.1, ihs h.2]
  | rep r min max ih =>
    simp only [nullable, Bool.or_eq_true, beq_iff_eq, ih h.1]
    constructor
    · rintro (rfl | hr)
      · exact .done
      · exact rep_takes_nothing h.2 hr
    · intro hc
      rcases consumes_rep.1 hc with ⟨hmin, -⟩ | ⟨-, u, v, huv, hr, -⟩
      · exact Or.inl hmin
      · obtain ⟨rfl, rfl⟩ := List.nil_eq_append_iff.1 huv
        exact Or.inr hr

/-- An attempt can end where it stands exactly if its expressions can all take nothing there. -/
theorem finished_iff {a : Attempt} (h : ∀ r ∈ a.todo, r.Counted) :
    a.finished prev text.head? = true ↔ ConsumesAll a.todo prev [] text := by
  obtain ⟨left, todo⟩ := a
  unfold Attempt.finished
  simp only at h ⊢
  induction todo with
  | nil => simp
  | cons r rs ih =>
    rw [List.all_cons, Bool.and_eq_true, nullable_iff (h r (by simp)), ih fun q hq => h q (by simp [hq])]
    constructor
    · rintro ⟨hr, hrs⟩
      exact ⟨[], [], rfl, hr, hrs⟩
    · rintro ⟨u, v, huv, hr, hrs⟩
      obtain ⟨rfl, rfl⟩ := List.nil_eq_append_iff.1 huv
      exact ⟨hr, hrs⟩

/-! ### Taking one character -/

/-- A repetition that takes something takes the first character by one of its copies. -/
private theorem rep_takes_first {min : Nat} {max : Option Nat} {u v : Text}
    (h : Consumes (.rep r min max) prev (c :: u) v) : max ≠ some 0 ∧ ∃ u₁ u₂, u = u₁ ++ u₂ ∧
      r.Consumes prev (c :: u₁) (u₂ ++ v) ∧ Consumes (.rep r 0 (fewer max)) (prevAfter (some c) u₁) u₂ v := by
  generalize hR : Regex.rep r min max = R at h
  generalize ht : c :: u = t at h
  induction h generalizing min max u with
  | done => cases ht
  | @more _ _ _ prev u₁ u₂ rest hmax hr hrest _ ih =>
    cases hR
    refine ⟨hmax, ?_⟩
    cases u₁ with
    | nil =>
      -- the first copy takes nothing, so the character falls to one of the others
      obtain ⟨-, u₁, u₂, rfl, hr', hrest'⟩ := ih rfl ht
      refine ⟨u₁, u₂, rfl, hr', hrest'.rep_mono (Nat.le_refl 0) ?_⟩
      intro n hn
      obtain ⟨n', hn', rfl⟩ := Option.map_eq_some_iff.1 hn
      exact ⟨n' - 1 - 1, by simp [fewer, hn'], by omega⟩
    | cons d u₁ =>
      obtain ⟨rfl, rfl⟩ := List.cons.inj ht
      rw [prevAfter_cons] at hrest
      refine ⟨u₁, u₂, rfl, hr, hrest.rep_mono (Nat.zero_le _) ?_⟩
      intro n hn
      exact ⟨n, hn, Nat.le_refl n⟩
  | _ => cases hR

/-! ### Steps are sound -/

variable {rest a : Attempt} {one : Attempt → List Attempt} {min : Nat} {max : Option Nat}

/-- The attempts that `one` gives lead `r` past the character `c`. -/
private def StepsSoundly (r : Regex) (prev : Option Char) (c : Char) (one : Attempt → List Attempt) : Prop :=
  ∀ {rest a : Attempt} {text : Text}, a ∈ one rest → FitsAt a.todo (some c) text →
    ∃ u v, text = u ++ v ∧ r.Consumes prev (c :: u) v ∧ FitsAt rest.todo (prevAfter (some c) u) v

private theorem rep_step_sound (hone : StepsSoundly r prev c one) (hmax : max ≠ some 0)
    (ha : a ∈ one (rest.push (.rep r (min - 1) (fewer max)))) (hf : FitsAt a.todo (some c) text) :
    ∃ u v, text = u ++ v ∧ Consumes (.rep r min max) prev (c :: u) v ∧ FitsAt rest.todo (prevAfter (some c) u) v := by
  obtain ⟨u, v, rfl, hu, hv⟩ := hone ha hf
  obtain ⟨u', v', rfl, hu', hv'⟩ := fitsAt_push.1 hv
  refine ⟨u ++ u', v', by simp, .more hmax hu ?_, ?_⟩
  · rwa [prevAfter_cons]
  · rwa [prevAfter_append]

private theorem repSteps_sound (hr : r.Counted) (hone : StepsSoundly r prev c one)
    (ha : a ∈ repSteps r one (r.nullable prev (some c)) min max rest) (hf : FitsAt a.todo (some c) text) :
    ∃ u v, text = u ++ v ∧ Consumes (.rep r min max) prev (c :: u) v ∧ FitsAt rest.todo (prevAfter (some c) u) v := by
  induction min generalizing max with
  | zero =>
    rw [repSteps] at ha
    split at ha
    · cases ha
    · rename_i hmax
      exact rep_step_sound hone hmax ha hf
  | succ min ih =>
    rw [repSteps] at ha
    split at ha
    · cases ha
    · rename_i hmax
      rcases List.mem_append.1 ha with ha | ha
      · exact rep_step_sound hone hmax ha hf
      · split at ha
        · rename_i hnull
          obtain ⟨u, v, rfl, hu, hv⟩ := ih ha
          -- the copy that is passed over takes nothing before `c`
          have hnil : r.Consumes prev [] (c :: u ++ v) := (nullable_iff hr).1 hnull
          exact ⟨u, v, rfl, Consumes.more (u := []) hmax hnil hu, hv⟩
        · cases ha

theorem steps_sound (hr : r.Counted) : StepsSoundly r prev c (steps prev c r) := by
  induction r with
  | empty =>
    intro rest a text ha
    cases ha
  | set s =>
    intro rest a text ha hf
    rw [steps] at ha
    split at ha
    · rename_i hs
      obtain rfl := List.mem_singleton.1 ha
      exact ⟨[], text, rfl, .set hs, hf⟩
    · cases ha
  | look l =>
    intro rest a text ha
    cases ha
  | cat r s ihr ihs =>
    intro rest a text ha hf
    rw [steps] at ha
    rcases List.mem_append.1 ha with ha | ha
    · obtain ⟨u, v, rfl, hu, hv⟩ := ihr hr.1 ha hf
      obtain ⟨u', v', rfl, hu', hv'⟩ := fitsAt_push.1 hv
      refine ⟨u ++ u', v', by simp, .cat hu ?_, ?_⟩
      · rwa [prevAfter_cons]
      · rwa [prevAfter_append]
    · split at ha
      · rename_i hnull
        obtain ⟨u, v, rfl, hu, hv⟩ := ihs hr.2 ha hf
        have hnil : r.Consumes prev [] (c :: u ++ v) := (nullable_iff hr.1).1 hnull
        exact ⟨u, v, rfl, Consumes.cat (u := []) hnil hu, hv⟩
      · cases ha
  | alt r s ihr ihs =>
    intro rest a text ha hf
    rw [steps] at ha
    rcases List.mem_append.1 ha with ha | ha
    · obtain ⟨u, v, rfl, hu, hv⟩ := ihr hr.1 ha hf
      exact ⟨u, v, rfl, .left hu, hv⟩
    · obtain ⟨u, v, rfl, hu, hv⟩ := ihs hr.2 ha hf
      exact ⟨u, v, rfl, .right hu, hv⟩
  | rep r min max ih =>
    intro rest a text ha hf
    exact repSteps_sound hr.1 (ih hr.1) ha hf

/-! ### Steps are complete -/

private theorem repSteps_complete (hr : r.Counted) (hone : ∀ {rest : Attempt} {u v : Text}, r.Consumes prev (c :: u) v →
      FitsAt rest.todo (prevAfter (some c) u) v → ∃ a ∈ one rest, FitsAt a.todo (some c) (u ++ v))
    {u v : Text} (hc : Consumes (.rep r min max) prev (c :: u) v) (hf : FitsAt rest.todo (prevAfter (some c) u) v) :
    ∃ a ∈ repSteps r one (r.nullable prev (some c)) min max rest, FitsAt a.todo (some c) (u ++ v) := by
  induction min generalizing max with
  | zero =>
    -- no copy is asked for any more, so those that take nothing can be left out
    obtain ⟨hmax, u₁, u₂, rfl, h₁, h₂⟩ := rep_takes_first hc
    rw [repSteps, if_neg hmax, List.append_assoc]
    exact hone h₁ (fitsAt_push.2 ⟨u₂, v, rfl, h₂, by rwa [← prevAfter_append]⟩)
  | succ min ih =>
    rcases consumes_rep.1 hc with ⟨h, -⟩ | ⟨hmax, u₁, u₂, ht, h₁, h₂⟩
    · cases h
    rw [repSteps, if_neg hmax]
    rcases List.cons_eq_append_iff.1 ht with ⟨rfl, rfl⟩ | ⟨u₁, rfl, rfl⟩
    · have hnull : r.nullable prev (some c) = true := (nullable_iff hr).2 h₁
      rw [if_pos hnull]
      obtain ⟨a, ha, hfa⟩ := ih h₂
      exact ⟨a, List.mem_append_right _ ha, hfa⟩
    · rw [prevAfter_cons] at h₂
      have hrest : FitsAt (rest.push (.rep r min (fewer max))).todo (prevAfter (some c) u₁) (u₂ ++ v) :=
        fitsAt_push.2 ⟨u₂, v, rfl, h₂, by rwa [← prevAfter_append]⟩
      obtain ⟨a, ha, hfa⟩ := hone h₁ hrest
      exact ⟨a, List.mem_append_left _ ha, by rwa [List.append_assoc]⟩

theorem steps_complete (hr : r.Counted) {u v : Text} (hc : r.Consumes prev (c :: u) v)
    (hf : FitsAt rest.todo (prevAfter (some c) u) v) : ∃ a ∈ steps prev c r rest, FitsAt a.todo (some c) (u ++ v) := by
  induction r generalizing rest u v with
  | empty => cases consumes_empty.1 hc
  | set s =>
    obtain ⟨d, hd, h⟩ := consumes_set.1 hc
    obtain ⟨rfl, rfl⟩ := List.cons.inj h
    exact ⟨rest, by simp [steps, hd], hf⟩
  | look l => cases (consumes_look.1 hc).1
  | cat r s ihr ihs =>
    obtain ⟨u₁, u₂, ht, h₁, h₂⟩ := consumes_cat.1 hc
    rw [steps]
    rcases List.cons_eq_append_iff.1 ht with ⟨rfl, rfl⟩ | ⟨u₁, rfl, rfl⟩
    · have hnull : r.nullable prev (some c) = true := (nullable_iff hr.1).2 h₁
      rw [if_pos hnull]
      obtain ⟨a, ha, hfa⟩ := ihs hr.2 h₂ hf
      exact ⟨a, List.mem_append_right _ ha, hfa⟩
    · rw [prevAfter_cons] at h₂
      have hrest : FitsAt (rest.push s).todo (prevAfter (some c) u₁) (u₂ ++ v) :=
        fitsAt_push.2 ⟨u₂, v, rfl, h₂, by rwa [← prevAfter_append]⟩
      obtain ⟨a, ha, hfa⟩ := ihr hr.1 h₁ hrest
      exact ⟨a, List.mem_append_left _ ha, by rwa [List.append_assoc]⟩
  | alt r s ihr ihs =>
    rcases consumes_alt.1 hc with h | h
    · obtain ⟨a, ha, hfa⟩ := ihr hr.1 h hf
      exact ⟨a, List.mem_append_left _ ha, hfa⟩
    · obtain ⟨a, ha, hfa⟩ := ihs hr.2 h hf
      exact ⟨a, List.mem_append_right _ ha, hfa⟩
  | rep r min max ih => exact repSteps_complete hr.1 (fun h₁ h₂ => ih hr.1 h₁ h₂) hc hf

/-! ### Attempts -/

/-- All expressions of the attempt are counted. -/
def Attempt.Counted (a : Attempt) : Prop := ∀ r ∈ a.todo, r.Counted

private theorem factors_counted (h : r.Counted) : ∀ q ∈ r.factors, q.Counted := by
  induction r with
  | cat r s ihr ihs =>
    intro q hq
    rcases List.mem_append.1 hq with hq | hq
    · exact ihr h.1 q hq
    · exact ihs h.2 q hq
  | _ =>
    intro q hq
    obtain rfl := List.mem_singleton.1 hq
    exact h

theorem Attempt.Counted.push (ha : a.Counted) (hr : r.Counted) : (a.push r).Counted := by
  intro q hq
  rcases List.mem_append.1 hq with hq | hq
  · exact factors_counted hr q hq
  · exact ha q hq

private theorem Counted.rep_pred (h : (Regex.rep r (min + 1) max).Counted) :
    (Regex.rep r min (fewer max)).Counted := by
  refine ⟨h.1, fun m hm => ?_⟩
  obtain ⟨m', hm', rfl⟩ := Option.map_eq_some_iff.1 hm
  have := h.2 m' hm'
  omega

private theorem repSteps_counted (hone : ∀ {rest a : Attempt}, rest.Counted → a ∈ one rest → a.Counted)
    {skip : Bool} (hr : (Regex.rep r min max).Counted) (hrest : rest.Counted)
    (ha : a ∈ repSteps r one skip min max rest) : a.Counted := by
  induction min generalizing max with
  | zero =>
    rw [repSteps] at ha
    split at ha
    · cases ha
    · exact hone (hrest.push (r := .rep r 0 (fewer max)) ⟨hr.1, by simp⟩) ha
  | succ min ih =>
    rw [repSteps] at ha
    split at ha
    · cases ha
    · rcases List.mem_append.1 ha with ha | ha
      · exact hone (hrest.push hr.rep_pred) ha
      · split at ha
        · exact ih hr.rep_pred ha
        · cases ha

theorem steps_counted (hr : r.Counted) (hrest : rest.Counted) (ha : a ∈ steps prev c r rest) : a.Counted := by
  induction r generalizing rest a with
  | empty => cases ha
  | set s =>
    rw [steps] at ha
    split at ha
    · obtain rfl := List.mem_singleton.1 ha
      exact hrest
    · cases ha
  | look l => cases ha
  | cat r s ihr ihs =>
    rw [steps] at ha
    rcases List.mem_append.1 ha with ha | ha
    · exact ihr hr.1 (hrest.push hr.2) ha
    · split at ha
      · exact ihs hr.2 hrest ha
      · cases ha
  | alt r s ihr ihs =>
    rw [steps] at ha
    rcases List.mem_append.1 ha with ha | ha
    · exact ihr hr.1 hrest ha
    · exact ihs hr.2 hrest ha
  | rep r min max ih => exact repSteps_counted (fun hrest ha => ih hr.1 hrest ha) hr hrest ha

theorem advance_counted {left : Nat} (h : ∀ r ∈ rs, r.Counted) (ha : a ∈ advance prev c left rs) : a.Counted := by
  induction rs generalizing left with
  | nil => cases ha
  | cons r rs ih =>
    rw [advance] at ha
    have hrs : ∀ q ∈ rs, q.Counted := fun q hq => h q (by simp [hq])
    rcases List.mem_append.1 ha with ha | ha
    · have hrest : Attempt.Counted ⟨left - 1, rs⟩ := hrs
      exact steps_counted (h r (by simp)) hrest ha
    · split at ha
      · exact ih hrs ha
      · cases ha

/-- What is left after a character fits the rest of a text exactly if the expressions take the character and then a
start of the rest. -/
theorem advance_iff {left : Nat} (h : ∀ r ∈ rs, r.Counted) :
    (∃ a ∈ advance prev c left rs, FitsAt a.todo (some c) text) ↔
      ∃ u v, text = u ++ v ∧ ConsumesAll rs prev (c :: u) v := by
  induction rs generalizing left with
  | nil => simp [advance]
  | cons r rs ih =>
    have hr : r.Counted := h r (by simp)
    have hrs : ∀ q ∈ rs, q.Counted := fun q hq => h q (by simp [hq])
    rw [advance]
    constructor
    · rintro ⟨a, ha, hf⟩
      rcases List.mem_append.1 ha with ha | ha
      · obtain ⟨u, _, rfl, hu, u', v, rfl, hu'⟩ := steps_sound hr ha hf
        exact ⟨u ++ u', v, by simp, c :: u, u', rfl, hu, by rwa [prevAfter_cons]⟩
      · split at ha
        · rename_i hnull
          obtain ⟨u, v, rfl, hu⟩ := (ih hrs).1 ⟨a, ha, hf⟩
          have hnil : r.Consumes prev [] (c :: u ++ v) := (nullable_iff hr).1 hnull
          exact ⟨u, v, rfl, [], c :: u, rfl, hnil, hu⟩
        · cases ha
    · rintro ⟨u, v, rfl, u₁, u₂, ht, h₁, h₂⟩
      rcases List.cons_eq_append_iff.1 ht with ⟨rfl, rfl⟩ | ⟨u₁, rfl, rfl⟩
      · have hnull : r.nullable prev (some c) = true := (nullable_iff hr).2 h₁
        rw [if_pos hnull]
        obtain ⟨a, ha, hf⟩ := (ih hrs).2 ⟨u, v, rfl, h₂⟩
        exact ⟨a, List.mem_append_right _ ha, hf⟩
      · rw [prevAfter_cons] at h₂
        have hrest : FitsAt (Attempt.mk (left - 1) rs).todo (prevAfter (some c) u₁) (u₂ ++ v) := ⟨u₂, v, rfl, h₂⟩
        obtain ⟨a, ha, hf⟩ := steps_complete hr h₁ hrest
        exact ⟨a, List.mem_append_left _ ha, by rwa [List.append_assoc]⟩

/-! ### The search -/

theorem mem_distinctAttempts {attempts : List Attempt} : a ∈ distinctAttempts attempts ↔ a ∈ attempts := by
  simp [distinctAttempts]

private theorem fitsAt_empty : FitsAt rs prev [] ↔ ConsumesAll rs prev [] [] := by
  constructor
  · rintro ⟨taken, rest, ht, h⟩
    obtain ⟨rfl, rfl⟩ := List.nil_eq_append_iff.1 ht
    exact h
  · intro h
    exact ⟨[], [], rfl, h⟩

private theorem fitsAt_char : FitsAt rs prev (c :: text) ↔
    ConsumesAll rs prev [] (c :: text) ∨ ∃ u v, text = u ++ v ∧ ConsumesAll rs prev (c :: u) v := by
  constructor
  · rintro ⟨taken, rest, ht, h⟩
    rcases List.cons_eq_append_iff.1 ht with ⟨rfl, rfl⟩ | ⟨u, rfl, rfl⟩
    · exact Or.inl h
    · exact Or.inr ⟨u, rest, rfl, h⟩
  · rintro (h | ⟨u, v, rfl, h⟩)
    · exact ⟨[], c :: text, rfl, h⟩
    · exact ⟨c :: u, v, rfl, h⟩

/-- One of the attempts fits exactly if it can end here or can go on with the next character. -/
private theorem fits_iff_finished_or_advance {attempts : List Attempt} (h : ∀ a ∈ attempts, a.Counted) :
    (∃ a ∈ attempts, FitsAt a.todo prev (c :: text)) ↔
      attempts.any (·.finished prev (some c)) = true ∨
        ∃ b ∈ distinctAttempts (attempts.flatMap fun a => advance prev c a.left a.todo), FitsAt b.todo (some c) text := by
  constructor
  · rintro ⟨a, ha, hf⟩
    rcases fitsAt_char.1 hf with hnil | hcons
    · exact Or.inl (List.any_eq_true.2 ⟨a, ha, (finished_iff (h a ha)).2 hnil⟩)
    · obtain ⟨b, hb, hfb⟩ := (advance_iff (h a ha)).2 hcons
      exact Or.inr ⟨b, mem_distinctAttempts.2 (List.mem_flatMap.2 ⟨a, ha, hb⟩), hfb⟩
  · rintro (hfin | ⟨b, hb, hfb⟩)
    · obtain ⟨a, ha, hfin⟩ := List.any_eq_true.1 hfin
      exact ⟨a, ha, fitsAt_char.2 (Or.inl ((finished_iff (h a ha)).1 hfin))⟩
    · obtain ⟨a, ha, hb⟩ := List.mem_flatMap.1 (mem_distinctAttempts.1 hb)
      exact ⟨a, ha, fitsAt_char.2 (Or.inr ((advance_iff (h a ha)).1 ⟨b, hb, hfb⟩))⟩

/-- The search succeeds exactly if an attempt under way fits, or a new one fits at some position. -/
theorem search_iff {new : Attempt} {attempts : List Attempt} (hnew : new.Counted) (h : ∀ a ∈ attempts, a.Counted) :
    search new prev attempts text = true ↔ (∃ a ∈ attempts, FitsAt a.todo prev text) ∨
      ∃ before after, text = before ++ after ∧ FitsAt new.todo (prevAfter prev before) after := by
  have hall : ∀ a ∈ new :: attempts, a.Counted := by
    intro a ha
    rcases List.mem_cons.1 ha with rfl | ha
    · exact hnew
    · exact h a ha
  induction text generalizing prev attempts with
  | nil =>
    have hfin : ∀ a ∈ new :: attempts, a.finished prev none = true ↔ FitsAt a.todo prev [] := by
      intro a ha
      rw [fitsAt_empty, ← finished_iff (hall a ha), List.head?_nil]
    rw [search, List.any_eq_true]
    constructor
    · rintro ⟨a, ha, hf⟩
      rw [hfin a ha] at hf
      rcases List.mem_cons.1 ha with rfl | ha
      · exact Or.inr ⟨[], [], rfl, hf⟩
      · exact Or.inl ⟨a, ha, hf⟩
    · rintro (⟨a, ha, hf⟩ | ⟨before, after, ht, hf⟩)
      · have ha : a ∈ new :: attempts := by simp [ha]
        exact ⟨a, ha, (hfin a ha).2 hf⟩
      · obtain ⟨rfl, rfl⟩ := List.nil_eq_append_iff.1 ht
        exact ⟨new, by simp, (hfin new (by simp)).2 hf⟩
  | cons c text ih =>
    have hnext : ∀ b ∈ distinctAttempts ((new :: attempts).flatMap fun a => advance prev c a.left a.todo),
        b.Counted := by
      intro b hb
      obtain ⟨a, ha, hb⟩ := List.mem_flatMap.1 (mem_distinctAttempts.1 hb)
      exact advance_counted (hall a ha) hb
    have hcons : ∀ b ∈ new :: distinctAttempts ((new :: attempts).flatMap fun a => advance prev c a.left a.todo),
        b.Counted := by
      intro b hb
      rcases List.mem_cons.1 hb with rfl | hb
      · exact hnew
      · exact hnext b hb
    rw [search, Bool.or_eq_true]
    -- what goes on past `c` is under way for the rest of the text
    refine (or_congr Iff.rfl (ih hnext hcons)).trans ?_
    rw [← or_assoc, ← fits_iff_finished_or_advance hall]
    constructor
    · rintro (⟨a, ha, hf⟩ | ⟨before, after, rfl, hf⟩)
      · rcases List.mem_cons.1 ha with rfl | ha
        · exact Or.inr ⟨[], c :: text, rfl, hf⟩
        · exact Or.inl ⟨a, ha, hf⟩
      · exact Or.inr ⟨c :: before, after, rfl, by rwa [prevAfter_cons]⟩
    · rintro (⟨a, ha, hf⟩ | ⟨before, after, ht, hf⟩)
      · exact Or.inl ⟨a, by simp [ha], hf⟩
      · rcases List.cons_eq_append_iff.1 ht with ⟨rfl, rfl⟩ | ⟨before, rfl, rfl⟩
        · exact Or.inl ⟨new, by simp, hf⟩
        · rw [prevAfter_cons] at hf
          exact Or.inr ⟨before, after, rfl, hf⟩

/-- The search finds a match exactly if the expression takes some part of the text. -/
theorem isMatch_iff_occurs (h : r.Counted) (text : Text) : r.isMatch text = true ↔ r.Occurs text := by
  have hcounted : (Attempt.of r).Counted := Attempt.Counted.push (a := ⟨0, []⟩) (by simp [Attempt.Counted]) h
  rw [isMatch, search_iff hcounted (by simp)]
  constructor
  · rintro (⟨a, ha, -⟩ | ⟨before, _, rfl, hf⟩)
    · cases ha
    · obtain ⟨taken, rest, rfl, hr, -⟩ := fitsAt_push.1 hf
      rw [prevAfter_none] at hr
      exact ⟨before, taken, rest, by simp, hr⟩
  · rintro ⟨before, taken, rest, rfl, hr⟩
    refine Or.inr ⟨before, taken ++ rest, by simp, fitsAt_push.2 ⟨taken, rest, rfl, ?_, fitsAt_nil⟩⟩
    rwa [prevAfter_none]

end TrackerAudit.Regex
