import Mathlib.Logic.Relation
import TrackerAudit.Classify.Pool

/-!
# What a pool computes

No event changes what a job comes to: the result that it has or will have. So a pool in which all jobs are finished has
the results of its inputs in their order, whichever events happened (`Pool.results_of_run`), and a pool that is drained
is one of these (`Pool.results_drain`). What websites are classified as is therefore the same for any number of workers
(`Classifier.classifyAll_eq`).
-/

namespace TrackerAudit

variable {α β : Type} {workers : Nat} {f : α → β}

/-- The result that a job has or will have. -/
def Job.outcome (f : α → β) : Job α β → β
  | waiting a => f a
  | running a => f a
  | finished b => b

namespace Pool

variable {p q : Pool α β} {inputs : List α}

/-- All jobs are finished. -/
def IsDone (p : Pool α β) : Prop := ∀ job ∈ p, job.result?.isSome = true

theorem Step.outcomes (h : Step workers f p q) : q.map (Job.outcome f) = p.map (Job.outcome f) := by
  cases h with
  | start before after a => simp [Job.outcome]
  | finish before after a => simp [Job.outcome]

/-- What the jobs come to stays the same along every run. -/
theorem outcomes_of_run (h : Relation.ReflTransGen (Step workers f) p q) :
    q.map (Job.outcome f) = p.map (Job.outcome f) := by
  induction h with
  | refl => rfl
  | tail _ hstep ih => rw [hstep.outcomes, ih]

theorem results_of_isDone (h : IsDone p) : p.results = p.map (Job.outcome f) := by
  induction p with
  | nil => rfl
  | cons job p ih =>
    obtain ⟨hjob, hp⟩ := List.forall_mem_cons.1 h
    cases job with
    | waiting a => cases hjob
    | running a => cases hjob
    | finished b => exact congrArg (b :: ·) (ih hp)

/-- Whatever happened until all jobs were finished, the results are those of the inputs in their order. -/
theorem results_of_run (h : Relation.ReflTransGen (Step workers f) (ofInputs inputs) p) (hdone : IsDone p) :
    p.results = inputs.map f := by
  rw [results_of_isDone (f := f) hdone, outcomes_of_run h, ofInputs, List.map_map]
  rfl

/-! ### Events -/

theorem eventsLeft_append (p q : Pool α β) : eventsLeft (p ++ q) = eventsLeft p + eventsLeft q := by
  induction p with
  | nil => simp [eventsLeft]
  | cons job p ih =>
    simp only [eventsLeft, List.cons_append, List.foldr_cons] at ih ⊢
    omega

theorem Step.eventsLeft (h : Step workers f p q) : q.eventsLeft + 1 = p.eventsLeft := by
  cases h with
  | start before after a =>
    rw [eventsLeft_append, eventsLeft_append]
    simp only [Pool.eventsLeft, List.foldr_cons, Job.eventsLeft]
    omega
  | finish before after a =>
    rw [eventsLeft_append, eventsLeft_append]
    simp only [Pool.eventsLeft, List.foldr_cons, Job.eventsLeft]
    omega

theorem Step.length_eq (h : Step workers f p q) : q.length = p.length := by
  cases h <;> simp

/-! ### Draining a pool -/

theorem startFirst?_eq_some (h : startFirst? p = some q) :
    ∃ before after a, p = before ++ .waiting a :: after ∧ q = before ++ .running a :: after := by
  fun_induction startFirst? p generalizing q with
  | case1 => cases h
  | case2 a rest =>
    cases h
    exact ⟨[], rest, a, rfl, rfl⟩
  | case3 job rest _ ih =>
    obtain ⟨r, hr, rfl⟩ := Option.map_eq_some_iff.1 h
    obtain ⟨before, after, a, rfl, rfl⟩ := ih hr
    exact ⟨job :: before, after, a, rfl, rfl⟩

theorem finishFirst?_eq_some (h : finishFirst? f p = some q) :
    ∃ before after a, p = before ++ .running a :: after ∧ q = before ++ .finished (f a) :: after := by
  fun_induction finishFirst? f p generalizing q with
  | case1 => cases h
  | case2 a rest =>
    cases h
    exact ⟨[], rest, a, rfl, rfl⟩
  | case3 job rest _ ih =>
    obtain ⟨r, hr, rfl⟩ := Option.map_eq_some_iff.1 h
    obtain ⟨before, after, a, rfl, rfl⟩ := ih hr
    exact ⟨job :: before, after, a, rfl, rfl⟩

/-- The next event is one that can happen. -/
theorem step_of_advance? (h : advance? workers f p = some q) : Step workers f p q := by
  have hfinish (h : finishFirst? f p = some q) : Step workers f p q := by
    obtain ⟨before, after, a, rfl, rfl⟩ := finishFirst?_eq_some h
    exact .finish before after a
  unfold advance? at h
  split at h
  · rename_i hfree
    rcases Option.or_eq_some_iff.1 h with h | ⟨-, h⟩
    · obtain ⟨before, after, a, rfl, rfl⟩ := startFirst?_eq_some h
      exact .start before after a hfree
    · exact hfinish h
  · exact hfinish h

theorem startFirst?_eq_none (h : startFirst? p = none) : ∀ job ∈ p, ∀ a, job ≠ .waiting a := by
  fun_induction startFirst? p with
  | case1 => simp
  | case2 a rest => cases h
  | case3 job rest hjob ih =>
    rw [List.forall_mem_cons]
    exact ⟨fun a heq => hjob a heq, ih (Option.map_eq_none_iff.1 h)⟩

theorem finishFirst?_eq_none (h : finishFirst? f p = none) : ∀ job ∈ p, ∀ a, job ≠ .running a := by
  fun_induction finishFirst? f p with
  | case1 => simp
  | case2 a rest => cases h
  | case3 job rest hjob ih =>
    rw [List.forall_mem_cons]
    exact ⟨fun a heq => hjob a heq, ih (Option.map_eq_none_iff.1 h)⟩

/-- When nothing can happen, all jobs are finished: a pool without a running job has a free worker. -/
theorem isDone_of_advance? (h : advance? workers f p = none) : IsDone p := by
  have hfinish : finishFirst? f p = none := by
    unfold advance? at h
    split at h
    · exact (Option.or_eq_none_iff.1 h).2
    · exact h
  have hrunning := finishFirst?_eq_none hfinish
  have hidle : p.countP Job.isRunning = 0 := by
    rw [List.countP_eq_zero]
    intro job hjob hrun
    cases job with
    | running a => exact hrunning _ hjob a rfl
    | waiting a => cases hrun
    | finished b => cases hrun
  have hfree : hasFreeWorker workers p = true := by
    rw [hasFreeWorker, hidle, decide_eq_true_eq]
    exact Nat.lt_of_lt_of_le Nat.zero_lt_one (Nat.le_max_right ..)
  have hstart : startFirst? p = none := by
    rw [advance?, if_pos hfree] at h
    exact (Option.or_eq_none_iff.1 h).1
  intro job hjob
  cases job with
  | waiting a => exact absurd rfl (startFirst?_eq_none hstart _ hjob a)
  | running a => exact absurd rfl (hrunning _ hjob a)
  | finished b => rfl

/-- As long as not all jobs are finished, something can happen. -/
theorem isDone_or_exists_step (workers : Nat) (f : α → β) (p : Pool α β) : IsDone p ∨ ∃ q, Step workers f p q := by
  cases h : advance? workers f p with
  | none => exact Or.inl (isDone_of_advance? h)
  | some q => exact Or.inr ⟨q, step_of_advance? h⟩

theorem run_drain (workers : Nat) (f : α → β) (p : Pool α β) :
    Relation.ReflTransGen (Step workers f) p (drain workers f p) ∧ IsDone (drain workers f p) := by
  fun_induction drain workers f p with
  | case1 p h => exact ⟨.refl, isDone_of_advance? h⟩
  | case2 p q h ih => exact ⟨.head (step_of_advance? h) ih.1, ih.2⟩

theorem results_drain (workers : Nat) (f : α → β) (inputs : List α) :
    ((ofInputs inputs).drain workers f).results = inputs.map f := by
  obtain ⟨hrun, hdone⟩ := run_drain workers f (ofInputs inputs)
  exact results_of_run hrun hdone

end Pool

theorem Classifier.classifyAll_eq (c : Classifier) (workers : Nat) (sites : List Evidence) :
    c.classifyAll workers sites = (byWebsite (sites.map c.classify)).values := by
  rw [classifyAll, Pool.results_drain]

end TrackerAudit
