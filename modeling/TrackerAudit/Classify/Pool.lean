import TrackerAudit.Classify.Website
import TrackerAudit.Text.Keyed

/-!
# Classifying websites side by side

Jobs are handed to a pool of workers, which take them up and finish them in some order. `Pool.Step` says what can happen
next in a pool, and `Pool.drain` lets it happen until all jobs are finished. Each result stays in the place of its job,
so the order of events does not show in the results.
-/

namespace TrackerAudit

variable {α β : Type}

/-- A job and how far it is. -/
inductive Job (α β : Type)
  | waiting (input : α)
  | running (input : α)
  | finished (result : β)

namespace Job

/-- A worker is at the job. -/
def isRunning : Job α β → Bool
  | running _ => true
  | _ => false

/-- The result of a finished job. -/
def result? : Job α β → Option β
  | finished b => some b
  | _ => none

/-- The number of events until the job is finished. -/
def eventsLeft : Job α β → Nat
  | waiting _ => 2
  | running _ => 1
  | finished _ => 0

end Job

/-- The jobs of a pool, in the order in which they were handed in. -/
abbrev Pool (α β : Type) := List (Job α β)

namespace Pool

/-- The pool of jobs that all wait. -/
def ofInputs (inputs : List α) : Pool α β := inputs.map Job.waiting

/-- The results of the finished jobs. -/
def results (p : Pool α β) : List β := p.filterMap Job.result?

/-- The number of events until all jobs are finished. -/
def eventsLeft (p : Pool α β) : Nat := p.foldr (fun job n => job.eventsLeft + n) 0

/-- A worker is free. There is always at least one worker. -/
def hasFreeWorker (workers : Nat) (p : Pool α β) : Bool := p.countP Job.isRunning < max workers 1

/-- What can happen next: a free worker takes up any of the waiting jobs, or finishes the one that it is at. -/
inductive Step (workers : Nat) (f : α → β) : Pool α β → Pool α β → Prop
  | start (before after : Pool α β) (a : α) (free : hasFreeWorker workers (before ++ .waiting a :: after) = true) :
    Step workers f (before ++ .waiting a :: after) (before ++ .running a :: after)
  | finish (before after : Pool α β) (a : α) :
    Step workers f (before ++ .running a :: after) (before ++ .finished (f a) :: after)

/-- Let the first waiting job start. -/
def startFirst? : Pool α β → Option (Pool α β)
  | [] => none
  | .waiting a :: rest => some (.running a :: rest)
  | job :: rest => (startFirst? rest).map (job :: ·)

/-- Let the first running job finish. -/
def finishFirst? (f : α → β) : Pool α β → Option (Pool α β)
  | [] => none
  | .running a :: rest => some (.finished (f a) :: rest)
  | job :: rest => (finishFirst? f rest).map (job :: ·)

/-- Let the next event happen: a start, if there is a free worker and a waiting job. -/
def advance? (workers : Nat) (f : α → β) (p : Pool α β) : Option (Pool α β) :=
  if hasFreeWorker workers p then (startFirst? p).or (finishFirst? f p) else finishFirst? f p

theorem eventsLeft_startFirst? {p q : Pool α β} (h : startFirst? p = some q) : eventsLeft q < eventsLeft p := by
  fun_induction startFirst? p generalizing q with
  | case1 => cases h
  | case2 a rest =>
    cases h
    simp [eventsLeft, Job.eventsLeft]
  | case3 job rest _ ih =>
    obtain ⟨r, hr, rfl⟩ := Option.map_eq_some_iff.1 h
    have := ih hr
    simpa [eventsLeft] using this

theorem eventsLeft_finishFirst? {f : α → β} {p q : Pool α β} (h : finishFirst? f p = some q) :
    eventsLeft q < eventsLeft p := by
  fun_induction finishFirst? f p generalizing q with
  | case1 => cases h
  | case2 a rest =>
    cases h
    simp [eventsLeft, Job.eventsLeft]
  | case3 job rest _ ih =>
    obtain ⟨r, hr, rfl⟩ := Option.map_eq_some_iff.1 h
    have := ih hr
    simpa [eventsLeft] using this

theorem eventsLeft_advance? {workers : Nat} {f : α → β} {p q : Pool α β} (h : advance? workers f p = some q) :
    eventsLeft q < eventsLeft p := by
  unfold advance? at h
  split at h
  · rcases Option.or_eq_some_iff.1 h with h | ⟨-, h⟩
    · exact eventsLeft_startFirst? h
    · exact eventsLeft_finishFirst? h
  · exact eventsLeft_finishFirst? h

/-- Let events happen until there are none left. -/
def drain (workers : Nat) (f : α → β) (p : Pool α β) : Pool α β :=
  match _h : advance? workers f p with
  | none => p
  | some q => drain workers f q
termination_by p.eventsLeft
decreasing_by exact eventsLeft_advance? _h

end Pool

/-- The websites of a pool's results by name; of two with the same name the one handed in later counts. -/
def byWebsite (results : List ClassifiedWebsite) : Keyed ClassifiedWebsite :=
  Keyed.ofList (results.map fun w => (w.website, w))

/-- Classify websites with a number of workers, in the order of their names. -/
def Classifier.classifyAll (c : Classifier) (workers : Nat) (sites : List Evidence) : List ClassifiedWebsite :=
  (byWebsite ((Pool.ofInputs sites).drain workers c.classify).results).values

end TrackerAudit
