/-
**Lists worked through in order.**

A list of jobs is worked in order when it reads: finished jobs, then at most one job under way, then
jobs not begun.

* `Split.replaced` — whatever happens to the job after the finished ones keeps the shape.
* `Worked.split_of_busy` — the job under way splits the list into finished jobs and jobs not begun.
* `Split.next_eq`, `next_finished` — the first unfinished job of such a list.
* `Worked.one_busy` — no two jobs are under way.
-/
import Mathlib.Data.List.Basic

namespace Worklist

/-- How far a job is; `dropped` jobs are no part of a list worked in order. -/
inductive Stage
  | waiting | busy | finished | dropped
deriving DecidableEq

variable {Job : Type} (stage : Job → Stage)

/-- The first unfinished job. -/
def next (jobs : List Job) : Option Job := jobs.find? fun job => stage job ≠ .finished

/-- Finished jobs, then one job under way or not begun, then jobs not begun. -/
structure Split (jobs past : List Job) (focus : Job) (rest : List Job) : Prop where
  jobs_eq : jobs = past ++ focus :: rest
  past_finished : ∀ job ∈ past, stage job = .finished
  focus_open : stage focus = .busy ∨ stage focus = .waiting
  rest_waiting : ∀ job ∈ rest, stage job = .waiting

/-- Every job is finished, or the first unfinished one splits the list. -/
def Worked (jobs : List Job) : Prop :=
  (∀ job ∈ jobs, stage job = .finished) ∨ ∃ past focus rest, Split stage jobs past focus rest

variable {stage} {jobs past rest : List Job} {focus job : Job}

theorem next_finished (done : ∀ job ∈ jobs, stage job = .finished) : next stage jobs = none := by
  unfold next
  rw [List.find?_eq_none]
  intro job member
  simpa using done job member

namespace Split

theorem focus_unfinished (split : Split stage jobs past focus rest) :
    stage focus ≠ .finished := by
  rcases split.focus_open with busy | waiting
  · rw [busy]
    decide
  · rw [waiting]
    decide

theorem focus_mem (split : Split stage jobs past focus rest) : focus ∈ jobs := by
  rw [split.jobs_eq]
  simp

/-- The job at the split is the first unfinished one. -/
theorem next_eq (split : Split stage jobs past focus rest) : next stage jobs = some focus := by
  unfold next
  rw [split.jobs_eq, List.find?_append, List.find?_eq_none.mpr, Option.none_or,
    List.find?_cons_of_pos]
  · simpa using split.focus_unfinished
  · intro job member
    simpa using split.past_finished job member

/-- A job that is neither finished nor waiting is the one at the split. -/
theorem eq_focus (split : Split stage jobs past focus rest) (member : job ∈ jobs)
    (unfinished : stage job ≠ .finished) (begun : stage job ≠ .waiting) : job = focus := by
  rw [split.jobs_eq] at member
  rcases List.mem_append.mp member with early | late
  · exact absurd (split.past_finished job early) unfinished
  · rcases List.mem_cons.mp late with here | after
    · exact here
    · exact absurd (split.rest_waiting job after) begun

/-- **Whatever happens to the job at the split keeps the shape.** -/
theorem replaced (split : Split stage jobs past focus rest) {changed : Job}
    (kept : stage changed ≠ .dropped) : Worked stage (past ++ changed :: rest) := by
  obtain ⟨-, before, -, after⟩ := split
  by_cases unfinished : stage changed = .finished
  · -- The changed job joins the finished ones; the job after it is the new first unfinished one.
    have earlier : ∀ job ∈ past ++ [changed], stage job = .finished := by
      intro job member
      rcases List.mem_append.mp member with member | member
      · exact before job member
      · rw [List.mem_singleton.mp member]
        exact unfinished
    cases rest with
    | nil => exact Or.inl earlier
    | cons following later =>
      refine Or.inr ⟨past ++ [changed], following, later, by simp, earlier,
        Or.inr (after following List.mem_cons_self), ?_⟩
      exact fun job member => after job (List.mem_cons_of_mem _ member)
  · refine Or.inr ⟨past, changed, rest, rfl, before, ?_, after⟩
    cases reached : stage changed with
    | waiting => exact Or.inr rfl
    | busy => exact Or.inl rfl
    | finished => exact absurd reached unfinished
    | dropped => exact absurd reached kept

end Split

namespace Worked

/-- Jobs not begun are worked in order. -/
theorem of_waiting (fresh : ∀ job ∈ jobs, stage job = .waiting) : Worked stage jobs := by
  cases jobs with
  | nil => exact Or.inl (by simp)
  | cons focus rest =>
    refine Or.inr ⟨[], focus, rest, rfl, by simp, Or.inr (fresh focus List.mem_cons_self), ?_⟩
    exact fun job member => fresh job (List.mem_cons_of_mem _ member)

/-- No job of a list worked in order is dropped. -/
theorem undropped (worked : Worked stage jobs) (member : job ∈ jobs) : stage job ≠ .dropped := by
  rcases worked with done | ⟨past, focus, rest, split⟩
  · rw [done job member]
    decide
  · intro dropped
    have here : job = focus := by
      refine split.eq_focus member ?_ ?_ <;> rw [dropped] <;> decide
    rw [here] at dropped
    rcases split.focus_open with opened | opened <;> rw [dropped] at opened <;> cases opened

/-- **A job under way splits the list.** -/
theorem split_of_busy (worked : Worked stage jobs) (member : job ∈ jobs)
    (busy : stage job = .busy) : ∃ past rest, Split stage jobs past job rest := by
  rcases worked with done | ⟨past, focus, rest, split⟩
  · rw [done job member] at busy
    cases busy
  · have here : job = focus := by
      refine split.eq_focus member ?_ ?_ <;> rw [busy] <;> decide
    exact ⟨past, rest, here ▸ split⟩

/-- **No two jobs are under way.** -/
theorem one_busy (worked : Worked stage jobs) {first second : Job} (one : first ∈ jobs)
    (two : second ∈ jobs) (busyOne : stage first = .busy) (busyTwo : stage second = .busy) :
    first = second := by
  obtain ⟨past, rest, split⟩ := worked.split_of_busy one busyOne
  refine (split.eq_focus two ?_ ?_).symm <;> rw [busyTwo] <;> decide

end Worked

end Worklist
