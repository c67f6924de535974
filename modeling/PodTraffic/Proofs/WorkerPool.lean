import Mathlib.Tactic
import PodTraffic.Runner

/-!
# What a worker pool returns

At any time an item is unsent, queued, in progress or answered, and a pool is done only when all
items are answered and every answer is collected. The order of the steps decides nothing but the
order of the answers.

Until it is done a pool can always take a step, since both queues have room for every item, and
each step leaves fewer steps to take. So every run gets to the end.
-/
namespace PodTraffic.WorkerPool

variable {α β : Type} {work : α → β} {items : List α} {workers capacity : Nat}
  {p q : WorkerPool α β}

/-- The answers of all items, given or still to come. -/
def answers (work : α → β) (p : WorkerPool α β) : List β :=
  p.unsent.map work ++ p.queue.map work ++ p.inProgress.map work ++ p.results ++ p.collected

/-- An item moves from one place to the next, and none is lost or repeated. -/
theorem Step.perm (h : Step work capacity p q) : (p.answers work).Perm (q.answers work) := by
  classical
  rw [List.perm_iff_count]
  intro y
  cases h with
  | send live next room =>
    simp only [answers, inProgress, next, List.map_cons, List.map_append, List.map_nil,
      List.count_append, List.count_cons, List.count_nil]
    omega
  | take next free =>
    simp only [answers, inProgress, next, free, List.map_cons, List.map_append,
      List.filterMap_append, List.filterMap_cons, List.count_append, List.count_cons]
    omega
  | finish works room =>
    simp only [answers, inProgress, works, List.map_cons, List.map_append,
      List.filterMap_append, List.filterMap_cons, List.count_append, List.count_cons,
      List.count_nil]
    omega
  | leave ended empty free =>
    simp only [answers, inProgress, free, List.filterMap_append, List.filterMap_cons]
  | collect ended next =>
    simp only [answers, inProgress, next, List.count_append, List.count_cons, List.count_nil]
    omega
  | close live sent still => rfl
  | done live ended empty left => rfl

theorem inProgress_start : (start items workers : WorkerPool α β).inProgress = [] := by
  simp [inProgress, start]

/-- The answers along a whole run are those of the items. -/
theorem Reachable.perm (h : Reachable work items workers p) :
    (items.map work).Perm (p.answers work) := by
  induction h with
  | start =>
    rw [answers, inProgress_start]
    simp [WorkerPool.start]
  | step _ next ih => exact ih.trans next.perm

/-- What the end of a pool rests on: workers leave only after the last item was taken. -/
structure Orderly (p : WorkerPool α β) : Prop where
  closed : p.isOpen = false → p.unsent = []
  gone : .gone ∈ p.workers → p.isOpen = false ∧ p.queue = []
  staffed : p.workers ≠ []
  done : p.isDone = true →
    p.unsent = [] ∧ p.queue = [] ∧ p.inProgress = [] ∧ p.results = []

theorem orderly_start : Orderly (start items workers : WorkerPool α β) where
  closed := by
    intro h
    cases h
  gone := by
    intro h
    cases List.eq_of_mem_replicate h
  staffed := by
    simp only [start, workerCount, ne_eq, List.replicate_eq_nil_iff]
    omega
  done := by
    intro h
    have hitems : items = [] := by simpa [start] using h
    exact ⟨hitems, rfl, inProgress_start, rfl⟩

theorem Step.orderly (h : Step work capacity p q) (hp : Orderly p) : Orderly q := by
  cases h with
  | send live next room =>
    have hopen : p.isOpen ≠ false := by
      intro ended
      rw [hp.closed ended] at next
      cases next
    exact ⟨fun ended => absurd ended hopen, fun left => absurd (hp.gone left).1 hopen, hp.staffed,
      fun finished => by simp [live] at finished⟩
  | close live sent still =>
    exact ⟨fun _ => sent, fun left => ⟨rfl, (hp.gone left).2⟩, hp.staffed,
      fun finished => by simp [live] at finished⟩
  | @take x xs before after next free =>
    have hqueue : p.queue ≠ [] := by simp [next]
    refine ⟨hp.closed, fun left => ?_, by simp,
      fun finished => absurd (hp.done finished).2.1 hqueue⟩
    have hgone : .gone ∈ p.workers := by simpa [free] using left
    exact absurd (hp.gone hgone).2 hqueue
  | @finish x before after works room =>
    refine ⟨hp.closed, fun left => hp.gone (by simpa [works] using left), by simp,
      fun finished => ?_⟩
    have hidle := (hp.done finished).2.2.1
    simp [inProgress, works] at hidle
  | @leave before after ended empty free =>
    refine ⟨hp.closed, fun _ => ⟨ended, empty⟩, by simp, fun finished => ?_⟩
    obtain ⟨hunsent, hqueue, hidle, hresults⟩ := hp.done finished
    refine ⟨hunsent, hqueue, ?_, hresults⟩
    simpa [inProgress, free] using hidle
  | @collect y ys ended next =>
    have hresults : p.results ≠ [] := by simp [next]
    exact ⟨hp.closed, hp.gone, hp.staffed, fun finished => absurd (hp.done finished).2.2.2 hresults⟩
  | done live ended empty left =>
    refine ⟨hp.closed, hp.gone, hp.staffed, fun _ => ?_⟩
    obtain ⟨w, hw⟩ := List.exists_mem_of_ne_nil _ hp.staffed
    have hgone : .gone ∈ p.workers := left w hw ▸ hw
    refine ⟨hp.closed ended, (hp.gone hgone).2, ?_, empty⟩
    refine List.filterMap_eq_nil_iff.mpr fun w hw => ?_
    rw [left w hw]

theorem Reachable.orderly (h : Reachable work items workers p) : Orderly p := by
  induction h with
  | start => exact orderly_start
  | step _ next ih => exact next.orderly ih

/-- A pool that is done has collected the answers of all items. -/
theorem Reachable.collected_perm (h : Reachable work items workers p) (hdone : p.isDone = true) :
    p.collected.Perm (items.map work) := by
  obtain ⟨hunsent, hqueue, hidle, hresults⟩ := h.orderly.done hdone
  have hperm := h.perm
  simp only [answers, hunsent, hqueue, hidle, hresults, List.map_nil, List.nil_append] at hperm
  exact hperm.symm

theorem Reachable.collected_perm_of_eq (h : Reachable work items workers p)
    (hdone : p.isDone = true) {f : α → β} (hwork : ∀ x ∈ items, work x = f x) :
    p.collected.Perm (items.map f) := by
  rw [← List.map_congr_left hwork]
  exact h.collected_perm hdone

/-- Items are handed out in the order in which they were given. -/
theorem Step.order (h : Step work capacity p q) :
    q.taken ++ q.queue ++ q.unsent = p.taken ++ p.queue ++ p.unsent := by
  cases h with
  | send live next room => simp [next]
  | take next free => simp [next]
  | close live sent still => rfl
  | finish works room => rfl
  | leave ended empty free => rfl
  | collect ended next => rfl
  | done live ended empty left => rfl

theorem Reachable.order (h : Reachable work items workers p) :
    p.taken ++ p.queue ++ p.unsent = items := by
  induction h with
  | start => rfl
  | step _ next ih => exact next.order.trans ih

/-- An item that was handed out is in progress or has one answer. -/
theorem Reachable.handed (h : Reachable work items workers p) :
    (p.taken.map work).Perm (p.inProgress.map work ++ p.results ++ p.collected) := by
  classical
  have hperm := h.perm
  rw [← h.order, List.perm_iff_count] at hperm
  rw [List.perm_iff_count]
  intro y
  have hcount := hperm y
  simp only [answers, List.map_append, List.count_append] at hcount ⊢
  omega

theorem Step.workers_length (h : Step work capacity p q) :
    q.workers.length = p.workers.length := by
  cases h with
  | take next free => simp [free]
  | finish works room => simp [works]
  | leave ended empty free => simp [free]
  | send live next room => rfl
  | close live sent still => rfl
  | collect ended next => rfl
  | done live ended empty left => rfl

theorem Reachable.workers_length (h : Reachable work items workers p) :
    p.workers.length = workerCount workers items.length := by
  induction h with
  | start => exact List.length_replicate
  | step _ next ih => exact next.workers_length.trans ih

theorem Reachable.inProgress_length_le (h : Reachable work items workers p) :
    p.inProgress.length ≤ workerCount workers items.length :=
  h.workers_length ▸ List.length_filterMap_le _ p.workers

/-- There is room for an item that is still to be sent. -/
theorem Reachable.queue_room (h : Reachable work items workers p) {x : α} {xs : List α}
    (next : p.unsent = x :: xs) : p.queue.length < items.length := by
  have hlength := congrArg List.length h.order
  simp only [next, List.length_append, List.length_cons] at hlength
  omega

/-- There is room for the answer to an item in progress. -/
theorem Reachable.results_room (h : Reachable work items workers p) {x : α}
    (works : .busy x ∈ p.workers) : p.results.length < items.length := by
  have hbusy : x ∈ p.inProgress := List.mem_filterMap.mpr ⟨.busy x, works, rfl⟩
  have hlength := h.perm.length_eq
  have hpos := List.length_pos_of_mem hbusy
  simp only [answers, List.length_append, List.length_map] at hlength
  omega

/-- A pool that is not done is never stuck. -/
theorem Reachable.progress (h : Reachable work items workers p) (live : p.isDone = false) :
    ∃ q, Step work items.length p q := by
  cases hunsent : p.unsent with
  | cons x xs => exact ⟨_, .send live hunsent (h.queue_room hunsent)⟩
  | nil =>
    cases hopen : p.isOpen with
    | true => exact ⟨_, .close live hunsent hopen⟩
    | false =>
      cases hresults : p.results with
      | cons y ys => exact ⟨_, .collect hopen hresults⟩
      | nil =>
        by_cases left : ∀ w ∈ p.workers, w = .gone
        · exact ⟨_, .done live hopen hresults left⟩
        · -- A worker that is left finishes its item, takes the next or leaves.
          obtain ⟨w, hw, hstays⟩ : ∃ w ∈ p.workers, w ≠ .gone := by simpa using left
          obtain ⟨before, after, hsplit⟩ := List.append_of_mem hw
          cases w with
          | gone => exact absurd rfl hstays
          | busy x => exact ⟨_, .finish hsplit (h.results_room hw)⟩
          | idle =>
            cases hqueue : p.queue with
            | cons x xs => exact ⟨_, .take hqueue hsplit⟩
            | nil => exact ⟨_, .leave hopen hqueue hsplit⟩

/-- The steps that are left: an item is sent, taken, finished and collected, a worker leaves once,
and the queue is closed once before the pool is done. -/
def stepsLeft (p : WorkerPool α β) : Nat :=
  4 * p.unsent.length + 3 * p.queue.length + 2 * p.inProgress.length + p.results.length
    + (p.workers.filter fun
        | .gone => false
        | _ => true).length
    + p.isOpen.toNat + (!p.isDone).toNat

theorem Step.stepsLeft (h : Step work capacity p q) : q.stepsLeft + 1 = p.stepsLeft := by
  cases h with
  | send live next room =>
    simp only [WorkerPool.stepsLeft, inProgress, next, List.length_append, List.length_cons,
      List.length_nil]
    omega
  | close live sent still =>
    simp only [WorkerPool.stepsLeft, inProgress, still, Bool.toNat_true, Bool.toNat_false]
    omega
  | take next free =>
    simp only [WorkerPool.stepsLeft, inProgress, next, free, List.filterMap_append,
      List.filterMap_cons, List.filter_append, List.filter_cons, List.length_append,
      List.length_cons, reduceIte]
    omega
  | finish works room =>
    simp only [WorkerPool.stepsLeft, inProgress, works, List.filterMap_append,
      List.filterMap_cons, List.filter_append, List.filter_cons, List.length_append,
      List.length_cons, List.length_nil, reduceIte]
    omega
  | leave ended empty free =>
    simp only [WorkerPool.stepsLeft, inProgress, free, List.filterMap_append,
      List.filterMap_cons, List.filter_append, List.filter_cons, List.length_append,
      List.length_cons, reduceIte, Bool.false_eq_true]
    omega
  | collect ended next =>
    simp only [WorkerPool.stepsLeft, inProgress, next, List.length_cons]
    omega
  | done live ended empty left =>
    simp only [WorkerPool.stepsLeft, inProgress, live, Bool.not_true, Bool.not_false,
      Bool.toNat_true, Bool.toNat_false]

/-- No run goes on for ever. -/
theorem Step.wellFounded : WellFounded fun q p : WorkerPool α β => Step work capacity p q :=
  Subrelation.wf (fun h => Nat.lt_of_succ_le h.stepsLeft.le)
    (measure (@WorkerPool.stepsLeft α β)).wf

theorem Reachable.ends (h : Reachable work items workers p) :
    ∃ q, Relation.ReflTransGen (Step work items.length) p q ∧ q.isDone = true := by
  induction p using (@Step.wellFounded _ _ work items.length).induction with
  | _ p ih =>
    cases hdone : p.isDone with
    | true => exact ⟨p, .refl, hdone⟩
    | false =>
      obtain ⟨q, next⟩ := h.progress hdone
      obtain ⟨r, hrun, hend⟩ := ih q next (h.step next)
      exact ⟨r, .head next hrun, hend⟩

/-- Whatever the order of the steps, a pool hands out each item once, has a bounded number of them
in progress, is never stuck before it is done, and returns the answers of all items. -/
theorem Reachable.loses_nothing (h : Reachable work items workers p) :
    p.inProgress.length ≤ max 1 (min workers items.length) ∧
    p.taken ++ p.queue ++ p.unsent = items ∧
    (p.taken.map work).Perm (p.inProgress.map work ++ p.results ++ p.collected) ∧
    (p.isDone = false → ∃ q, Step work items.length p q) ∧
    (∃ q, Relation.ReflTransGen (Step work items.length) p q ∧ q.isDone = true) ∧
    (p.isDone = true → p.taken = items ∧ p.collected.Perm (items.map work)) := by
  refine ⟨h.inProgress_length_le, h.order, h.handed, h.progress, h.ends, fun hdone => ?_⟩
  obtain ⟨hunsent, hqueue, -, -⟩ := h.orderly.done hdone
  have horder := h.order
  simp only [hunsent, hqueue, List.append_nil] at horder
  exact ⟨horder, h.collected_perm hdone⟩

/-- Two workers answer two items in the other order. -/
theorem Reachable.loses_nothing_overtaken :
    let p : WorkerPool Nat Nat := ⟨[], false, [], [.gone, .gone], [1, 2], [], [20, 10], true⟩
    p.inProgress.length ≤ max 1 (min 5 [1, 2].length) ∧ p.taken = [1, 2] ∧
      p.collected.Perm ([1, 2].map (10 * ·)) := by
  have hrun : Reachable (10 * ·) [1, 2] 5
      ⟨[], false, [], [.gone, .gone], [1, 2], [], [20, 10], true⟩ := by
    refine Reachable.start
      |>.step (.send rfl rfl (by decide))
      |>.step (@Step.take _ _ _ _ _ 1 [] [] [.idle] rfl rfl)
      |>.step (.send rfl rfl (by decide))
      |>.step (@Step.take _ _ _ _ _ 2 [] [.busy 1] [] rfl rfl)
      |>.step (.close rfl rfl rfl)
      |>.step (@Step.finish _ _ _ _ _ 2 [.busy 1] [] rfl (by decide))
      |>.step (@Step.leave _ _ _ _ _ [.busy 1] [] rfl rfl rfl)
      |>.step (@Step.finish _ _ _ _ _ 1 [] [.gone] rfl (by decide))
      |>.step (@Step.leave _ _ _ _ _ [] [.gone] rfl rfl rfl)
      |>.step (.collect rfl rfl)
      |>.step (.collect rfl rfl)
      |>.step (.done rfl rfl rfl (by decide))
  obtain ⟨hbound, -, -, -, -, hend⟩ := hrun.loses_nothing
  exact ⟨hbound, hend rfl⟩

end PodTraffic.WorkerPool
