import PodTraffic.Proofs.Fallible

/-!
# Steps that change a state and may fail

A step gives an answer or an error, and a state in both cases. What a sequence of steps does is told
by its runs; what every run keeps is told without looking at single states.
-/
namespace PodTraffic.Stateful

theorem run_stateM_bind {σ α β : Type} (x : StateM σ α) (f : α → StateM σ β) (s : σ) :
    (x >>= f).run s = (f (x.run s).1).run (x.run s).2 := rfl

/-- Work that is done in order, each time in a state in which it does what it should. -/
theorem run_mapM {σ α β : Type} {work : α → StateM σ β} {f : α → β} {I : σ → Prop} {items : List α}
    (hwork : ∀ x ∈ items, ∀ s, I s → ∃ s', (work x).run s = (f x, s') ∧ I s') {s : σ} (hs : I s) :
    ∃ s', (items.mapM work).run s = (items.map f, s') ∧ I s' := by
  induction items generalizing s with
  | nil => exact ⟨s, rfl, hs⟩
  | cons x rest ih =>
    obtain ⟨middle, hx, hmiddle⟩ := hwork x List.mem_cons_self s hs
    obtain ⟨last, hrest, hlast⟩ := ih (fun y hy => hwork y (List.mem_cons_of_mem x hy)) hmiddle
    refine ⟨last, ?_, hlast⟩
    rw [List.mapM_cons, run_stateM_bind, hx, run_stateM_bind, hrest]
    rfl

variable {ε σ α β : Type} {x : ExceptT ε (StateM σ) α} {f : α → ExceptT ε (StateM σ) β} {s s' : σ}

/-- A step that answers hands its answer and its state to the next one. -/
theorem run_bind_of_ok {a : α} (h : x.run.run s = (.ok a, s')) :
    (x >>= f).run.run s = (f a).run.run s' := by
  change (ExceptT.bindCont f (x.run.run s).1).run (x.run.run s).2 = (f a).run.run s'
  rw [h]
  rfl

/-- After a step that fails there is no next one. -/
theorem run_bind_of_error {e : ε} (h : x.run.run s = (.error e, s')) :
    (x >>= f).run.run s = (.error e, s') := by
  change (ExceptT.bindCont f (x.run.run s).1).run (x.run.run s).2 = (.error e, s')
  rw [h]
  rfl

/-- A sequence answers only if both of its steps do. -/
theorem exists_of_run_bind {b : β} (h : (x >>= f).run.run s = (.ok b, s')) :
    ∃ a s₁, x.run.run s = (.ok a, s₁) ∧ (f a).run.run s₁ = (.ok b, s') := by
  cases hx : x.run.run s with
  | mk answer s₁ =>
    cases answer with
    | error e =>
      rw [run_bind_of_error hx] at h
      cases h
    | ok a => exact ⟨a, s₁, rfl, by rwa [run_bind_of_ok hx] at h⟩

/-- A test of the answer, if there is one, and the state tells that there is. -/
theorem exists_run_of_any {p : α → σ → Bool}
    (h : ((x.run.run s).1.toOption.any fun a => p a (x.run.run s).2) = true) :
    ∃ a s', x.run.run s = (.ok a, s') ∧ p a s' = true := by
  cases hx : x.run.run s with
  | mk answer s' =>
    rw [hx] at h
    obtain ⟨a, rfl, ha⟩ := Fallible.exists_ok_of_any h
    exact ⟨a, s', rfl, ha⟩

theorem run_get_bind (f : σ → ExceptT ε (StateM σ) β) (s : σ) :
    (get >>= f).run.run s = (f s).run.run s := rfl

theorem run_discard_of_ok {a : α} (h : x.run.run s = (.ok a, s')) :
    (discard x).run.run s = (.ok (), s') := by
  change ((fun _ => ()) <$> x).run.run s = (.ok (), s')
  rw [map_eq_pure_bind]
  exact run_bind_of_ok h

theorem run_discard_of_error {e : ε} (h : x.run.run s = (.error e, s')) :
    (discard x).run.run s = (.error e, s') := by
  change ((fun _ => ()) <$> x).run.run s = (.error e, s')
  rw [map_eq_pure_bind]
  exact run_bind_of_error h

theorem run_tryCatch_of_ok {handle : ε → ExceptT ε (StateM σ) α} {a : α}
    (h : x.run.run s = (.ok a, s')) : (tryCatch x handle).run.run s = (.ok a, s') := by
  have hrun : (tryCatch x handle).run.run s =
      ((x.run >>= fun answer => match answer with
        | .ok a => pure (.ok a)
        | .error e => (handle e).run : StateM σ (Except ε α))).run s := rfl
  rw [hrun, run_stateM_bind, h]
  rfl

theorem run_tryCatch_of_error {handle : ε → ExceptT ε (StateM σ) α} {e : ε}
    (h : x.run.run s = (.error e, s')) :
    (tryCatch x handle).run.run s = (handle e).run.run s' := by
  have hrun : (tryCatch x handle).run.run s =
      ((x.run >>= fun answer => match answer with
        | .ok a => pure (.ok a)
        | .error e => (handle e).run : StateM σ (Except ε α))).run s := rfl
  rw [hrun, run_stateM_bind, h]

/-- A loop whose steps all answer: `P` tells of the state what the items so far have done to it. -/
theorem run_forM {f : α → ExceptT ε (StateM σ) Unit} {xs : List α} (P : List α → σ → Prop)
    (start : P [] s)
    (step : ∀ done s, ∀ x ∈ xs, P done s →
      ∃ s', (f x).run.run s = (.ok (), s') ∧ P (done ++ [x]) s') :
    ∃ s', (xs.forM f).run.run s = (.ok (), s') ∧ P xs s' := by
  -- the items done and those to come, for the steps know of both
  have hrest : ∀ rest done s, (∀ x ∈ rest, x ∈ xs) → P done s →
      ∃ s', (rest.forM f).run.run s = (.ok (), s') ∧ P (done ++ rest) s' := by
    intro rest
    induction rest with
    | nil =>
      intro done s _ hs
      exact ⟨s, rfl, by rwa [List.append_nil]⟩
    | cons x rest ih =>
      intro done s hmem hs
      obtain ⟨s', hx, hs'⟩ := step done s x (hmem x List.mem_cons_self) hs
      obtain ⟨s'', hrun, hs''⟩ := ih (done ++ [x]) s' (fun y hy => hmem y (.tail _ hy)) hs'
      refine ⟨s'', ?_, by simpa using hs''⟩
      change (f x >>= fun _ => rest.forM f).run.run s = _
      rw [run_bind_of_ok hx, hrun]
  simpa using hrest xs [] s (fun _ hx => hx) start

/-- Items that are taken one after the other, each with what comes of it. -/
inductive Threads (R : σ → α → β → σ → Prop) : σ → List α → List β → σ → Prop where
  | nil (s : σ) : Threads R s [] [] s
  | cons {s s₁ s' : σ} {x : α} {xs : List α} {y : β} {ys : List β} (h : R s x y s₁)
      (hrest : Threads R s₁ xs ys s') : Threads R s (x :: xs) (y :: ys) s'

namespace Threads

variable {R : σ → α → β → σ → Prop} {xs : List α} {ys : List β}

theorem forall₂ (h : Threads R s xs ys s') {P : α → β → Prop}
    (hP : ∀ s x y s', R s x y s' → P x y) : List.Forall₂ P xs ys := by
  induction h with
  | nil s => exact .nil
  | cons h hrest ih => exact .cons (hP _ _ _ _ h) ih

theorem length_eq (h : Threads R s xs ys s') : xs.length = ys.length :=
  (h.forall₂ fun _ _ _ _ _ => trivial : List.Forall₂ (fun _ _ => True) xs ys).length_eq

theorem forall_mem (h : Threads R s xs ys s') {P : β → Prop}
    (hP : ∀ s x y s', R s x y s' → P y) : ∀ y ∈ ys, P y := by
  induction h with
  | nil s => exact List.forall_mem_nil P
  | cons h hrest ih => exact List.forall_mem_cons.mpr ⟨hP _ _ _ _ h, ih⟩

end Threads

/-- A step that changes nothing, and answers just when `P` holds. -/
def Checks (x : ExceptT ε (StateM σ) Unit) (s : σ) (P : Prop) : Prop :=
  ∃ answer, x.run.run s = (answer, s) ∧ (answer = .ok () ↔ P)

namespace Checks

variable {x y : ExceptT ε (StateM σ) Unit} {P Q : Prop}

theorem pure (s : σ) : Checks (pure () : ExceptT ε (StateM σ) Unit) s True := ⟨.ok (), rfl, by simp⟩

theorem throw (e : ε) (s : σ) : Checks (throw e : ExceptT ε (StateM σ) Unit) s False :=
  ⟨.error e, rfl, by simp⟩

theorem congr (h : Checks x s P) (hpq : P ↔ Q) : Checks x s Q := by
  obtain ⟨answer, hx, hp⟩ := h
  exact ⟨answer, hx, hp.trans hpq⟩

theorem run_eq_ok_iff (h : Checks x s P) : x.run.run s = (.ok (), s') ↔ s' = s ∧ P := by
  obtain ⟨answer, hx, hp⟩ := h
  rw [hx, ← hp]
  constructor
  · intro heq
    cases heq
    exact ⟨rfl, rfl⟩
  · intro heq
    obtain ⟨rfl, rfl⟩ := heq
    rfl

/-- What comes after a check runs only where it holds. -/
theorem seq (hx : Checks x s P) (hy : P → Checks y s Q) : Checks (x >>= fun _ => y) s (P ∧ Q) := by
  obtain ⟨answer, hrun, hp⟩ := hx
  cases answer with
  | error e => exact ⟨.error e, run_bind_of_error hrun, by simp [← hp]⟩
  | ok _ =>
    have hholds : P := hp.mp rfl
    obtain ⟨answer, hnext, hq⟩ := hy hholds
    exact ⟨answer, (run_bind_of_ok hrun).trans hnext, by simp [hq, hholds]⟩

theorem forM {f : α → ExceptT ε (StateM σ) Unit} {xs : List α} {P : α → Prop}
    (h : ∀ x ∈ xs, Checks (f x) s (P x)) : Checks (xs.forM f) s (∀ x ∈ xs, P x) := by
  induction xs with
  | nil => exact (pure s).congr (by simp)
  | cons x xs ih =>
    obtain ⟨hx, hrest⟩ := List.forall_mem_cons.mp h
    exact (hx.seq fun _ => ih hrest).congr List.forall_mem_cons.symm

end Checks

/-- Every run from a state with `I` ends in one, and what it answers has `Q`. -/
def Keeps (I : σ → Prop) (x : ExceptT ε (StateM σ) α) (Q : α → Prop) : Prop :=
  ∀ s, I s → I (x.run.run s).2 ∧ ∀ a, (x.run.run s).1 = .ok a → Q a

namespace Keeps

variable {I : σ → Prop} {Q : α → Prop} {R : β → Prop}

theorem of_run (h : Keeps I x Q) (hs : I s) {answer : Except ε α}
    (hx : x.run.run s = (answer, s')) : I s' := by
  have hkept := (h s hs).1
  rwa [hx] at hkept

theorem answer_of_run (h : Keeps I x Q) (hs : I s) {a : α} (hx : x.run.run s = (.ok a, s')) :
    Q a := by
  refine (h s hs).2 a ?_
  rw [hx]

theorem pure {a : α} (h : Q a) : Keeps I (Pure.pure a : ExceptT ε (StateM σ) α) Q := by
  intro s hs
  refine ⟨hs, fun b hb => ?_⟩
  cases hb
  exact h

theorem throw (e : ε) : Keeps I (MonadExcept.throw e : ExceptT ε (StateM σ) α) Q := by
  intro s hs
  exact ⟨hs, fun _ hb => nomatch hb⟩

theorem bind (h : Keeps I x Q) (hf : ∀ a, Q a → Keeps I (f a) R) : Keeps I (x >>= f) R := by
  intro s hs
  cases hx : x.run.run s with
  | mk answer s' =>
    have hs' := h.of_run hs hx
    cases answer with
    | error e =>
      rw [run_bind_of_error hx]
      exact ⟨hs', fun _ hb => nomatch hb⟩
    | ok a =>
      rw [run_bind_of_ok hx]
      exact hf a (h.answer_of_run hs hx) s' hs'

theorem get_bind {f : σ → ExceptT ε (StateM σ) β} (h : ∀ s, I s → Keeps I (f s) R) :
    Keeps I (get >>= f) R :=
  fun s hs => h s hs s hs

theorem modify {g : σ → σ} (h : ∀ s, I s → I (g s)) :
    Keeps I (modify g : ExceptT ε (StateM σ) Unit) fun _ => True :=
  fun s hs => ⟨h s hs, fun _ _ => trivial⟩

theorem discard (h : Keeps I x Q) : Keeps I (Functor.discard x) fun _ => True := by
  change Keeps I ((fun _ => ()) <$> x) _
  rw [map_eq_pure_bind]
  exact h.bind fun _ _ => .pure trivial

theorem tryCatch {handle : ε → ExceptT ε (StateM σ) α} (h : Keeps I x Q)
    (hhandle : ∀ e, Keeps I (handle e) Q) : Keeps I (MonadExcept.tryCatch x handle) Q := by
  intro s hs
  cases hx : x.run.run s with
  | mk answer s' =>
    cases answer with
    | error e =>
      rw [run_tryCatch_of_error hx]
      exact hhandle e s' (h.of_run hs hx)
    | ok a =>
      rw [run_tryCatch_of_ok hx]
      refine ⟨h.of_run hs hx, fun b hb => ?_⟩
      cases hb
      exact h.answer_of_run hs hx

theorem forM {f : α → ExceptT ε (StateM σ) Unit} {xs : List α}
    (h : ∀ x ∈ xs, Keeps I (f x) fun _ => True) : Keeps I (xs.forM f) fun _ => True := by
  induction xs with
  | nil => exact .pure trivial
  | cons x xs ih =>
    change Keeps I (f x >>= fun _ => xs.forM f) _
    exact (h x List.mem_cons_self).bind fun _ _ => ih fun y hy => h y (.tail _ hy)

end Keeps

/-- The same of steps that cannot fail. -/
def Preserves (I : σ → Prop) (x : StateM σ α) : Prop := ∀ s, I s → I (x.run s).2

namespace Preserves

variable {I : σ → Prop}

theorem pure (a : α) : Preserves I (Pure.pure a : StateM σ α) := fun _ hs => hs

theorem bind {x : StateM σ α} {f : α → StateM σ β} (h : Preserves I x)
    (hf : ∀ a, Preserves I (f a)) : Preserves I (x >>= f) := by
  intro s hs
  rw [run_stateM_bind]
  exact hf _ _ (h s hs)

theorem mapM {f : α → StateM σ β} (h : ∀ a, Preserves I (f a)) (xs : List α) :
    Preserves I (xs.mapM f) := by
  induction xs with
  | nil => exact pure []
  | cons x xs ih =>
    rw [List.mapM_cons]
    exact (h x).bind fun _ => ih.bind fun _ => pure _

/-- The answer, be it an error, of steps that may fail. -/
theorem of_keeps {x : ExceptT ε (StateM σ) α} {Q : α → Prop} (h : Keeps I x Q) :
    Preserves I x.run := fun s hs => (h s hs).1

theorem lift {x : StateM σ α} (h : Preserves I x) :
    Keeps I (ExceptT.lift x : ExceptT ε (StateM σ) α) fun _ => True :=
  fun s hs => ⟨h s hs, fun _ _ => trivial⟩

end Preserves
end PodTraffic.Stateful
