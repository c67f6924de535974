import Mathlib.Tactic

/-!
# Steps that may fail

A sequence of steps gives a result just when each step does; a list is run by running its members.
-/
namespace PodTraffic.Fallible

variable {ε α β γ : Type}

theorem bind_eq_ok_iff {x : Except ε α} {f : α → Except ε β} {b : β} :
    x >>= f = .ok b ↔ ∃ a, x = .ok a ∧ f a = .ok b := by
  cases x with
  | error e => simp [bind, Except.bind]
  | ok a => simp [bind, Except.bind]

theorem then_eq_ok_iff {x : Except ε Unit} {y : Except ε β} {b : β} :
    (x >>= fun _ => y) = .ok b ↔ x = .ok () ∧ y = .ok b := by
  rw [bind_eq_ok_iff]
  constructor
  · intro h
    obtain ⟨_, hx, hy⟩ := h
    exact ⟨hx, hy⟩
  · intro h
    exact ⟨(), h⟩

theorem map_eq_ok_iff {x : Except ε α} {f : α → β} {b : β} :
    f <$> x = .ok b ↔ ∃ a, x = .ok a ∧ f a = b := by
  cases x with
  | error e => simp [Functor.map, Except.map]
  | ok a => simp [Functor.map, Except.map]

theorem pure_eq_ok_iff {a b : α} : (pure a : Except ε α) = .ok b ↔ a = b := by
  simp [pure, Except.pure]

theorem not_throw_eq_ok {e : ε} {a : α} : (throw e : Except ε α) ≠ .ok a := by
  intro h
  cases h

theorem bind_eq_error_iff {x : Except ε α} {f : α → Except ε β} {e : ε} :
    x >>= f = .error e ↔ x = .error e ∨ ∃ a, x = .ok a ∧ f a = .error e := by
  cases x with
  | error e' => simp [bind, Except.bind]
  | ok a => simp [bind, Except.bind]

theorem map_eq_error_iff {x : Except ε α} {f : α → β} {e : ε} :
    f <$> x = .error e ↔ x = .error e := by
  cases x with
  | error e' => simp [Functor.map, Except.map]
  | ok a => simp [Functor.map, Except.map]

theorem ok_if_eq_error_iff {c : Prop} [Decidable c] {a : α} {e e' : ε} :
    (if c then Except.ok a else .error e) = .error e' ↔ ¬ c ∧ e' = e := by
  split
  · next hc => simp [hc]
  · next hc => simp [hc, eq_comm]

theorem error_if_eq_error_iff {c : Prop} [Decidable c] {x : Except ε α} {e e' : ε} :
    (if c then .error e else x) = .error e' ↔ c ∧ e' = e ∨ ¬ c ∧ x = .error e' := by
  split
  · next hc => simp [hc, eq_comm]
  · next hc => simp [hc]

/-- A test of the result, if there is one, tells that there is. -/
theorem exists_ok_of_any {x : Except ε α} {p : α → Bool} (h : x.toOption.any p = true) :
    ∃ a, x = .ok a ∧ p a = true := by
  cases x with
  | error e => cases h
  | ok a => exact ⟨a, rfl, h⟩

/-- Checks in order succeed when each does. -/
theorem forM_eq_ok_iff {f : α → Except ε Unit} {xs : List α} :
    xs.forM f = .ok () ↔ ∀ x ∈ xs, f x = .ok () := by
  induction xs with
  | nil => simp [List.forM, pure, Except.pure]
  | cons x xs ih =>
    change (f x >>= fun _ => xs.forM f) = .ok () ↔ _
    rw [then_eq_ok_iff, List.forall_mem_cons, ih]

theorem mapM_eq_ok_iff {f : α → Except ε β} {xs : List α} {ys : List β} :
    xs.mapM f = .ok ys ↔ List.Forall₂ (fun x y => f x = .ok y) xs ys := by
  induction xs generalizing ys with
  | nil => cases ys <;> simp [pure_eq_ok_iff]
  | cons x xs ih =>
    rw [List.mapM_cons, bind_eq_ok_iff]
    constructor
    · intro hx
      obtain ⟨y, hy, h⟩ := hx
      obtain ⟨rest, hrest, h⟩ := bind_eq_ok_iff.mp h
      obtain rfl := pure_eq_ok_iff.mp h
      exact .cons hy (ih.mp hrest)
    · intro h
      obtain ⟨y, rest, hy, hrest, rfl⟩ := List.forall₂_cons_left_iff.mp h
      refine ⟨y, hy, ?_⟩
      rw [ih.mpr hrest]
      rfl

/-- Steps that do not look at their places. -/
theorem mapM_zipIdx (f : α → Except ε β) (xs : List α) :
    (xs.zipIdx.mapM fun x => f x.1) = xs.mapM f := by
  conv_rhs => rw [← List.zipIdx_map_fst 0 xs, List.mapM_map]
  rfl

/-- A list of steps succeeds when every step does. -/
theorem exists_mapM_eq_ok_iff {f : α → Except ε β} {xs : List α} :
    (∃ ys, xs.mapM f = .ok ys) ↔ ∀ x ∈ xs, ∃ y, f x = .ok y := by
  simp only [mapM_eq_ok_iff]
  induction xs with
  | nil => simp
  | cons x xs ih =>
    simp only [List.forall₂_cons_left_iff, List.forall_mem_cons, ← ih]
    constructor
    · intro h
      obtain ⟨-, y, rest, hy, hrest, rfl⟩ := h
      exact ⟨⟨y, hy⟩, rest, hrest⟩
    · intro h
      obtain ⟨⟨y, hy⟩, rest, hrest⟩ := h
      exact ⟨y :: rest, y, rest, hy, hrest, rfl⟩

/-- What every step keeps, a run of steps keeps. -/
theorem kept_by_foldlM {P : γ → Prop} {f : γ → α → Except ε γ}
    (step : ∀ s x s', P s → f s x = .ok s' → P s') {xs : List α} {s s' : γ}
    (h : xs.foldlM f s = .ok s') (hs : P s) : P s' := by
  induction xs generalizing s with
  | nil => rwa [← pure_eq_ok_iff.mp h]
  | cons x xs ih =>
    rw [List.foldlM_cons, bind_eq_ok_iff] at h
    obtain ⟨t, hx, hrest⟩ := h
    exact ih hrest (step s x t hs hx)

/-- The first step that fails decides the error. -/
theorem mapM_eq_error_iff {f : α → Except ε β} {xs : List α} {e : ε} :
    xs.mapM f = .error e ↔
      ∃ before x after, xs = before ++ x :: after ∧ (∀ y ∈ before, ∃ b, f y = .ok b) ∧
        f x = .error e := by
  induction xs with
  | nil => simp [pure, Except.pure]
  | cons x rest ih =>
    rw [List.mapM_cons, bind_eq_error_iff]
    constructor
    · intro h
      rcases h with hx | ⟨b, hb, hrest⟩
      · exact ⟨[], x, rest, rfl, by simp, hx⟩
      · have hrest : rest.mapM f = .error e := map_eq_error_iff.mp hrest
        obtain ⟨before, z, after, rfl, hbefore, hz⟩ := ih.mp hrest
        exact ⟨x :: before, z, after, rfl, List.forall_mem_cons.mpr ⟨⟨b, hb⟩, hbefore⟩, hz⟩
    · intro h
      obtain ⟨before, z, after, heq, hbefore, hz⟩ := h
      cases before with
      | nil =>
        obtain ⟨rfl, rfl⟩ := List.cons.inj heq
        exact .inl hz
      | cons first before =>
        obtain ⟨rfl, rfl⟩ := List.cons.inj heq
        obtain ⟨⟨b, hb⟩, hbefore⟩ := List.forall_mem_cons.mp hbefore
        have hrest := ih.mpr ⟨before, z, after, rfl, hbefore, hz⟩
        exact .inr ⟨b, hb, map_eq_error_iff.mpr hrest⟩

/-- Members that are computed one by one and added to a state are all computed first. -/
theorem foldlM_map {f : α → Except ε β} {add : γ → β → γ} {xs : List α} {s : γ} :
    xs.foldlM (fun s x => add s <$> f x) s = (fun ys => ys.foldl add s) <$> xs.mapM f := by
  induction xs generalizing s with
  | nil => rfl
  | cons x rest ih =>
    rw [List.foldlM_cons, List.mapM_cons]
    cases hx : f x with
    | error e => rfl
    | ok y =>
      change rest.foldlM (fun s x => add s <$> f x) (add s y) = _
      rw [ih]
      cases hrest : rest.mapM f <;> rfl

theorem foldlM_map_eq_ok_iff {f : α → Except ε β} {add : γ → β → γ} {xs : List α} {s s' : γ} :
    xs.foldlM (fun s x => add s <$> f x) s = .ok s' ↔
      ∃ ys, xs.mapM f = .ok ys ∧ ys.foldl add s = s' := by
  rw [foldlM_map, map_eq_ok_iff]

theorem foldlM_map_eq_error_iff {f : α → Except ε β} {add : γ → β → γ} {xs : List α} {s : γ}
    {e : ε} :
    xs.foldlM (fun s x => add s <$> f x) s = .error e ↔
      ∃ before x after, xs = before ++ x :: after ∧ (∀ y ∈ before, ∃ b, f y = .ok b) ∧
        f x = .error e := by
  rw [foldlM_map, map_eq_error_iff, mapM_eq_error_iff]

/-- Both fail with one error, or neither fails. -/
def FailAlike (x : Except ε α) (y : Except ε β) : Prop := ∀ e, x = .error e ↔ y = .error e

namespace FailAlike

variable {x : Except ε α} {y : Except ε β}

theorem refl (x : Except ε α) : FailAlike x x := fun _ => Iff.rfl

theorem symm (h : FailAlike x y) : FailAlike y x := fun e => (h e).symm

theorem exists_ok (h : FailAlike x y) {a : α} (hx : x = .ok a) : ∃ b, y = .ok b := by
  cases hy : y with
  | ok b => exact ⟨b, rfl⟩
  | error e =>
    rw [(h e).mpr hy] at hx
    cases hx

theorem map {α' β' : Type} (h : FailAlike x y) (f : α → α') (g : β → β') :
    FailAlike (f <$> x) (g <$> y) := by
  intro e
  rw [map_eq_error_iff, map_eq_error_iff]
  exact h e

/-- Steps that fail alike in all states make runs that do. -/
theorem foldlM {f : α → γ → Except ε α} {g : β → γ → Except ε β}
    (h : ∀ a b c, FailAlike (f a c) (g b c)) (xs : List γ) (a : α) (b : β) :
    FailAlike (xs.foldlM f a) (xs.foldlM g b) := by
  induction xs generalizing a b with
  | nil =>
    intro e
    simp [pure, Except.pure]
  | cons c rest ih =>
    intro e
    rw [List.foldlM_cons, List.foldlM_cons, bind_eq_error_iff, bind_eq_error_iff]
    refine or_congr (h a b c e) ⟨?_, ?_⟩
    · intro hrest
      obtain ⟨a', ha', hrest⟩ := hrest
      obtain ⟨b', hb'⟩ := (h a b c).exists_ok ha'
      exact ⟨b', hb', (ih a' b' e).mp hrest⟩
    · intro hrest
      obtain ⟨b', hb', hrest⟩ := hrest
      obtain ⟨a', ha'⟩ := (h a b c).symm.exists_ok hb'
      exact ⟨a', ha', (ih a' b' e).mpr hrest⟩

end FailAlike

theorem mem_of_forall₂ {R : α → β → Prop} {xs : List α} {ys : List β} (h : List.Forall₂ R xs ys)
    {y : β} (hy : y ∈ ys) : ∃ x ∈ xs, R x y := by
  induction h with
  | nil => simp at hy
  | cons hxy _ ih =>
    rcases List.mem_cons.mp hy with rfl | hy
    · exact ⟨_, by simp, hxy⟩
    · obtain ⟨x, hx, hr⟩ := ih hy
      exact ⟨x, by simp [hx], hr⟩

theorem exists_of_forall₂ {R : α → β → Prop} {xs : List α} {ys : List β}
    (h : List.Forall₂ R xs ys) {x : α} (hx : x ∈ xs) : ∃ y ∈ ys, R x y :=
  mem_of_forall₂ h.flip hx

/-- What two lists share with a third one, place by place, relates them. -/
theorem forall₂_of_common {R : α → β → Prop} {S : α → γ → Prop} {T : β → γ → Prop}
    {xs : List α} {ys : List β} {zs : List γ} (h : List.Forall₂ R xs ys)
    (h' : List.Forall₂ S xs zs) (hT : ∀ x y z, R x y → S x z → T y z) : List.Forall₂ T ys zs := by
  induction h generalizing zs with
  | nil =>
    cases h'
    exact .nil
  | cons hxy _ ih =>
    cases h' with
    | cons hxz hrest => exact .cons (hT _ _ _ hxy hxz) (ih hrest)

/-- The results are what the members give. -/
theorem mem_iff_of_mapM {f : α → Except ε β} {xs : List α} {ys : List β} (h : xs.mapM f = .ok ys)
    (y : β) : y ∈ ys ↔ ∃ x ∈ xs, f x = .ok y := by
  have hmembers := mapM_eq_ok_iff.mp h
  constructor
  · exact mem_of_forall₂ hmembers
  · intro hx
    obtain ⟨x, hx, hy⟩ := hx
    obtain ⟨y', hy', hfy⟩ := exists_of_forall₂ hmembers hx
    rw [hy] at hfy
    cases hfy
    exact hy'

end PodTraffic.Fallible
