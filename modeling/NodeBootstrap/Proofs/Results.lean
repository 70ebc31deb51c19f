import Mathlib.Data.List.Forall2

/-! # Results

What the steps of a computation that can fail have given, read off from its own result. -/

namespace NodeBootstrap

variable {ε ε' α β : Type} {x y : Except ε α} {f : α → Except ε β} {g : ε → ε'} {xs : List α}

/-! ## One step after another -/

@[simp] theorem ok_bind (a : α) (f : α → Except ε β) :
    ((Except.ok a : Except ε α) >>= f) = f a := rfl

@[simp] theorem error_bind (e : ε) (f : α → Except ε β) :
    ((Except.error e : Except ε α) >>= f) = .error e := rfl

theorem bind_eq_ok_iff {b : β} : x >>= f = .ok b ↔ ∃ a, x = .ok a ∧ f a = .ok b := by
  cases x with
  | error e => simp
  | ok a => simp

theorem error_of_bind_eq_error {e : ε} (h : x >>= f = .error e) :
    x = .error e ∨ ∃ a, x = .ok a ∧ f a = .error e := by
  cases x with
  | error e' =>
      cases h
      exact .inl rfl
  | ok a => exact .inr ⟨a, rfl, h⟩

/-! ## One step for each -/

theorem forall₂_of_mapM_eq_ok {ys : List β} (h : xs.mapM f = .ok ys) :
    List.Forall₂ (fun x y => f x = .ok y) xs ys := by
  induction xs generalizing ys with
  | nil =>
      obtain rfl := Except.ok.inj h
      exact .nil
  | cons x xs ih =>
      rw [List.mapM_cons] at h
      obtain ⟨y, hfirst, h⟩ := bind_eq_ok_iff.mp h
      obtain ⟨rest, hrest, h⟩ := bind_eq_ok_iff.mp h
      obtain rfl := Except.ok.inj h
      exact .cons hfirst (ih hrest)

theorem exists_of_mapM_eq_error {e : ε} (h : xs.mapM f = .error e) : ∃ x ∈ xs, f x = .error e := by
  induction xs with
  | nil => cases h
  | cons x xs ih =>
      rw [List.mapM_cons] at h
      rcases error_of_bind_eq_error h with hfirst | ⟨y, -, h⟩
      · exact ⟨x, List.mem_cons_self, hfirst⟩
      · rcases error_of_bind_eq_error h with hrest | ⟨ys, -, h⟩
        · obtain ⟨x', hx', h⟩ := ih hrest
          exact ⟨x', List.mem_cons_of_mem x hx', h⟩
        · cases h

/-! ## One value for each, if there is one -/

section
variable {f : α → Option β}

theorem mapM_eq_some_map {g : α → β} (h : ∀ x ∈ xs, f x = some (g x)) :
    xs.mapM f = some (xs.map g) := by
  induction xs with
  | nil => rfl
  | cons x xs ih =>
      obtain ⟨hfirst, hrest⟩ := List.forall_mem_cons.mp h
      rw [List.mapM_cons, hfirst, ih hrest]
      rfl

theorem exists_of_mem_of_mapM_eq_some {ys : List β} {y : β} (h : xs.mapM f = some ys)
    (hy : y ∈ ys) : ∃ x ∈ xs, f x = some y := by
  induction xs generalizing ys with
  | nil =>
      cases h
      cases hy
  | cons x xs ih =>
      rw [List.mapM_cons] at h
      obtain ⟨first, hfirst, h⟩ := Option.bind_eq_some_iff.mp h
      obtain ⟨rest, hrest, h⟩ := Option.bind_eq_some_iff.mp h
      cases h
      rcases List.mem_cons.mp hy with rfl | hy
      · exact ⟨x, List.mem_cons_self, hfirst⟩
      · obtain ⟨x', hx', h⟩ := ih hrest hy
        exact ⟨x', List.mem_cons_of_mem x hx', h⟩

end

/-! ## Errors told differently -/

theorem mapError_eq_ok_iff {a : α} : x.mapError g = .ok a ↔ x = .ok a := by
  cases x <;> simp [Except.mapError]

theorem exists_of_mapError_eq_error {e : ε'} (h : x.mapError g = .error e) :
    ∃ cause, e = g cause := by
  cases x with
  | error cause => exact ⟨cause, (Except.error.inj h).symm⟩
  | ok a => cases h

theorem ok_or_error_of_mapError_eq (h : x.mapError g = y.mapError g) :
    (∃ a, x = .ok a ∧ y = .ok a) ∨ ∃ e e', x = .error e ∧ y = .error e' ∧ g e = g e' := by
  cases x with
  | ok a =>
      cases y with
      | ok b => exact .inl ⟨a, rfl, congrArg Except.ok (Except.ok.inj h).symm⟩
      | error e' => cases h
  | error e =>
      cases y with
      | ok b => cases h
      | error e' => exact .inr ⟨e, e', rfl, rfl, Except.error.inj h⟩

end NodeBootstrap
