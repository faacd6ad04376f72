/-! Computations that can fail, taken apart. -/
namespace Tether
variable {ε α β : Type}

@[simp] theorem pure_eq_ok (a : α) : (pure a : Except ε α) = .ok a := rfl

@[simp] theorem throw_eq_error (e : ε) : (throw e : Except ε α) = .error e := rfl

@[simp] theorem ok_bind (a : α) (f : α → Except ε β) : (Except.ok a >>= f) = f a := rfl

@[simp] theorem error_bind (e : ε) (f : α → Except ε β) : (Except.error e >>= f) = .error e := rfl

theorem bind_eq_ok {x : Except ε α} {f : α → Except ε β} {b : β} :
    (x >>= f) = .ok b ↔ ∃ a, x = .ok a ∧ f a = .ok b := by
  cases x with
  | error e => simp
  | ok a => simp

theorem map_eq_ok {x : Except ε α} {f : α → β} {b : β} :
    x.map f = .ok b ↔ ∃ a, x = .ok a ∧ f a = b := by
  cases x with
  | error e => simp [Except.map]
  | ok a => simp [Except.map]

theorem forM_append (f : α → Except ε Unit) (xs ys : List α) :
    (xs ++ ys).forM f = (do xs.forM f; ys.forM f) := List.forM_append

theorem forM_eq_ok {f : α → Except ε Unit} {xs : List α} :
    xs.forM f = .ok () ↔ ∀ x ∈ xs, f x = .ok () := by
  induction xs with
  | nil => simp
  | cons x xs ih =>
    rw [List.forM, bind_eq_ok, List.forall_mem_cons]
    constructor
    · rintro ⟨⟨⟩, hx, hxs⟩
      exact ⟨hx, ih.1 hxs⟩
    · rintro ⟨hx, hxs⟩
      exact ⟨(), hx, ih.2 hxs⟩

/-- In a list that is in order, the first failure is the one before which all succeed. -/
theorem forM_eq_error {f : α → Except ε Unit} {r : α → α → Prop} (hr : ∀ x y, r x y → ¬ r y x)
    {xs : List α} (hx : xs.Pairwise r) {e : ε} :
    xs.forM f = .error e ↔ ∃ x ∈ xs, f x = .error e ∧ ∀ y ∈ xs, r y x → f y = .ok () := by
  induction xs with
  | nil => simp
  | cons x xs ih =>
    obtain ⟨hb, hxs⟩ := List.pairwise_cons.1 hx
    rw [List.forM]
    cases hf : f x with
    | error e' =>
      rw [error_bind]
      constructor
      · rintro ⟨⟩
        refine ⟨x, List.mem_cons_self, hf, fun y hy hyx => ?_⟩
        -- nothing stands before the first element
        rcases List.mem_cons.1 hy with rfl | hy
        · exact absurd hyx (hr _ _ hyx)
        · exact absurd hyx (hr _ _ (hb y hy))
      · rintro ⟨z, hz, hfz, hbz⟩
        rcases List.mem_cons.1 hz with rfl | hz
        · exact hf.symm.trans hfz
        · cases hf.symm.trans (hbz x List.mem_cons_self (hb z hz))
    | ok u =>
      rw [ok_bind, ih hxs]
      constructor
      · rintro ⟨z, hz, hfz, hbz⟩
        refine ⟨z, List.mem_cons_of_mem x hz, hfz, fun y hy hyz => ?_⟩
        rcases List.mem_cons.1 hy with rfl | hy
        · exact hf
        · exact hbz y hy hyz
      · rintro ⟨z, hz, hfz, hbz⟩
        rcases List.mem_cons.1 hz with rfl | hz
        · cases hf.symm.trans hfz
        · exact ⟨z, hz, hfz, fun y hy hyz => hbz y (List.mem_cons_of_mem x hy) hyz⟩

end Tether
