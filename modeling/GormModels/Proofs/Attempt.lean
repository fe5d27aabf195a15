import Mathlib.Data.List.Forall2

/-!
# Computations that may fail

What it means that a computation in `Except` succeeds or fails, taken apart at its steps. A list is gone
through from the left and the first failure ends it, so a failed traversal splits the list there.
-/

namespace GormModels.Attempt

variable {ε ε' α β : Type}

theorem ok_bind {a : α} {f : α → Except ε β} : (.ok a >>= f) = f a := rfl

theorem bind_eq_ok_iff {x : Except ε α} {f : α → Except ε β} {b : β} :
    (x >>= f) = .ok b ↔ ∃ a, x = .ok a ∧ f a = .ok b := by
  cases x <;> simp [bind, Except.bind]

theorem bind_eq_error_iff {x : Except ε α} {f : α → Except ε β} {e : ε} :
    (x >>= f) = .error e ↔ x = .error e ∨ ∃ a, x = .ok a ∧ f a = .error e := by
  cases x <;> simp [bind, Except.bind]

theorem mapError_eq_error_iff {x : Except ε α} {f : ε → ε'} {e : ε'} :
    x.mapError f = .error e ↔ ∃ cause, x = .error cause ∧ f cause = e := by
  cases x <;> simp [Except.mapError]

theorem mapError_eq_ok_iff {x : Except ε α} {f : ε → ε'} {a : α} : x.mapError f = .ok a ↔ x = .ok a := by
  cases x <;> simp [Except.mapError]

theorem map_eq_ok_iff {x : Except ε α} {f : α → β} {b : β} :
    (f <$> x) = .ok b ↔ ∃ a, x = .ok a ∧ f a = b := by
  cases x <;> simp [Functor.map, Except.map]

theorem map_eq_error_iff {x : Except ε α} {f : α → β} {e : ε} :
    (f <$> x) = .error e ↔ x = .error e := by
  cases x <;> simp [Functor.map, Except.map]

theorem toOption_eq_some_iff {x : Except ε α} {a : α} : x.toOption = some a ↔ x = .ok a := by
  cases x <;> simp [Except.toOption]

theorem succeeds_ite {p : Prop} [Decidable p] {x y : Except ε α} (hx : ∃ a, x = .ok a) (hy : ∃ a, y = .ok a) :
    ∃ a, (if p then x else y) = .ok a := by
  split
  · exact hx
  · exact hy

/-- Every error has a report, and one of a kind if all reports are, unless there is an error without one. -/
theorem reported_iff {x : Except ε α} {report? : ε → Option β} {ofKind : β → Prop}
    (hkind : ∀ e r, report? e = some r → ofKind r) :
    (∀ e, x = .error e → ∃ r, report? e = some r ∧ ofKind r) ↔ ¬ ∃ e, x = .error e ∧ report? e = none := by
  constructor
  · rintro hreported ⟨e, herror, hnone⟩
    obtain ⟨r, hr, -⟩ := hreported e herror
    cases hnone.symm.trans hr
  · intro hreported e herror
    cases hr : report? e with
    | some r => exact ⟨r, rfl, hkind e r hr⟩
    | none => exact absurd ⟨e, herror, hr⟩ hreported

/-- A traversal succeeds when every step does, and then it collects their results in order. -/
theorem mapM_eq_ok_iff {f : α → Except ε β} {xs : List α} {ys : List β} :
    xs.mapM f = .ok ys ↔ List.Forall₂ (fun x y => f x = .ok y) xs ys := by
  induction xs generalizing ys with
  | nil => cases ys <;> simp [pure, Except.pure]
  | cons x xs ih =>
      simp only [List.mapM_cons, bind_eq_ok_iff]
      constructor
      · rintro ⟨y, hy, rest, hrest, heq⟩
        cases heq
        exact .cons hy (ih.mp hrest)
      · rintro (_ | ⟨hy, hrest⟩)
        exact ⟨_, hy, _, ih.mpr hrest, rfl⟩

theorem mem_of_lookup_eq_some [BEq α] [LawfulBEq α] {a : α} {b : β} {table : List (α × β)}
    (h : table.lookup a = some b) : (a, b) ∈ table := by
  obtain ⟨front, back, rfl, -⟩ := List.lookup_eq_some_iff.mp h
  exact List.mem_append_right front List.mem_cons_self

theorem lookup_eq_none_iff [BEq α] [LawfulBEq α] {a : α} {table : List (α × β)} :
    table.lookup a = none ↔ a ∉ table.map Prod.fst := by
  simp only [List.lookup_eq_none_iff, bne_iff_ne, List.mem_map, not_exists, not_and, ne_comm]

theorem exists_of_forall₂_of_mem {R : α → β → Prop} {xs : List α} {ys : List β} {x : α}
    (h : List.Forall₂ R xs ys) (hx : x ∈ xs) : ∃ y ∈ ys, R x y := by
  induction h with
  | nil => cases hx
  | cons hfirst _ ih =>
      obtain rfl | hx := List.mem_cons.mp hx
      · exact ⟨_, List.mem_cons_self, hfirst⟩
      · obtain ⟨y, hy, hrelated⟩ := ih hx
        exact ⟨y, List.mem_cons_of_mem _ hy, hrelated⟩

theorem map_eq_map_of_forall₂ {γ : Type} {f : α → γ} {g : β → γ} {xs : List α} {ys : List β}
    (h : List.Forall₂ (fun x y => g y = f x) xs ys) : ys.map g = xs.map f := by
  rw [← List.forall₂_eq_eq_eq, List.forall₂_map_left_iff, List.forall₂_map_right_iff]
  exact h.flip

/-- Two relations that a list goes through, one after the other. -/
theorem forall₂_zip {γ : Type} {R : α → β → Prop} {S : β → γ → Prop} {xs : List α} {ys : List β} {zs : List γ}
    (hR : List.Forall₂ R xs ys) (hS : List.Forall₂ S ys zs) :
    List.Forall₂ (fun x both => R x both.1 ∧ S both.1 both.2) xs (ys.zip zs) := by
  induction hR generalizing zs with
  | nil => exact .nil
  | cons hfirst _ ih =>
      obtain _ | ⟨hsecond, hrest⟩ := hS
      exact .cons ⟨hfirst, hsecond⟩ (ih hrest)

theorem forall₂_append_left_iff {R : α → β → Prop} {xs xs' : List α} {ys : List β} :
    List.Forall₂ R (xs ++ xs') ys ↔
      ∃ front back, List.Forall₂ R xs front ∧ List.Forall₂ R xs' back ∧ ys = front ++ back := by
  induction xs generalizing ys with
  | nil => simp
  | cons x xs ih =>
      simp only [List.cons_append, List.forall₂_cons_left_iff, ih]
      constructor
      · rintro ⟨y, -, hy, ⟨front, back, hfront, hback, rfl⟩, rfl⟩
        exact ⟨y :: front, back, ⟨y, front, hy, hfront, rfl⟩, hback, rfl⟩
      · rintro ⟨-, back, ⟨y, front, hy, hfront, rfl⟩, hback, rfl⟩
        exact ⟨y, front ++ back, hy, ⟨front, back, hfront, hback, rfl⟩, rfl⟩

/-- Two relations that a list goes through, as one. -/
theorem forall₂_comp_iff {γ : Type} {R : α → β → Prop} {S : β → γ → Prop} {xs : List α} {zs : List γ} :
    List.Forall₂ (fun x z => ∃ y, R x y ∧ S y z) xs zs ↔ ∃ ys, List.Forall₂ R xs ys ∧ List.Forall₂ S ys zs := by
  constructor
  · intro h
    induction h with
    | nil => exact ⟨[], .nil, .nil⟩
    | cons hfirst _ ih =>
        obtain ⟨y, hR, hS⟩ := hfirst
        obtain ⟨ys, hRs, hSs⟩ := ih
        exact ⟨y :: ys, .cons hR hRs, .cons hS hSs⟩
  · rintro ⟨ys, hRs, hSs⟩
    induction hRs generalizing zs with
    | nil =>
        cases hSs
        exact .nil
    | cons hR _ ih =>
        obtain _ | ⟨hS, hSs⟩ := hSs
        exact .cons ⟨_, hR, hS⟩ (ih hSs)

theorem mapM_succeeds_iff {f : α → Except ε β} {xs : List α} :
    (∃ ys, xs.mapM f = .ok ys) ↔ ∀ x ∈ xs, ∃ y, f x = .ok y := by
  constructor
  · rintro ⟨ys, hys⟩ x hx
    obtain ⟨y, -, hy⟩ := exists_of_forall₂_of_mem (mapM_eq_ok_iff.mp hys) hx
    exact ⟨y, hy⟩
  · intro hall
    induction xs with
    | nil => exact ⟨[], rfl⟩
    | cons x xs ih =>
        obtain ⟨y, hy⟩ := hall x List.mem_cons_self
        obtain ⟨ys, hys⟩ := ih fun z hz => hall z (List.mem_cons_of_mem _ hz)
        refine ⟨y :: ys, mapM_eq_ok_iff.mpr (.cons hy (mapM_eq_ok_iff.mp hys))⟩

/-- The first bad member of a list is its head, or the head is good and it is the first of the others. -/
theorem exists_first_cons_iff (good bad : α → Prop) {a : α} {xs : List α} :
    (∃ before x after, a :: xs = before ++ x :: after ∧ (∀ b ∈ before, good b) ∧ bad x) ↔
      bad a ∨ good a ∧ ∃ before x after, xs = before ++ x :: after ∧ (∀ b ∈ before, good b) ∧ bad x := by
  constructor
  · rintro ⟨before, x, after, hsplit, hbefore, hx⟩
    cases before with
    | nil =>
        obtain ⟨rfl, rfl⟩ := List.cons.inj hsplit
        exact .inl hx
    | cons b before =>
        obtain ⟨rfl, rfl⟩ := List.cons.inj hsplit
        refine .inr ⟨hbefore a List.mem_cons_self, before, x, after, rfl, fun b hb => ?_, hx⟩
        exact hbefore b (List.mem_cons_of_mem _ hb)
  · rintro (ha | ⟨ha, before, x, after, rfl, hbefore, hx⟩)
    · exact ⟨[], a, xs, rfl, by simp, ha⟩
    · refine ⟨a :: before, x, after, rfl, ?_, hx⟩
      rintro b (_ | ⟨_, hb⟩)
      · exact ha
      · exact hbefore b hb

/-- A traversal fails at its first failing step. -/
theorem mapM_eq_error_iff {f : α → Except ε β} {xs : List α} {e : ε} :
    xs.mapM f = .error e ↔ ∃ before x after, xs = before ++ x :: after ∧
      (∀ b ∈ before, ∃ y, f b = .ok y) ∧ f x = .error e := by
  induction xs with
  | nil => simp [pure, Except.pure]
  | cons x xs ih =>
      rw [exists_first_cons_iff (fun b => ∃ y, f b = .ok y) (f · = .error e), ← ih, List.mapM_cons,
        bind_eq_error_iff]
      refine or_congr_right ?_
      constructor
      · rintro ⟨y, hy, hrest⟩
        rw [bind_eq_error_iff] at hrest
        obtain hrest | ⟨ys, -, ⟨⟩⟩ := hrest
        exact ⟨⟨y, hy⟩, hrest⟩
      · rintro ⟨⟨y, hy⟩, hrest⟩
        exact ⟨y, hy, bind_eq_error_iff.mpr (.inl hrest)⟩

end GormModels.Attempt
