import GormModels.Proofs.Attempt

/-!
# Two runs of a computation that may fail

Runs are alike if they end in the same error, or in results that belong together. Steps that are alike make
runs that are alike, so two runs are compared step by step and never as a whole.
-/

namespace GormModels

variable {ε ε' α β γ δ : Type}

/-- The same error, or results in a relation. -/
inductive Alike (R : α → β → Prop) : Except ε α → Except ε β → Prop
  | ok {a : α} {b : β} (h : R a b) : Alike R (.ok a) (.ok b)
  | error (e : ε) : Alike R (.error e) (.error e)

namespace Alike

variable {R R' : α → β → Prop} {S : γ → δ → Prop} {x : Except ε α} {y : Except ε β}

theorem refl {T : α → α → Prop} (hT : ∀ a, T a a) (x : Except ε α) : Alike T x x := by
  cases x with
  | ok a => exact .ok (hT a)
  | error e => exact .error e

theorem eq {x y : Except ε α} (h : Alike Eq x y) : x = y := by
  obtain rfl | _ := h <;> rfl

theorem imp (himp : ∀ a b, R a b → R' a b) (h : Alike R x y) : Alike R' x y := by
  obtain hab | e := h
  · exact .ok (himp _ _ hab)
  · exact .error e

theorem mapError {f : ε → ε'} (h : Alike R x y) : Alike R (x.mapError f) (y.mapError f) := by
  obtain hab | e := h
  · exact .ok hab
  · exact .error (f e)

theorem bind {f : α → Except ε γ} {g : β → Except ε δ} (h : Alike R x y)
    (hnext : ∀ a b, R a b → Alike S (f a) (g b)) : Alike S (x >>= f) (y >>= g) := by
  obtain hab | e := h
  · exact hnext _ _ hab
  · exact .error e

/-- One step that both runs take alike, with what each makes of its result. -/
theorem bind_same {f g : α → Except ε γ} {T : γ → γ → Prop} (x : Except ε α)
    (hnext : ∀ a, Alike T (f a) (g a)) : Alike T (x >>= f) (x >>= g) :=
  bind (refl (T := Eq) (fun _ => rfl) x) fun a _ hab => hab ▸ hnext a

/-- Traversals of two lists, the members of which belong together in pairs. -/
theorem mapM {f : α → Except ε γ} {g : β → Except ε δ} {xs : List α} {ys : List β}
    (hmembers : List.Forall₂ R xs ys) (hstep : ∀ a b, R a b → Alike S (f a) (g b)) :
    Alike (List.Forall₂ S) (xs.mapM f) (ys.mapM g) := by
  induction hmembers with
  | nil => exact .ok .nil
  | cons hfirst _ ih =>
      simp only [List.mapM_cons]
      exact (hstep _ _ hfirst).bind fun _ _ hc => ih.bind fun _ _ hrest => .ok (.cons hc hrest)

theorem mapM_same {f g : α → Except ε γ} {T : γ → γ → Prop} (xs : List α) (hstep : ∀ a, Alike T (f a) (g a)) :
    Alike (List.Forall₂ T) (xs.mapM f) (xs.mapM g) :=
  mapM (R := Eq) (List.forall₂_refl _) fun a _ hab => hab ▸ hstep a

end Alike

end GormModels
