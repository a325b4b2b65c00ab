import Mathlib.Data.List.Forall2

set_option autoImplicit false

/-!
# Steps that may fail

What has to be known when several steps in a row have succeeded.
-/

namespace Reprint

variable {ε ε' α β : Type}

/-- Two steps in a row succeed when each of them does. -/
theorem bind_eq_ok_iff {x : Except ε α} {next : α → Except ε β} {b : β} :
    x >>= next = .ok b ↔ ∃ a, x = .ok a ∧ next a = .ok b := by
  cases x <;> simp [bind, Except.bind]

/-- How a fault is reported does not decide whether there is one. -/
theorem mapError_eq_ok_iff {x : Except ε α} {report : ε → ε'} {a : α} :
    x.mapError report = .ok a ↔ x = .ok a := by
  cases x with
  | error e => exact ⟨nofun, nofun⟩
  | ok b => exact ⟨fun h => congrArg _ (Except.ok.inj h), fun h => congrArg _ (Except.ok.inj h)⟩

theorem ok_bind (a : α) (next : α → Except ε β) : (.ok a : Except ε α) >>= next = next a := rfl

theorem map_eq_ok_iff {x : Except ε α} {f : α → β} {b : β} :
    f <$> x = .ok b ↔ ∃ a, x = .ok a ∧ f a = b := by
  cases x <;> simp [Functor.map, Except.map]

/-- A step for every part succeeds when each of them does. -/
theorem mapM_eq_ok_iff {f : α → Except ε β} {as : List α} {bs : List β} :
    as.mapM f = .ok bs ↔ List.Forall₂ (fun a b => f a = .ok b) as bs := by
  induction as generalizing bs with
  | nil => simp [List.mapM_nil, pure, Except.pure, eq_comm]
  | cons a as ih =>
    rw [List.mapM_cons, bind_eq_ok_iff]
    constructor
    · rintro ⟨b, first, rest⟩
      obtain ⟨bs', others, same⟩ := bind_eq_ok_iff.mp rest
      cases same
      exact .cons first (ih.mp others)
    · rintro (_ | ⟨first, others⟩)
      exact ⟨_, first, bind_eq_ok_iff.mpr ⟨_, ih.mpr others, rfl⟩⟩

/-- The same by position. -/
theorem mapM_eq_ok_iff_getElem {f : α → Except ε β} {as : List α} {bs : List β} :
    as.mapM f = .ok bs ↔ as.length = bs.length ∧
      ∀ (i : Nat) (h : i < as.length) (h' : i < bs.length), f as[i] = .ok bs[i] :=
  mapM_eq_ok_iff.trans List.forall₂_iff_get

end Reprint
