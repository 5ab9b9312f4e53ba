import Mathlib.Data.List.Forall2

/-
  Computations that can fail.  A computation made of others
  succeeds only if they do, and fails with what they fail with.

  Key definitions include:
    * `FailsWith`
  Correctness is proven by:
    * `map_eq_ok`
    * `mapError_eq_ok`
    * `bind_eq_ok`
    * `forall₂_of_mapM`
    * `forall_of_mapM`
    * `FailsWith.bind`
    * `FailsWith.mapM`
-/

------------------------------------------------------------
-- Successes
------------------------------------------------------------

namespace SqlTemplate

variable {ε α β : Type}

theorem map_eq_ok
    {result : Except ε α}
    {f : α → β}
    {b : β} :
    result.map f = .ok b ↔ ∃ a, result = .ok a ∧ f a = b := by
  cases result <;> simp [Except.map]

theorem mapError_eq_ok
    {ε' : Type}
    {result : Except ε α}
    {f : ε → ε'}
    {a : α} :
    result.mapError f = .ok a ↔ result = .ok a := by
  cases result <;> simp [Except.mapError]

theorem eq_ok_of_toOption
    {result : Except ε α}
    {a : α}
    (hSome : result.toOption = some a) :
    result = .ok a := by
  cases result with
  | error e => cases hSome
  | ok b =>
      cases hSome
      rfl

theorem bind_eq_ok
    {result : Except ε α}
    {f : α → Except ε β}
    {b : β} :
    result >>= f = .ok b ↔ ∃ a, result = .ok a ∧ f a = .ok b := by
  cases result <;> simp [bind, Except.bind]

/- A computation for each item of a list succeeds for each. -/
theorem forall₂_of_mapM
    {f : α → Except ε β}
    {items : List α}
    {results : List β}
    (hResults : items.mapM f = .ok results) :
    List.Forall₂ (fun item result => f item = .ok result)
      items results := by
  induction items generalizing results with
  | nil =>
      cases hResults
      exact .nil
  | cons item items ih =>
      rw [List.mapM_cons, bind_eq_ok] at hResults
      rcases hResults with ⟨first, hFirst, hRest⟩
      rw [bind_eq_ok] at hRest
      rcases hRest with ⟨rest, hRest, hResults⟩
      cases hResults
      exact .cons hFirst (ih hRest)

/- The results for the items of a list are as many, and like each. -/
theorem forall_of_mapM
    {f : α → Except ε β}
    {P : β → Prop}
    {items : List α}
    {results : List β}
    (hEach : ∀ item result, f item = .ok result → P result)
    (hResults : items.mapM f = .ok results) :
    (items ≠ [] → results ≠ []) ∧ ∀ result ∈ results, P result := by
  have hForall := forall₂_of_mapM hResults
  clear hResults
  induction hForall with
  | nil => exact ⟨fun hItems => absurd rfl hItems, nofun⟩
  | cons hItem _ ih =>
      refine ⟨fun _ => List.cons_ne_nil _ _, ?_⟩
      intro result hMember
      rcases List.mem_cons.mp hMember with rfl | hRest
      · exact hEach _ _ hItem
      · exact ih.2 result hRest

------------------------------------------------------------
-- Failures
------------------------------------------------------------

/- A computation fails, if it does, with an error of one kind. -/
def FailsWith
    (E : ε → Prop)
    (result : Except ε α) : Prop :=
  ∀ e, result = .error e → E e

namespace FailsWith

variable {E : ε → Prop}

theorem ok (a : α) : FailsWith E (.ok a : Except ε α) :=
  nofun

theorem error
    {e : ε}
    (hError : E e) :
    FailsWith E (.error e : Except ε α) := by
  intro e' hSame
  cases hSame
  exact hError

theorem map
    {result : Except ε α}
    {f : α → β}
    (hResult : FailsWith E result) :
    FailsWith E (result.map f) := by
  cases result with
  | ok a => exact ok _
  | error e => exact error (hResult e rfl)

theorem of_map
    {result : Except ε α}
    {f : α → β}
    (hMapped : FailsWith E (result.map f)) :
    FailsWith E result := by
  cases result with
  | ok a => exact ok a
  | error e => exact error (hMapped e rfl)

theorem mapError
    {ε' : Type}
    {result : Except ε' α}
    {f : ε' → ε}
    (hErrors : ∀ e, E (f e)) :
    FailsWith E (result.mapError f) := by
  cases result with
  | ok a => exact ok a
  | error e => exact error (hErrors e)

theorem bind
    {result : Except ε α}
    {f : α → Except ε β}
    (hResult : FailsWith E result)
    (hRest : ∀ a, FailsWith E (f a)) :
    FailsWith E (result >>= f) := by
  cases result with
  | ok a => exact hRest a
  | error e => exact error (hResult e rfl)

theorem mapM
    {f : α → Except ε β}
    {items : List α}
    (hItems : ∀ item ∈ items, FailsWith E (f item)) :
    FailsWith E (items.mapM f) := by
  induction items with
  | nil => exact ok _
  | cons item items ih =>
      rw [List.forall_mem_cons] at hItems
      rw [List.mapM_cons]
      exact hItems.1.bind fun _ => (ih hItems.2).bind fun _ => ok _

end FailsWith

end SqlTemplate
