/-
What it takes to be given a table.

A fetch makes one request at least and never more than its order allows, which is two as a rule.
So a cache that keeps a table gives it for nothing, one that keeps none asks the network once or
twice, and afterwards a cache keeps the table that it gave.

Only what a fetch gave is ever kept, and a fetch gives a table with countries whatever the network
does, so there are countries in every table that a cache gives (`Reachable.isStocked_get`).
-/
import Enrolment.Place.Cache
import Enrolment.Proofs.Place.Fetch

namespace Enrolment.Place

/-! ### Fetching -/

namespace Fetch

/-- What comes of the usual order. -/
theorem isOutcome_usual (network : Network) :
    (run .usual network).IsOutcome firstPause 2 network :=
  isOutcome_tryFrom (by decide) 1 network

theorem requests_usual_le (network : Network) : (run .usual network).requests ≤ 2 :=
  (isOutcome_usual network).requests_le

theorem requests_usual_ne_zero (network : Network) : (run .usual network).requests ≠ 0 := by
  rw [(isOutcome_usual network).requests_eq_succ]
  exact Nat.succ_ne_zero _

end Fetch

/-! ### Keeping -/

namespace Cache

/-- A cache that keeps a table, in front of a network. -/
def keeping (table : Table) (network : Network) : Cache :=
  ⟨some (0, table), 0, network⟩

variable (cache : Cache)

/-- A kept table is given for nothing. -/
theorem get_of_kept {cache : Cache} {number : Nat} {table : Table}
    (h : cache.kept = some (number, table)) :
    cache.get = (⟨number, table, .usual, 0, []⟩, cache) := by
  rw [get, h]

/-- What was given is kept. -/
theorem kept_get : cache.get.2.kept = some (cache.get.1.number, cache.get.1.table) := by
  cases h : cache.kept with
  | none =>
      rw [get, h]
  | some kept => rw [get_of_kept h, h]

theorem requests_get_le : cache.get.1.requests ≤ 2 := by
  cases h : cache.kept with
  | none =>
      rw [get, h]
      exact Fetch.requests_usual_le cache.network
  | some kept =>
      rw [get_of_kept h]
      exact Nat.zero_le 2

/-- The network is asked just if nothing is kept. -/
theorem requests_get_ne_zero_iff : cache.get.1.requests ≠ 0 ↔ cache.kept = none := by
  cases h : cache.kept with
  | none =>
      rw [get, h]
      exact iff_of_true (Fetch.requests_usual_ne_zero cache.network) rfl
  | some kept =>
      rw [get_of_kept h]
      exact iff_of_false (fun hsome => hsome rfl) (Option.some_ne_none kept)

/-! ### Whatever happened before -/

/-- What a cache comes to, from one that is empty, as it is told to do things. -/
inductive Reachable : Cache → Prop
  | empty (network : Network) : Reachable (empty network)
  | get {cache : Cache} (h : Reachable cache) : Reachable cache.get.2
  | fetch {cache : Cache} (h : Reachable cache) (order : Order) : Reachable (cache.fetch order).2
  | reset {cache : Cache} (h : Reachable cache) : Reachable cache.reset

/-- What it means that a cache keeps no table but one with countries. -/
def KeepsStocked (cache : Cache) : Prop :=
  ∀ number table, cache.kept = some (number, table) → table.IsStocked

variable {cache : Cache}

theorem KeepsStocked.isStocked_get (h : cache.KeepsStocked) : cache.get.1.table.IsStocked := by
  cases hkept : cache.kept with
  | none =>
      rw [get, hkept]
      exact (Fetch.isOutcome_usual cache.network).stocked
  | some kept =>
      rw [get_of_kept hkept]
      exact h kept.1 kept.2 hkept

theorem KeepsStocked.get (h : cache.KeepsStocked) : cache.get.2.KeepsStocked := by
  intro number table hkept
  rw [kept_get, Option.some_inj, Prod.mk.injEq] at hkept
  rw [← hkept.2]
  exact h.isStocked_get

theorem Reachable.keepsStocked (h : cache.Reachable) : cache.KeepsStocked := by
  induction h with
  | empty network =>
      intro number table hkept
      cases hkept
  | get _ ih => exact ih.get
  | fetch _ order ih => exact ih
  | reset _ _ =>
      intro number table hkept
      cases hkept

/-- **There are countries in every table that a cache gives.** -/
theorem Reachable.isStocked_get (h : cache.Reachable) : cache.get.1.table.IsStocked :=
  h.keepsStocked.isStocked_get

end Cache

end Enrolment.Place
