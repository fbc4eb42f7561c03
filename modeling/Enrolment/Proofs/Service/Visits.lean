/-
What the calls of a run have to do with one another.

A visit is a call with what came of it and the caches around it; the visits of a run are chained
by these caches.  A call that finds a table kept is answered with it and leaves the cache alone,
and one that finds none asks the network and leaves the table behind.  So the calls of a run
share the kept table and nothing else, and from one refresh to the next the network is asked by
one call at most.
-/
import Enrolment.Proofs.Place.Cache
import Enrolment.Proofs.Service.Action

namespace Enrolment.Service

/-- What an action gives on a table. -/
def Action.on (table : Place.Table) : Action → Outcome
  | .answer outcome => outcome
  | .withTable next | .withFreshTable next => next table

/-- The cache as an action finds it when it asks for the table, if it does. -/
def Action.reached? (cache : Place.Cache) : Action → Option Place.Cache
  | .answer _ => none
  | .withTable _ => some cache
  | .withFreshTable _ => some cache.reset

/-- A call, what it was answered, and the caches before and after it. -/
structure Visit where
  call : Call
  before : Place.Cache
  answer : Answer
  after : Place.Cache

/-- A call to a service with a cache. -/
def Call.visit (cache : Place.Cache) (call : Call) : Visit :=
  let (answer, after) := call.action.perform cache
  ⟨call, cache, answer, after⟩

/-- Calls in turn. -/
def visits (cache : Place.Cache) : List Call → List Visit
  | [] => []
  | call :: rest => call.visit cache :: visits (call.visit cache).after rest

namespace Visit

/-- Whether the network was asked. -/
def asks (visit : Visit) : Bool :=
  visit.answer.requests != 0

/-- Whether a call is one that the table does not matter for: its route has no use for it, or it is
a refresh where there are none, or it was rejected for its payload or for its issues. -/
def IsPlaceless (visit : Visit) : Prop :=
  visit.call.route ∈ Call.placelessRoutes ∨
    (visit.call.route = .geographyRefresh ∧ ¬visit.call.IsRefresh) ∨
    ∃ cause, visit.answer.outcome = .error (.rejected cause) ∧
      (cause.status = 400 ∨ ∃ all, cause = .issues all)

/-- What holds of every visit. -/
structure IsOrderly (visit : Visit) : Prop where
  requests_le : visit.answer.requests ≤ 2
  asks_iff : visit.asks = true ↔
    ∃ cache, visit.call.action.reached? visit.before = some cache ∧ cache.kept = none
  outcome_eq : ∀ table, (∀ kept ∈ visit.after.kept, kept.2 = table) →
    visit.answer.outcome = visit.call.action.on table
  undisturbed : ¬visit.call.IsRefresh → visit.before.kept.isSome = true →
    visit.after = visit.before
  alone : ¬visit.call.IsRefresh → ∀ table, (∀ kept ∈ visit.after.kept, kept.2 = table) →
    ∀ network, run (.keeping table network) [visit.call] = [⟨visit.answer.outcome, 0⟩]
  refreshed : visit.call.IsRefresh → ∃ kept, visit.after.kept = some kept ∧
    visit.answer.outcome = .ok (.refreshed kept.2.countries.length)
  disabled : visit.call.route = .geographyRefresh → ¬visit.call.IsRefresh →
    visit.answer.outcome = .error (.rejected .notEnabled)
  untouched : visit.IsPlaceless → visit.answer.requests = 0 ∧ visit.after = visit.before

end Visit

/-! ### One call -/

theorem run_singleton (cache : Place.Cache) (call : Call) :
    run cache [call] = [(call.visit cache).answer] :=
  rfl

/-- A call that finds a table kept is answered with it. -/
theorem visit_of_kept {call : Call} (h : ¬call.IsRefresh) {cache : Place.Cache} {number : Nat}
    {table : Place.Table} (hkept : cache.kept = some (number, table)) :
    call.visit cache = ⟨call, cache, ⟨call.action.on table, 0⟩, cache⟩ := by
  have hdoes := call.does
  unfold Call.visit
  generalize call.action = action at hdoes ⊢
  cases hdoes with
  | answers outcome => rfl
  | asks next =>
      dsimp only [Action.perform]
      rw [Place.Cache.get_of_kept hkept]
      rfl
  | refreshes hrefresh => exact absurd hrefresh h

/-- A call that asks the network leaves a table behind. -/
theorem isSome_kept_of_asks {call : Call} {cache : Place.Cache}
    (h : (call.visit cache).asks = true) : (call.visit cache).after.kept.isSome = true := by
  have hdoes := call.does
  unfold Call.visit at h ⊢
  generalize call.action = action at hdoes h ⊢
  cases hdoes with
  | answers outcome => cases h
  | asks next =>
      dsimp only [Action.perform]
      rw [Place.Cache.kept_get]
      rfl
  | refreshes hrefresh =>
      dsimp only [Action.perform]
      rw [Place.Cache.kept_get]
      rfl

theorem asks_visit_iff (cache : Place.Cache) (call : Call) :
    (call.visit cache).asks = true ↔
      ∃ reached, call.action.reached? cache = some reached ∧ reached.kept = none := by
  unfold Visit.asks Call.visit
  cases call.action with
  | answer outcome => simp [Action.perform, Action.reached?]
  | withTable next =>
      simpa [Action.perform, Action.reached?] using cache.requests_get_ne_zero_iff
  | withFreshTable next =>
      simpa [Action.perform, Action.reached?] using cache.reset.requests_get_ne_zero_iff

theorem outcome_visit (cache : Place.Cache) (call : Call) {table : Place.Table}
    (h : ∀ kept ∈ (call.visit cache).after.kept, kept.2 = table) :
    (call.visit cache).answer.outcome = call.action.on table := by
  unfold Call.visit at h ⊢
  generalize call.action = action at h ⊢
  cases action with
  | answer outcome => rfl
  | withTable next =>
      obtain rfl := h _ cache.kept_get
      rfl
  | withFreshTable next =>
      obtain rfl := h _ cache.reset.kept_get
      rfl

/-- **Every call is orderly, whatever cache it finds.** -/
theorem visit_isOrderly (cache : Place.Cache) (call : Call) : (call.visit cache).IsOrderly where
  requests_le := by
    unfold Call.visit
    cases call.action with
    | answer outcome => exact Nat.zero_le 2
    | withTable next => exact cache.requests_get_le
    | withFreshTable next => exact cache.reset.requests_get_le
  asks_iff := asks_visit_iff cache call
  outcome_eq := fun table => outcome_visit cache call
  undisturbed := by
    intro hkeeps hkept
    obtain ⟨⟨number, table⟩, hkept⟩ := Option.isSome_iff_exists.1 hkept
    have hvisit : call.visit cache = _ := visit_of_kept hkeeps hkept
    rw [hvisit]
  alone := by
    intro hkeeps table htable network
    have hvisit : (call.visit (.keeping table network)).answer = ⟨call.action.on table, 0⟩ :=
      congrArg Visit.answer (visit_of_kept hkeeps rfl)
    rw [run_singleton, outcome_visit cache call htable]
    exact congrArg (fun answer => [answer]) hvisit
  refreshed := by
    intro hrefresh
    have hdoes := call.does
    unfold Call.visit at hrefresh ⊢
    generalize call.action = action at hdoes ⊢
    cases hdoes with
    | answers outcome hkeeps => exact absurd hrefresh hkeeps
    | asks next hkeeps => exact absurd hrefresh.1 hkeeps
    | refreshes _ => exact ⟨_, cache.reset.kept_get, rfl⟩
  disabled := by
    intro hroute hkeeps
    have hdoes := call.does
    unfold Call.visit at hroute hkeeps ⊢
    generalize call.action = action at hdoes ⊢
    cases hdoes with
    | answers outcome _ hdisabled => exact hdisabled hroute
    | asks next hother => exact absurd hroute hother
    | refreshes hrefresh => exact absurd hrefresh hkeeps
  untouched := by
    intro hplaceless
    have hdoes := call.does
    unfold Visit.IsPlaceless Call.visit at hplaceless
    unfold Call.visit
    generalize call.action = action at hdoes hplaceless ⊢
    cases hdoes with
    | answers outcome => exact ⟨rfl, rfl⟩
    | asks next hkeeps hplaces hlate =>
        exfalso
        rcases hplaceless with hroute | ⟨hroute, -⟩ | ⟨cause, hrejected, hcause⟩
        · exact hplaces hroute
        · exact hkeeps hroute
        · obtain rfl := hlate _ _ hrejected
          rcases hcause with hstatus | ⟨all, hall⟩
          · exact absurd hstatus (by decide)
          · cases hall
    | refreshes hrefresh =>
        exfalso
        rcases hplaceless with hroute | ⟨-, hkeeps⟩ | ⟨cause, hrejected, -⟩
        · dsimp only at hroute
          rw [hrefresh.1] at hroute
          revert hroute
          decide
        · exact hkeeps hrefresh
        · cases hrejected

/-! ### A run -/

theorem map_call_visits (cache : Place.Cache) (calls : List Call) :
    (visits cache calls).map (·.call) = calls := by
  induction calls generalizing cache with
  | nil => rfl
  | cons call rest ih =>
      rw [visits, List.map_cons, ih]
      rfl

theorem map_answer_visits (cache : Place.Cache) (calls : List Call) :
    (visits cache calls).map (·.answer) = run cache calls := by
  induction calls generalizing cache with
  | nil => rfl
  | cons call rest ih =>
      rw [visits, List.map_cons, ih]
      rfl

theorem isOrderly_of_mem_visits {cache : Place.Cache} {calls : List Call} {visit : Visit}
    (h : visit ∈ visits cache calls) : visit.IsOrderly := by
  induction calls generalizing cache with
  | nil => cases h
  | cons call rest ih =>
      rcases List.mem_cons.1 h with rfl | hrest
      · exact visit_isOrderly cache call
      · exact ih hrest

/-- Each call finds the cache that the one before it left. -/
theorem isChain_visits (cache : Place.Cache) (calls : List Call) :
    (visits cache calls).IsChain fun visit next => next.before = visit.after := by
  induction calls generalizing cache with
  | nil => exact .nil
  | cons call rest ih =>
      cases rest with
      | nil => exact .singleton _
      | cons next others => exact .cons_cons rfl (ih _)

theorem visits_of_prefix {cache : Place.Cache} {calls : List Call} {front : List Visit}
    (h : front <+: visits cache calls) : ∃ calls, front = visits cache calls := by
  induction calls generalizing cache front with
  | nil => exact ⟨[], List.prefix_nil.1 h⟩
  | cons call rest ih =>
      rcases List.prefix_cons_iff.1 h with rfl | ⟨others, rfl, hothers⟩
      · exact ⟨[], rfl⟩
      · obtain ⟨calls, rfl⟩ := ih hothers
        exact ⟨call :: calls, rfl⟩

theorem visits_of_suffix {cache : Place.Cache} {calls : List Call} {back : List Visit}
    (h : back <:+ visits cache calls) : ∃ cache calls, back = visits cache calls := by
  induction calls generalizing cache with
  | nil => exact ⟨cache, [], List.suffix_nil.1 h⟩
  | cons call rest ih =>
      rcases List.suffix_cons_iff.1 h with rfl | hrest
      · exact ⟨cache, call :: rest, rfl⟩
      · exact ih hrest

/-- Part of a run is a run, from another cache. -/
theorem visits_of_infix {cache : Place.Cache} {calls : List Call} {window : List Visit}
    (h : window <:+: visits cache calls) : ∃ cache calls, window = visits cache calls := by
  obtain ⟨back, hprefix, hsuffix⟩ := List.infix_iff_prefix_suffix.1 h
  obtain ⟨cache, calls, rfl⟩ := visits_of_suffix hsuffix
  obtain ⟨calls, rfl⟩ := visits_of_prefix hprefix
  exact ⟨cache, calls, rfl⟩

/-- While a table is kept and there is no refresh, nothing is asked. -/
theorem not_asks_of_kept {cache : Place.Cache} {calls : List Call}
    (hkept : cache.kept.isSome = true) (hkeeps : ∀ call ∈ calls, ¬call.IsRefresh) :
    ∀ visit ∈ visits cache calls, visit.asks = false := by
  obtain ⟨⟨number, table⟩, hkept⟩ := Option.isSome_iff_exists.1 hkept
  induction calls with
  | nil =>
      intro visit hmem
      cases hmem
  | cons call rest ih =>
      have hvisit := visit_of_kept (hkeeps call (.head _)) hkept
      have hafter : (call.visit cache).after = cache := congrArg Visit.after hvisit
      intro visit hmem
      rw [visits, hafter, hvisit] at hmem
      rcases List.mem_cons.1 hmem with rfl | hrest
      · rfl
      · exact ih (fun other hother => hkeeps other (.tail _ hother)) visit hrest

/-- Without a refresh one call at most asks the network. -/
theorem length_filter_asks_le {cache : Place.Cache} {calls : List Call}
    (hkeeps : ∀ call ∈ calls, ¬call.IsRefresh) :
    ((visits cache calls).filter (·.asks)).length ≤ 1 := by
  induction calls generalizing cache with
  | nil => exact Nat.zero_le 1
  | cons call rest ih =>
      have hrest := fun other hother => hkeeps other (.tail _ hother)
      rw [visits, List.filter_cons]
      split
      · rename_i hasks
        have hquiet := not_asks_of_kept (isSome_kept_of_asks hasks) hrest
        rw [List.filter_eq_nil_iff.2 fun visit hmem => by simp [hquiet visit hmem]]
        exact Nat.le_refl 1
      · exact ih hrest

/-- **From one refresh to the next the network is asked by one call at most, and every call of a run
is orderly: it makes two requests at most, only if it finds nothing kept; it is answered as it
would be alone with the table that is kept; and if the table does not matter for it, it leaves
everything as it is.** -/
theorem run_shares_table_only (network : Place.Network) (calls : List Call) :
    (visits (.empty network) calls).map (·.call) = calls ∧
    (visits (.empty network) calls).map (·.answer) = run (.empty network) calls ∧
    (visits (.empty network) calls).IsChain (fun visit next => next.before = visit.after) ∧
    (∀ visit ∈ visits (.empty network) calls, visit.IsOrderly) ∧
    ∀ window, window <:+: visits (.empty network) calls →
      (∀ visit ∈ window, ¬visit.call.IsRefresh) → (window.filter (·.asks)).length ≤ 1 := by
  refine ⟨map_call_visits _ calls, map_answer_visits _ calls, isChain_visits _ calls,
    fun visit => isOrderly_of_mem_visits, ?_⟩
  intro window hinfix hkeeps
  obtain ⟨cache, part, rfl⟩ := visits_of_infix hinfix
  refine length_filter_asks_le ?_
  intro call hcall
  rw [← map_call_visits cache part] at hcall
  obtain ⟨visit, hvisit, rfl⟩ := List.mem_map.1 hcall
  exact hkeeps visit hvisit

end Enrolment.Service
