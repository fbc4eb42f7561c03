/-
What the handler of a call can do.

A handler answers at once, or asks for the table and goes on with it, or has it fetched anew.
What a call is rejected for is decided before the table is asked for: of the handlers that go on
with it only the one for drafts still rejects, a request without an email address.  `Call.does`
sums this up, and nothing about calls has to be said handler by handler after it.
-/
import Enrolment.Proofs.Service.Forms
import Enrolment.Service.Run

namespace Enrolment.Service

/-! ### Rejections come first -/

/-- Whether an action answers at once, or asks for the table and is not rejected any more then but
for a missing email address. -/
inductive Action.DecidesEarly : Action → Prop where
  | answers (outcome : Outcome) : DecidesEarly (.answer outcome)
  | asks (next : Place.Table → Outcome)
      (hlate : ∀ table cause, next table = .error (.rejected cause) → cause = .noEmail) :
      DecidesEarly (.withTable next)

theorem Action.DecidesEarly.after {α : Type} {reading : Except Failure α} {next : α → Action}
    (h : ∀ value, reading = .ok value → (next value).DecidesEarly) :
    (Action.after reading next).DecidesEarly := by
  cases reading with
  | error failure => exact .answers (.error failure)
  | ok value => exact h value rfl

/-- A number that cannot be held is no ground for a rejection. -/
theorem rejected_of_overflow {α : Type} {reading : Except Overflow α} {next : α → Outcome}
    {cause : Rejected} (h : reading.mapError .overflow >>= next = .error (.rejected cause)) :
    ∃ value, next value = .error (.rejected cause) := by
  cases reading with
  | error overflow => cases h
  | ok value => exact ⟨value, h⟩

theorem generate_decidesEarly (payload : Json) : (generate payload).DecidesEarly := by
  refine .after ?_
  intro form hreading
  obtain ⟨found, hform, hreading⟩ := ok_of_bind hreading
  obtain ⟨-, -, hreading⟩ := ok_of_bind hreading
  obtain rfl := Except.ok.inj hreading
  refine .asks _ ?_
  intro table cause hrejected
  rw [scriptOf_eq hform, replyFor] at hrejected
  cases hissues : found.issues with
  | error malformed =>
      rw [hissues] at hrejected
      cases hrejected
  | ok issues =>
      rw [hissues] at hrejected
      cases hrejected

theorem preview_decidesEarly (payload : Json) : (preview payload).DecidesEarly := by
  refine .after ?_
  intro items _
  refine .asks _ ?_
  intro table cause hrejected
  obtain ⟨fields, hrejected⟩ := rejected_of_overflow hrejected
  obtain ⟨theme, hrejected⟩ := rejected_of_overflow hrejected
  cases hrejected

theorem reconcile_decidesEarly (payload : Json) : (reconcile payload).DecidesEarly := by
  refine .after ?_
  intro (fields, request) _
  exact .asks _ nofun

theorem customerDraft_decidesEarly (payload : Json) : (customerDraft payload).DecidesEarly := by
  refine .after ?_
  intro request _
  refine .asks _ ?_
  intro table cause hrejected
  cases hdraft : Customer.draft? request (some table) with
  | some draft =>
      rw [hdraft] at hrejected
      cases hrejected
  | none =>
      rw [hdraft] at hrejected
      cases hrejected
      rfl

/-! ### Calls -/

namespace Call

/-- Whether a call has the countries fetched anew. -/
def IsRefresh (call : Call) : Prop :=
  call.route = .geographyRefresh ∧ Text.lower (call.devRoutes.getD "false") = "true"

instance (call : Call) : Decidable call.IsRefresh :=
  inferInstanceAs (Decidable (_ ∧ _))

/-- The routes that have no use for the table. -/
def placelessRoutes : List Route :=
  [.health, .validateSchema, .validateSubmission]

/-- What the handler of a call can do. -/
inductive Does (call : Call) : Action → Prop where
  | answers (outcome : Outcome) (hkeeps : ¬call.IsRefresh)
      (hdisabled : call.route = .geographyRefresh → outcome = .error (.rejected .notEnabled)) :
      call.Does (.answer outcome)
  | asks (next : Place.Table → Outcome) (hkeeps : call.route ≠ .geographyRefresh)
      (hplaces : call.route ∉ placelessRoutes)
      (hlate : ∀ table cause, next table = .error (.rejected cause) → cause = .noEmail) :
      call.Does (.withTable next)
  | refreshes (hrefresh : call.IsRefresh) :
      call.Does (.withFreshTable fun table => .ok (.refreshed table.countries.length))

variable {call : Call}

theorem Does.of_decidesEarly {action : Action} (h : action.DecidesEarly)
    (hkeeps : call.route ≠ .geographyRefresh) (hplaces : call.route ∉ placelessRoutes) :
    call.Does action := by
  cases h with
  | answers outcome =>
      exact .answers outcome (fun hrefresh => hkeeps hrefresh.1) fun hroute => absurd hroute hkeeps
  | asks next hlate => exact .asks next hkeeps hplaces hlate

theorem Does.of_placeless {outcome : Outcome} (h : call.route ∈ placelessRoutes) :
    call.Does (.answer outcome) := by
  have hkeeps : call.route ≠ .geographyRefresh := by
    intro hroute
    rw [hroute] at h
    revert h
    decide
  exact .answers outcome (fun hrefresh => hkeeps hrefresh.1) fun hroute => absurd hroute hkeeps

/-- Every call does one of these things. -/
theorem does (call : Call) : call.Does call.action := by
  obtain ⟨route, payload, devRoutes⟩ := call
  cases route with
  | health => exact .of_placeless (.head _)
  | validateSchema => exact .of_placeless (.tail _ (.head _))
  | validateSubmission => exact .of_placeless (.tail _ (.tail _ (.head _)))
  | geography => exact .asks _ nofun (by simp [placelessRoutes]) nofun
  | generate =>
      exact .of_decidesEarly (generate_decidesEarly payload) nofun (by simp [placelessRoutes])
  | preview =>
      exact .of_decidesEarly (preview_decidesEarly payload) nofun (by simp [placelessRoutes])
  | reconcile =>
      exact .of_decidesEarly (reconcile_decidesEarly payload) nofun (by simp [placelessRoutes])
  | customerDraft =>
      exact .of_decidesEarly (customerDraft_decidesEarly payload) nofun (by simp [placelessRoutes])
  | geographyRefresh =>
      change Does _ (geographyRefresh devRoutes)
      unfold geographyRefresh
      split
      · rename_i henabled
        exact .refreshes ⟨rfl, henabled⟩
      · rename_i hdisabled
        exact .answers _ (fun hrefresh => hdisabled hrefresh.2) fun _ => rfl

end Call

end Enrolment.Service
