/-
What comes of a fetch, whatever the network does.

A request is made until one does not fail or no attempt is left, so how many are made is told by
how many of the network's responses fail in front of the first that does not.  Between two
requests stands one pause, and pauses double up to the longest.  The last response decides:
it brings countries, or the built-in ones are taken.  So a table with named countries comes out
of every fetch.

All of it is proved along the recursion of `tryFrom`, for any delay to start with: a fetch either
ends with its first request (`tryFrom_of_body`, `tryFrom_of_fails`) or makes a pause and goes on
with the rest of the network (`tryFrom_succ_of_fails`).
-/
import Mathlib.Algebra.Order.Field.Basic
import Mathlib.Algebra.Order.Ring.Rat
import Mathlib.Data.ENat.Lattice
import Mathlib.Tactic.NormNum
import Mathlib.Tactic.Ring
import Enrolment.Place.Source
import Enrolment.Proofs.Place.Country

namespace Enrolment.Place

/-! ### Tables -/

/-- What it takes for a table to be stocked: it has countries, each with a code and a name. -/
structure Table.IsStocked (table : Table) : Prop where
  countries_ne_nil : table.countries ≠ []
  named : ∀ country ∈ table.countries, country.code ≠ "" ∧ country.name ≠ ""

theorem isStocked_builtIn : builtIn.IsStocked where
  countries_ne_nil := by decide
  named := by decide

theorem Fetch.isStocked_tableOf (body : Json) : (tableOf body).IsStocked := by
  unfold tableOf
  cases h : Country.readList? body with
  | none => exact isStocked_builtIn
  | some countries =>
      obtain ⟨-, -, -, hne⟩ := Country.readList?_eq_some_iff.1 h
      exact ⟨hne, fun country hcountry => Country.named_of_readList? h hcountry⟩

/-! ### Responses -/

namespace Response

/-- Whether a request fails: nothing comes back for it, or an error, or what is no JSON. -/
def fails : Response → Bool
  | lost => true
  | received status body => 400 ≤ status || body.isNone

theorem body?_eq_none_iff {response : Response} :
    response.body? = none ↔ response.fails = true := by
  cases response with
  | lost => simp [body?, fails]
  | received status body =>
      by_cases herror : 400 ≤ status
      · simp [body?, fails, herror]
      · simp [body?, fails, herror]

/-- What it means that a response brings countries: it is no error, its body is a list, and these
are the good entries of the list, of which there are some. -/
inductive Brings (countries : List Country) : Response → Prop
  | good {status : Int} {items : List Json} (ok : status < 400)
      (entries : countries = (items.filterMap Country.read?).filter Country.isNamed)
      (some_entry : countries ≠ []) : Brings countries (.received status (some (.arr items)))

theorem brings_iff {response : Response} {countries : List Country} :
    response.Brings countries ↔
      ∃ body, response.body? = some body ∧ Country.readList? body = some countries := by
  constructor
  · rintro ⟨hok, hentries, hsome⟩
    rename_i status items
    refine ⟨.arr items, ?_, Country.readList?_eq_some_iff.2 ⟨items, rfl, hentries, hsome⟩⟩
    rw [body?, if_neg (Int.not_le.2 hok)]
  · rintro ⟨body, hbody, hread⟩
    obtain ⟨items, rfl, hentries, hsome⟩ := Country.readList?_eq_some_iff.1 hread
    cases response with
    | lost => cases hbody
    | received status answer =>
        rw [body?] at hbody
        split at hbody
        · cases hbody
        · rename_i herror
          subst hbody
          exact .good (Int.not_le.1 herror) hentries hsome

end Response

namespace Network

/-- The response to a request, counted from zero; behind its end a network loses them all. -/
def response (network : Network) (k : Nat) : Response :=
  network.getD k .lost

/-- How many requests fail in front of the first one that does not; all of them if none does
not, since behind its end a network loses every request. -/
def leadingFailures : Network → ℕ∞
  | [] => ⊤
  | response :: rest => if response.fails then 1 + leadingFailures rest else 0

theorem next_eq (network : Network) : network.next = (network.response 0, network.drop 1) := by
  cases network <;> rfl

theorem response_drop (network : Network) (k : Nat) :
    response (network.drop 1) k = network.response (k + 1) := by
  cases network <;> rfl

variable {network : Network}

theorem leadingFailures_of_not_fails (h : (network.response 0).fails = false) :
    network.leadingFailures = 0 := by
  cases network with
  | nil => cases h
  | cons response rest =>
      have hfirst : response.fails = false := h
      simp [leadingFailures, hfirst]

theorem leadingFailures_of_fails (h : (network.response 0).fails = true) :
    network.leadingFailures = 1 + leadingFailures (network.drop 1) := by
  cases network with
  | nil => rfl
  | cons response rest =>
      have hfirst : response.fails = true := h
      simp [leadingFailures, hfirst]

end Network

/-! ### The steps of a fetch -/

namespace Fetch

variable {network : Network}

/-- A fetch ends with a request that does not fail. -/
theorem tryFrom_of_body {body : Json} (h : (network.response 0).body? = some body)
    (delay attempts : Nat) :
    tryFrom delay (attempts + 1) network = ⟨tableOf body, [.request], network.drop 1⟩ := by
  rw [tryFrom, Network.next_eq]
  simp only [h]

/-- A fetch ends with its last attempt. -/
theorem tryFrom_of_fails (h : (network.response 0).fails = true) (delay : Nat) :
    tryFrom delay 1 network = ⟨builtIn, [.request], network.drop 1⟩ := by
  rw [tryFrom, Network.next_eq]
  simp only [Response.body?_eq_none_iff.2 h, if_pos]

/-- Otherwise it goes on after a pause. -/
theorem tryFrom_succ_of_fails (h : (network.response 0).fails = true) (delay attempts : Nat) :
    tryFrom delay (attempts + 2) network =
      ⟨(tryFrom (min (delay * 2) longestPause) (attempts + 1) (network.drop 1)).table,
        .request :: .pause delay ::
          (tryFrom (min (delay * 2) longestPause) (attempts + 1) (network.drop 1)).events,
        (tryFrom (min (delay * 2) longestPause) (attempts + 1) (network.drop 1)).network⟩ := by
  rw [tryFrom, Network.next_eq]
  simp only [Response.body?_eq_none_iff.2 h, Nat.add_one_ne_zero, if_false]

/-! ### What comes of the steps -/

/-- A request, and another one after each of some pauses. -/
def alternate (pauses : List Nat) : List Event :=
  .request :: pauses.flatMap fun halves => [.pause halves, .request]

/-- What comes of making up to so many requests, with a first pause of `delay` half seconds. -/
structure IsOutcome (fetch : Fetch) (delay attempts : Nat) (network : Network) : Prop where
  /-- There are countries to choose from. -/
  stocked : fetch.table.IsStocked
  /-- Requests are made up to the first that does not fail, as far as attempts are left. -/
  requests_eq : (fetch.requests : ℕ∞) = min (attempts : ℕ∞) (1 + network.leadingFailures)
  /-- Between two requests stands one pause. -/
  events_eq : fetch.events = alternate fetch.pauses
  /-- Pauses double up to the longest. -/
  pauses_eq : fetch.pauses =
    (List.range (fetch.requests - 1)).map fun k => min (delay * 2 ^ k) longestPause
  /-- The countries are those that the last response brings. -/
  brought : ∀ countries, (network.response (fetch.requests - 1)).Brings countries →
    fetch.table = ⟨countries⟩
  /-- If it brings none, they are the built-in ones. -/
  not_brought : (∀ countries, ¬(network.response (fetch.requests - 1)).Brings countries) →
    fetch.table = builtIn
  /-- Each request takes one response. -/
  network_eq : fetch.network = network.drop fetch.requests

/-- There is one request more than there are pauses. -/
theorem count_alternate (pauses : List Nat) :
    (alternate pauses).count .request = pauses.length + 1 := by
  induction pauses with
  | nil => rfl
  | cons halves rest ih =>
      show (.request :: .pause halves :: alternate rest).count Event.request = _
      rw [List.count_cons_self, List.count_cons_of_ne (by simp), ih, List.length_cons]

namespace IsOutcome

variable {fetch : Fetch} {delay attempts : Nat}

theorem requests_eq_succ (h : fetch.IsOutcome delay attempts network) :
    fetch.requests = fetch.pauses.length + 1 := by
  rw [← count_alternate, ← h.events_eq]
  rfl

theorem requests_le (h : fetch.IsOutcome delay attempts network) : fetch.requests ≤ attempts := by
  have hmin := h.requests_eq.trans_le (min_le_left _ _)
  exact_mod_cast hmin

end IsOutcome

theorem isOutcome_of_body {body : Json} (h : (network.response 0).body? = some body)
    (delay attempts : Nat) :
    (tryFrom delay (attempts + 1) network).IsOutcome delay (attempts + 1) network := by
  have hbrings : ∀ countries, (network.response 0).Brings countries ↔
      Country.readList? body = some countries := by
    intro countries
    rw [Response.brings_iff, h]
    simp
  have hfails : (network.response 0).fails = false := by
    rw [← Bool.not_eq_true, ← Response.body?_eq_none_iff, h]
    exact Option.some_ne_none body
  rw [tryFrom_of_body h]
  refine ⟨isStocked_tableOf body, ?_, rfl, rfl, ?_, ?_, rfl⟩
  · rw [Network.leadingFailures_of_not_fails hfails]
    simp [requests]
  · intro countries hbrought
    show tableOf body = _
    rw [tableOf, (hbrings countries).1 hbrought]
  · intro hnone
    show tableOf body = _
    cases hread : Country.readList? body with
    | none => rw [tableOf, hread]
    | some countries => exact absurd ((hbrings countries).2 hread) (hnone countries)

/-- A response that fails brings nothing. -/
theorem not_brings_of_fails {response : Response} (h : response.fails = true)
    (countries : List Country) : ¬response.Brings countries := by
  rw [Response.brings_iff, Response.body?_eq_none_iff.2 h]
  simp

theorem isOutcome_of_fails (h : (network.response 0).fails = true) (delay : Nat) :
    (tryFrom delay 1 network).IsOutcome delay 1 network := by
  rw [tryFrom_of_fails h]
  refine ⟨isStocked_builtIn, ?_, rfl, rfl, ?_, fun _ => rfl, rfl⟩
  · simp [requests]
  · intro countries hbrought
    exact absurd hbrought (not_brings_of_fails h countries)

/-- Each pause but the first is made from the one before it. -/
theorem min_pause {delay : Nat} (k : Nat) :
    min (min (delay * 2) longestPause * 2 ^ k) longestPause =
      min (delay * 2 ^ (k + 1)) longestPause := by
  have hpow : 1 ≤ 2 ^ k := Nat.one_le_two_pow
  have hdouble : delay * 2 ^ (k + 1) = delay * 2 * 2 ^ k := by ring
  rw [hdouble]
  by_cases hshort : delay * 2 ≤ longestPause
  · rw [Nat.min_eq_left hshort]
  · have hlong : longestPause ≤ delay * 2 := by omega
    rw [Nat.min_eq_right hlong, Nat.min_eq_right (Nat.le_mul_of_pos_right _ hpow),
      Nat.min_eq_right (hlong.trans (Nat.le_mul_of_pos_right _ hpow))]

/-- What comes of the requests after a pause comes of the whole. -/
theorem IsOutcome.again {later : Fetch} {delay attempts : Nat}
    (h : later.IsOutcome (min (delay * 2) longestPause) attempts (network.drop 1))
    (hfails : (network.response 0).fails = true) (hdelay : delay ≤ longestPause) :
    IsOutcome ⟨later.table, .request :: .pause delay :: later.events, later.network⟩ delay
      (attempts + 1) network := by
  have hsome := h.requests_eq_succ
  have hrequests : requests ⟨later.table, .request :: .pause delay :: later.events,
      later.network⟩ = later.requests + 1 := by
    simp [requests]
  have hpauses : pauses ⟨later.table, .request :: .pause delay :: later.events,
      later.network⟩ = delay :: later.pauses :=
    rfl
  have hlast : network.response (later.requests + 1 - 1) =
      Network.response (network.drop 1) (later.requests - 1) := by
    rw [Network.response_drop, hsome]
    rfl
  refine ⟨h.stocked, ?_, ?_, ?_, ?_, ?_, ?_⟩
  · rw [hrequests, Network.leadingFailures_of_fails hfails, Nat.cast_add, h.requests_eq,
      Nat.cast_add, Nat.cast_one, add_comm, add_comm (attempts : ℕ∞), min_add_add_left]
  · rw [hpauses]
    show _ = Event.request :: .pause delay :: alternate later.pauses
    rw [← h.events_eq]
  · rw [hrequests, hpauses, h.pauses_eq, hsome, Nat.add_sub_cancel, Nat.add_sub_cancel,
      List.range_succ_eq_map, List.map_cons, List.map_map, Nat.pow_zero, Nat.mul_one,
      Nat.min_eq_left hdelay]
    simp only [min_pause]
    rfl
  · rw [hrequests, hlast]
    exact h.brought
  · rw [hrequests, hlast]
    exact h.not_brought
  · rw [hrequests]
    show later.network = _
    rw [h.network_eq, List.drop_drop, Nat.add_comm]

/-! ### Whole fetches -/

theorem isOutcome_tryFrom {delay : Nat} (hdelay : delay ≤ longestPause) (attempts : Nat)
    (network : Network) :
    (tryFrom delay (attempts + 1) network).IsOutcome delay (attempts + 1) network := by
  induction attempts generalizing delay network with
  | zero =>
      cases hbody : (network.response 0).body? with
      | some body => exact isOutcome_of_body hbody delay 0
      | none => exact isOutcome_of_fails (Response.body?_eq_none_iff.1 hbody) delay
  | succ attempts ih =>
      cases hbody : (network.response 0).body? with
      | some body => exact isOutcome_of_body hbody delay (attempts + 1)
      | none =>
          have hfails := Response.body?_eq_none_iff.1 hbody
          rw [tryFrom_succ_of_fails hfails]
          exact (ih (Nat.min_le_right _ _) (network.drop 1)).again hfails hdelay

/-- A number of half seconds in seconds. -/
def seconds (halves : Nat) : ℚ :=
  halves / 2

theorem seconds_pause (k : Nat) :
    seconds (min (firstPause * 2 ^ k) longestPause) = min (1 / 2 * 2 ^ k) 4 := by
  have hlongest : (longestPause : ℚ) / 2 = 4 := by norm_num [longestPause]
  have hdoubled : ((firstPause * 2 ^ k : Nat) : ℚ) / 2 = 1 / 2 * 2 ^ k := by
    rw [firstPause, Nat.one_mul, Nat.cast_pow, Nat.cast_ofNat]
    ring
  rw [seconds, Nat.cast_min, ← min_div_div_right two_pos.le, hdoubled, hlongest]

/-- The attempts of an order are those that were asked for, two as a rule, and one at least. -/
theorem attempts_make (url : Option String) (timeout : Option Json) (retries : Option Int) :
    ((Order.make url timeout retries).attempts : Int) = max 1 (retries.getD 2) := by
  show ((max 1 (retries.getD Order.defaultAttempts).toNat : Nat) : Int) = _
  rw [Order.defaultAttempts]
  omega

/-- **Whatever the network does, a fetch makes requests up to the first one that does not fail, as
far as attempts are left, with pauses between them that double from half a second up to four
seconds; it gives the countries that the last response brings, or else the built-in ones.** -/
theorem run_isOutcome (url : Option String) (timeout : Option Json) (retries : Option Int)
    (network : Network) :
    let fetch := run (.make url timeout retries) network
    fetch.IsOutcome firstPause (max 1 (retries.getD 2)).toNat network ∧
      fetch.pauses.map seconds =
        (List.range (fetch.requests - 1)).map fun k => min (1 / 2 * 2 ^ k) 4 := by
  intro fetch
  have hattempts := attempts_make url timeout retries
  have hsome : (Order.make url timeout retries).attempts =
      (max 1 (retries.getD 2)).toNat - 1 + 1 := by
    omega
  have houtcome : fetch.IsOutcome firstPause (max 1 (retries.getD 2)).toNat network := by
    rw [← hattempts, Int.toNat_natCast]
    show (tryFrom firstPause (Order.make url timeout retries).attempts network).IsOutcome _ _ _
    rw [hsome]
    exact isOutcome_tryFrom (by decide) _ network
  refine ⟨houtcome, ?_⟩
  rw [houtcome.pauses_eq, List.map_map]
  exact List.map_congr_left fun k _ => seconds_pause k

end Fetch

end Enrolment.Place
