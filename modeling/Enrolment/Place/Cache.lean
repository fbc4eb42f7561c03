/-
Keeping the country data that were fetched.

The table is fetched when it is first asked for and kept until it is dropped.  Each
fetch makes a table of its own, so tables are numbered in the order in which they
were fetched; `run` reports for each command whether it gave the very table that
was given before.
-/
import Enrolment.Place.Source

namespace Enrolment.Place

/-- The kept table with its number, how many tables were fetched so far, and the network. -/
structure Cache where
  kept : Option (Nat × Table)
  fetches : Nat
  network : Network

namespace Cache

/-- Nothing kept and nothing fetched. -/
def empty (network : Network) : Cache :=
  ⟨none, 0, network⟩

/-- A table with its number, the order it was fetched by and what that took; an order for a kept
table takes no requests. -/
structure Given where
  number : Nat
  table : Table
  order : Order
  requests : Nat
  pauses : List Nat

/-- Fetches a table without keeping it. -/
def fetch (cache : Cache) (order : Order) : Given × Cache :=
  let fetch := Fetch.run order cache.network
  (⟨cache.fetches, fetch.table, order, fetch.requests, fetch.pauses⟩,
    { cache with fetches := cache.fetches + 1, network := fetch.network })

/-- Gives the kept table, after fetching it if there is none. -/
def get (cache : Cache) : Given × Cache :=
  match cache.kept with
  | some (number, table) => (⟨number, table, .usual, 0, []⟩, cache)
  | none =>
    let (given, cache) := cache.fetch .usual
    (given, { cache with kept := some (given.number, given.table) })

/-- Drops the kept table. -/
def reset (cache : Cache) : Cache :=
  { cache with kept := none }

/-- What a cache may be told to do. -/
inductive Command where
  | get
  | fetch (order : Order)
  | reset

/-- What a command did: it gave a table, which may be the same as the one before, or none. -/
inductive Report where
  | gave (given : Given) (same : Bool)
  | dropped

/-- Carries out commands; `previous` is the number of the table that was given last. -/
def run (cache : Cache) (previous : Option Nat) : List Command → List Report
  | [] => []
  | .get :: rest =>
    let (given, cache) := cache.get
    .gave given (previous = some given.number) :: run cache (some given.number) rest
  | .fetch order :: rest =>
    let (given, cache) := cache.fetch order
    .gave given (previous = some given.number) :: run cache (some given.number) rest
  | .reset :: rest => .dropped :: run cache.reset previous rest

end Cache

end Enrolment.Place
