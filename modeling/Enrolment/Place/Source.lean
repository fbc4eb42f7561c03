/-
Fetching country data over a network that may fail.

A request fails when it gets no response, one that reports an error, or one whose
body is not JSON; after a pause it is made again, as often as allowed.  The first
decoded body settles the matter, usable or not.  Whatever happens a table comes out
of it: the built-in one if need be.

The network is the list of responses still to come; when it is used up every request
fails.
-/
import Enrolment.Number.Binary64
import Enrolment.Place.BuiltIn

namespace Enrolment.Place

/-- What comes back for a request. -/
inductive Response where
  | lost
  | received (status : Int) (body : Option Json)

/-- The responses still to come. -/
abbrev Network := List Response

namespace Network

/-- The next response, and the network behind it. -/
def next : Network → Response × Network
  | [] => (.lost, [])
  | response :: rest => (response, rest)

end Network

/-- The decoded body of a response, unless the request failed. -/
def Response.body? : Response → Option Json
  | lost => none
  | received status body => if status ≥ 400 then none else body

/-- How country data are to be fetched. -/
structure Order where
  url : String
  timeout : Json
  attempts : Nat

namespace Order

/-- Where country data are published. -/
def defaultUrl : String :=
  "https://cdn.jsdelivr.net/npm/country-region-data@3.0.0/data.json"

/-- The seconds that a response may take. -/
def defaultTimeout : Json :=
  .num (.ofRatio false 10 1)

/-- How often a request is made at most. -/
def defaultAttempts : Int := 2

/-- An order in which an empty address, a timeout of zero and fewer than one attempt give way to
what is usual. -/
def make (url : Option String) (timeout : Option Json) (attempts : Option Int) : Order where
  url := match url with
    | some url => if url = "" then defaultUrl else url
    | none => defaultUrl
  timeout := match timeout with
    | some timeout => if timeout.isTruthy then timeout else defaultTimeout
    | none => defaultTimeout
  attempts := max 1 (attempts.getD defaultAttempts).toNat

/-- The usual order. -/
def usual : Order :=
  make none none none

end Order

/-- The first pause, in half seconds. -/
def firstPause : Nat := 1

/-- The longest pause, in half seconds. -/
def longestPause : Nat := 8

/-- What is done for an order: a request, or a pause of so many half seconds. -/
inductive Event where
  | request
  | pause (halves : Nat)
deriving DecidableEq

/-- The half seconds of a pause. -/
def Event.pause? : Event → Option Nat
  | request => none
  | pause halves => some halves

/-- What came of an order: the table, what was done for it in turn, and the network as it was
left. -/
structure Fetch where
  table : Table
  events : List Event
  network : Network

namespace Fetch

/-- How many requests were made. -/
def requests (fetch : Fetch) : Nat :=
  fetch.events.count .request

/-- The pauses that were made, in half seconds. -/
def pauses (fetch : Fetch) : List Nat :=
  fetch.events.filterMap Event.pause?

/-- The table of decoded country data. -/
def tableOf (body : Json) : Table :=
  match Country.readList? body with
  | some countries => ⟨countries⟩
  | none => builtIn

/-- Makes up to `attempts` requests.  Before the second one stands a pause of `delay` half seconds,
and each further pause is twice as long as the one before, up to the longest. -/
def tryFrom (delay : Nat) : Nat → Network → Fetch
  | 0, network => ⟨builtIn, [], network⟩
  | attempts + 1, network =>
    let (response, rest) := network.next
    match response.body? with
    | some body => ⟨tableOf body, [.request], rest⟩
    | none =>
      if attempts = 0 then ⟨builtIn, [.request], rest⟩
      else
        let later := tryFrom (min (delay * 2) longestPause) attempts rest
        { later with events := .request :: .pause delay :: later.events }

/-- Carries out an order. -/
def run (order : Order) (network : Network) : Fetch :=
  tryFrom firstPause order.attempts network

end Fetch

end Enrolment.Place
