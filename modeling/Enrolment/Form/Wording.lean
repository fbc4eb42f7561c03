/-
The texts that a form shows of its own accord.
-/
import Enrolment.Json.Basic

namespace Enrolment.Wording

/-- The entry for no country. -/
def countryPlaceholder : String := "Select a country"

/-- The entry for no region. -/
def statePlaceholder : String := "Select a state/province"

/-- What a state field says while it is locked. -/
def stateNeedsCountry : String := "Select a country first"

/-- What a state field says when it is a text input. -/
def stateFreeText : String := "Enter state/province"

/-- The entry for no choice. -/
def optionPlaceholder : String := "Select an option"

/-- What is said about a missing answer. -/
def required : String := "This field is required"

/-- The text of the button while answers are sent. -/
def busy : String := "Submitting…"

/-- What is said when a request was accepted. -/
def success : String := "Thanks! Your request has been submitted for review."

/-- What is said when there already was a request. -/
def duplicate : String :=
  "You have already submitted a request. Please wait for approval or contact the store admin."

/-- What is said when a request could not be sent. -/
def failure : String := "Submission failed. Please try again."

/-- All texts, by the names under which the widget looks them up. -/
def toMembers : Members :=
  [("countryPlaceholder", .str countryPlaceholder), ("statePlaceholder", .str statePlaceholder),
    ("stateNeedsCountry", .str stateNeedsCountry), ("stateFreeText", .str stateFreeText),
    ("optionPlaceholder", .str optionPlaceholder), ("required", .str required),
    ("busy", .str busy), ("success", .str success), ("duplicate", .str duplicate),
    ("failure", .str failure)]

end Enrolment.Wording
