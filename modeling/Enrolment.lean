import Enrolment.Json.Reader
import Enrolment.Service.Run
import Enrolment.Proofs.Json.Inert
import Enrolment.Proofs.Widget.Script
import Enrolment.Proofs.Markup.Tags
import Enrolment.Proofs.Preview.Angles
import Enrolment.Proofs.Submission.OwnKey
import Enrolment.Proofs.Submission.Display
import Enrolment.Proofs.Preview.Blocks
import Enrolment.Proofs.Preview.Carried
import Enrolment.Proofs.Widget.Inlining
import Enrolment.Proofs.Widget.Answers
import Enrolment.Proofs.Widget.Refusals
import Enrolment.Proofs.Submission.Readable
import Enrolment.Proofs.Service.Secrecy
import Enrolment.Proofs.Service.Strict
import Enrolment.Proofs.Service.Visits
import Enrolment.Proofs.Form.Core
import Enrolment.Proofs.Service.Review
import Enrolment.Proofs.Customer.Clue
import Enrolment.Proofs.Customer.Shape
import Enrolment.Proofs.Customer.Recased
import Enrolment.Proofs.Form.Issues
import Enrolment.Proofs.Submission.Sensitive
import Enrolment.Proofs.Submission.Ranks
import Enrolment.Proofs.Place.Choices
import Enrolment.Proofs.Place.Fetch
import Enrolment.Proofs.Submission.Choices
import Enrolment.Proofs.Form.Check
import Enrolment.Proofs.Form.Refusals
import Enrolment.Proofs.Form.Completion
import Enrolment.Proofs.Submission.SharedKeys
import Enrolment.Proofs.Preview.Locked
import Enrolment.Proofs.Form.Roles
import Enrolment.Proofs.Submission.Priority
import Enrolment.Proofs.Submission.Respelt
import Enrolment.Proofs.Submission.States
import Enrolment.Proofs.Submission.Labels
import Enrolment.Proofs.Customer.Email
import Enrolment.Proofs.Customer.Accepted
import Enrolment.Proofs.Customer.LastNames
import Enrolment.Proofs.Customer.CountryCode
import Enrolment.Proofs.Place.Wire
import Enrolment.Proofs.Form.Languages
import Enrolment.Proofs.Place.Scan
import Enrolment.Proofs.Form.RowGroups
import Enrolment.Proofs.Preview.Regions
import Enrolment.Proofs.Preview.Reading
import Enrolment.Proofs.Submission.Uploads
import Enrolment.Proofs.Style.Quoted
import Enrolment.Proofs.Preview.Layout
import Enrolment.Proofs.Form.Rejections
import Enrolment.Proofs.Form.FilePart
import Enrolment.Proofs.Submission.Spoken
