/-
Which submissions can be read.

The answers of a request are taken as they are, whatever they hold.  What can go wrong is in
its uploads: an upload whose size is an infinity stops the reading, and one whose media type
is neither a text nor null is complained about.  Everything else is read, displayed as rows
and made a draft of, unless there is no email address.
-/
import Enrolment.Customer.Draft
import Enrolment.Proofs.Form.Overflow
import Enrolment.Proofs.Json.Members
import Enrolment.Submission.Row

namespace Enrolment

namespace Upload

/-- Whether the size of an upload is an infinity. -/
def HasInfiniteSize (members : Members) : Prop :=
  ∃ value ∈ members.get? "size", value.IsInfinite

/-- Whether the media type of an upload is neither a text nor null. -/
def hasOddMediaType (members : Members) : Bool :=
  match members.either? "contentType" "content_type" with
  | none | some .null | some (.str _) => false
  | some _ => true

/-- Whether an upload can be read. -/
def IsReadable (members : Members) : Prop :=
  ¬HasInfiniteSize members ∧ hasOddMediaType members = false

/-- The complaint about a media type, in the spelling in which it was submitted. -/
def mediaTypeMisfit (index : Nat) (members : Members) : Misfit :=
  ⟨[.member "files", .item index,
    .member (members.spelling "contentType" "content_type")], .text⟩

/-- The complaints about uploads that are numbered from an index on. -/
def misfitsFrom (index : Nat) (uploads : List Members) : List Misfit :=
  ((uploads.zipIdx index).filter (hasOddMediaType ·.1)).map fun upload =>
    mediaTypeMisfit upload.2 upload.1

theorem misfitsFrom_cons (index : Nat) (members : Members) (uploads : List Members) :
    misfitsFrom index (members :: uploads) =
      if hasOddMediaType members then
        mediaTypeMisfit index members :: misfitsFrom (index + 1) uploads
      else misfitsFrom (index + 1) uploads := by
  unfold misfitsFrom
  rw [List.zipIdx_cons, List.filter_cons]
  cases hasOddMediaType members <;> rfl

/-- There are complaints just if there is an odd media type. -/
theorem misfitsFrom_eq_nil_iff (index : Nat) (uploads : List Members) :
    misfitsFrom index uploads = [] ↔ ∀ members ∈ uploads, hasOddMediaType members = false := by
  induction uploads generalizing index with
  | nil => simp [misfitsFrom]
  | cons members uploads ih =>
      rw [misfitsFrom_cons, List.forall_mem_cons, ← ih (index + 1)]
      cases hasOddMediaType members <;> simp

/-! ### The uploads of a list -/

theorem ofMembers_failsIf (index : Nat) (members : Members) :
    FailsIf (ofMembers index members) .infiniteInteger (HasInfiniteSize members) := by
  have hsize := Setting.optional_failsIf Setting.size?_failsIf (members.get? "size")
  refine (hsize.bind fun _ => FailsIf.ok _).congr ?_
  rw [or_false, HasInfiniteSize]

theorem readContentType?_eq_none_iff (members : Members) :
    readContentType? (members.either? "contentType" "content_type") = none ↔
      hasOddMediaType members = true := by
  unfold hasOddMediaType
  cases members.either? "contentType" "content_type" with
  | none => simp [readContentType?]
  | some value => cases value <;> simp [readContentType?]

/-- An upload whose size can be read is complained about just for its media type. -/
theorem failsIf_of_ofMembers {index : Nat} {members : Members} {upload : Except Misfit Upload}
    (h : ofMembers index members = .ok upload) :
    FailsIf upload (mediaTypeMisfit index members) (hasOddMediaType members = true) := by
  rw [← readContentType?_eq_none_iff]
  obtain ⟨size, -, h⟩ := ok_of_bind h
  obtain rfl := Except.ok.inj h
  cases hmedia : readContentType? (members.either? "contentType" "content_type") with
  | none =>
      intro misfit
      simp [mediaTypeMisfit, eq_comm]
  | some mediaType => exact (FailsIf.ok _).congr (by simp)

/-- An infinite size anywhere in a list stops its reading. -/
theorem readItems_failsIf (index : Nat) (items : List Json) :
    FailsIf (readItems index items) .infiniteInteger
      (∃ members ∈ Json.objects items, HasInfiniteSize members) := by
  induction items generalizing index with
  | nil => exact (FailsIf.ok ([], [])).congr (by simp)
  | cons item rest ih =>
      cases item with
      | obj members =>
          refine ((ofMembers_failsIf index members).bind fun _ =>
            (ih (index + 1)).bind fun _ => FailsIf.ok _).congr ?_
          simp
      | null | bool _ | int _ | num _ | str _ | arr _ => exact ih index

/-- What is read of a list comes with the complaints about it. -/
theorem misfits_of_readItems {index : Nat} {items : List Json} {uploads : List Upload}
    {misfits : List Misfit} (h : readItems index items = .ok (uploads, misfits)) :
    misfits = misfitsFrom index (Json.objects items) := by
  induction items generalizing index uploads misfits with
  | nil =>
      obtain ⟨-, rfl⟩ := Prod.mk.inj (Except.ok.inj h)
      rfl
  | cons item rest ih =>
      cases item with
      | obj members =>
          obtain ⟨upload, hupload, h⟩ := ok_of_bind h
          obtain ⟨⟨others, complaints⟩, hrest, h⟩ := ok_of_bind h
          have hodd := failsIf_of_ofMembers hupload
          rw [Json.objects_cons_obj, misfitsFrom_cons, ← ih hrest]
          cases upload with
          | ok upload =>
              obtain ⟨-, rfl⟩ := Prod.mk.inj (Except.ok.inj h)
              rw [if_neg (hodd.exists_ok_iff.1 ⟨upload, rfl⟩)]
          | error misfit =>
              obtain ⟨-, rfl⟩ := Prod.mk.inj (Except.ok.inj h)
              obtain ⟨rfl, htrue⟩ := (hodd misfit).1 rfl
              rw [if_pos htrue]
      | null | bool _ | int _ | num _ | str _ | arr _ => exact ih h

end Upload

/-! ### The answers -/

namespace Request

/-- A request with other answers differs in its answers only. -/
theorem ofMembers_put_data (members data : Members) :
    ofMembers (members.put "data" (.obj data)) =
      (ofMembers members).map fun request => { request with data } := by
  have hother {key : String} (h : key ≠ "data") :
      (members.put "data" (.obj data)).get? key = members.get? key :=
    members.get?_put_of_ne h _
  unfold ofMembers
  rw [hother (by decide), members.get?_put_self, hother (by decide), hother (by decide)]
  cases Upload.readList (members.get? "files") with
  | error cause => rfl
  | ok reading =>
      obtain ⟨files, misfits⟩ := reading
      cases misfits with
      | nil => rfl
      | cons misfit others => rfl

theorem data_of_ofMembers {members : Members} {request : Request}
    (h : ofMembers members = .ok request) :
    request.data = ((members.get? "data").getD .null).members := by
  obtain ⟨⟨files, misfits⟩, -, h⟩ := ok_of_bind h
  cases misfits with
  | nil =>
      obtain rfl := Except.ok.inj h
      rfl
  | cons misfit others => cases h

end Request

/-! ### The whole request -/

/-- What an error says of the uploads that could not be read. -/
def ReadError.Concerns (uploads : List Members) : ReadError → Prop
  | overflow .infiniteInteger => ∃ members ∈ uploads, Upload.HasInfiniteSize members
  | overflow .integerTooLarge => False
  | misfits places =>
      (∀ members ∈ uploads, ¬Upload.HasInfiniteSize members) ∧
        places = Upload.misfitsFrom 0 uploads ∧ places ≠ []

namespace Request

/-- The uploads of a submission, by their members; what is no object holds none. -/
def uploads (submission : Json) : List Members :=
  match submission.members.get? "files" with
  | some (.arr items) => Json.objects items
  | _ => []

theorem readAny_eq (submission : Json) : readAny submission = ofMembers submission.members := by
  cases submission <;> rfl

/-- Uploads are read from a list of items, if only from an empty one. -/
theorem readList_eq (submission : Json) :
    ∃ items, Upload.readList (submission.members.get? "files") = Upload.readItems 0 items ∧
      uploads submission = Json.objects items := by
  unfold uploads
  cases submission.members.get? "files" with
  | none => exact ⟨[], rfl, rfl⟩
  | some files =>
      cases files with
      | arr items => exact ⟨items, rfl, rfl⟩
      | null | bool _ | int _ | num _ | str _ | obj _ => exact ⟨[], rfl, rfl⟩

/-- A submission has just the errors that concern its uploads. -/
theorem readAny_eq_error_iff (submission : Json) (cause : ReadError) :
    readAny submission = .error cause ↔ cause.Concerns (uploads submission) := by
  obtain ⟨items, hlist, huploads⟩ := readList_eq submission
  have hfails := Upload.readItems_failsIf 0 items
  rw [← huploads] at hfails
  rw [readAny_eq, ofMembers, hlist]
  cases hread : Upload.readItems 0 items with
  | error fault =>
      obtain ⟨rfl, hinfinite⟩ := (hfails fault).1 hread
      have hnot : ¬∀ members ∈ uploads submission, ¬Upload.HasInfiniteSize members := by
        intro hfinite
        obtain ⟨members, hmem, hsize⟩ := hinfinite
        exact hfinite members hmem hsize
      change (.error (.overflow .infiniteInteger) : Except ReadError Request) = _ ↔ _
      rw [Except.error.injEq]
      rcases cause with places | (_ | _)
      · simp [ReadError.Concerns, hnot]
      · simp [ReadError.Concerns, hinfinite]
      · simp [ReadError.Concerns]
  | ok reading =>
      obtain ⟨files, misfits⟩ := reading
      have hfinite := hfails.exists_ok_iff.1 ⟨_, hread⟩
      have hmisfits := Upload.misfits_of_readItems hread
      rw [← huploads] at hmisfits
      cases misfits with
      | nil =>
          change (.ok _ : Except ReadError Request) = _ ↔ _
          rcases cause with places | (_ | _)
          · simp [ReadError.Concerns, ← hmisfits]
          · simp [ReadError.Concerns, hfinite]
          · simp [ReadError.Concerns]
      | cons misfit others =>
          change (.error (.misfits (misfit :: others)) : Except ReadError Request) = _ ↔ _
          rw [Except.error.injEq]
          rcases cause with places | (_ | _)
          · simp only [ReadError.Concerns, ← hmisfits, ReadError.misfits.injEq]
            constructor
            · rintro rfl
              exact ⟨fun members hmem hsize => hfinite ⟨members, hmem, hsize⟩, rfl,
                List.cons_ne_nil _ _⟩
            · rintro ⟨-, rfl, -⟩
              rfl
          · simp [ReadError.Concerns, hfinite]
          · simp [ReadError.Concerns]

/-- No error concerns uploads that can all be read. -/
theorem forall_not_concerns_iff (uploads : List Members) :
    (∀ cause : ReadError, ¬cause.Concerns uploads) ↔
      ∀ members ∈ uploads, Upload.IsReadable members := by
  constructor
  · intro hnone members hmem
    have hfinite : ∀ members ∈ uploads, ¬Upload.HasInfiniteSize members :=
      fun members hmem hsize => hnone (.overflow .infiniteInteger) ⟨members, hmem, hsize⟩
    have hmisfits : Upload.misfitsFrom 0 uploads = [] := by
      by_contra hsome
      exact hnone (.misfits _) ⟨hfinite, rfl, hsome⟩
    exact ⟨hfinite members hmem, (Upload.misfitsFrom_eq_nil_iff 0 uploads).1 hmisfits members hmem⟩
  · rintro hreadable (places | (_ | _)) hconcerns
    · obtain ⟨-, hplaces, hsome⟩ := hconcerns
      have hnone := (Upload.misfitsFrom_eq_nil_iff 0 uploads).2 fun members hmem =>
        (hreadable members hmem).2
      exact hsome (hplaces.trans hnone)
    · obtain ⟨members, hmem, hsize⟩ := hconcerns
      exact (hreadable members hmem).1 hsize
    · exact hconcerns

/-- A submission is read just if all its uploads can be. -/
theorem exists_readAny_eq_ok_iff (submission : Json) :
    (∃ request, readAny submission = .ok request) ↔
      ∀ members ∈ uploads submission, Upload.IsReadable members := by
  rw [exists_ok_iff_forall (readAny_eq_error_iff submission), forall_not_concerns_iff]

/-- The rows of whatever was submitted. -/
def rowsOf (submission : Json) (fields : List Field) (table : Place.Table)
    (includeSensitive : Bool) : Except ReadError (List Row) :=
  (readAny submission).map (·.rows fields table includeSensitive)

/-- **A submission has rows, and a draft or no email address to make one for, just if all its
uploads can be read; else both fail, with the error that concerns the uploads.** -/
theorem rowsOf_draftOf_outcome (submission : Json) (fields : List Field) (table : Place.Table)
    (includeSensitive : Bool) (known : Option Place.Table) :
    ((∃ rows, rowsOf submission fields table includeSensitive = .ok rows) ↔
      ∀ members ∈ uploads submission, Upload.IsReadable members) ∧
    ((∃ draft, Customer.draftOf submission known = .ok draft) ∨
        Customer.draftOf submission known = .error .noEmail ↔
      ∀ members ∈ uploads submission, Upload.IsReadable members) ∧
    ∀ cause : ReadError,
      (rowsOf submission fields table includeSensitive = .error cause ↔
        cause.Concerns (uploads submission)) ∧
      (Customer.draftOf submission known = .error (.unreadable cause) ↔
        cause.Concerns (uploads submission)) := by
  rw [← exists_readAny_eq_ok_iff]
  simp only [← readAny_eq_error_iff, rowsOf, Customer.draftOf]
  cases readAny submission with
  | error cause => simp [Except.map]
  | ok request =>
      cases hdraft : Customer.draft? request known with
      | none => simp [Except.map, hdraft]
      | some draft => simp [Except.map, hdraft]

/-- A submission with an email address and one upload. -/
def withUpload (upload : Members) : Json :=
  .obj [("email", .str "ada@example.com"), ("files", .arr [.obj upload])]

/-- A media type that is a number is complained about, and an infinite size stops the reading. -/
theorem odd_uploads_refused :
    rowsOf (withUpload [("contentType", .int 5)]) [] ⟨[]⟩ false =
        .error (.misfits [⟨[.member "files", .item 0, .member "contentType"], .text⟩]) ∧
      Customer.draftOf (withUpload [("contentType", .int 5)]) none =
        .error (.unreadable
          (.misfits [⟨[.member "files", .item 0, .member "contentType"], .text⟩])) ∧
      rowsOf (withUpload [("size", .num (.infinite false))]) [] ⟨[]⟩ false =
        .error (.overflow .infiniteInteger) ∧
      Customer.draftOf (withUpload [("size", .num (.infinite false))]) none =
        .error (.unreadable (.overflow .infiniteInteger)) :=
  ⟨rfl, rfl, rfl, rfl⟩

end Request

end Enrolment
