/-
The names that uploads are shown by.

An upload is shown by what follows the last slash of its URL, slashes at the end aside.  That is
the last segment of the path as long as nothing follows the path.  A query or a fragment is not
cut off: if there are slashes in it, what follows the last of them is shown, and otherwise all of
it is shown behind the last segment.  So an upload with a query or a fragment is shown by the name
in its path only if this happens to be the end of them too (`shown_by_name_iff`).
-/
import Enrolment.Place.BuiltIn
import Enrolment.Proofs.Text.Basic
import Enrolment.Submission.Row
import Enrolment.Url.Split

namespace Enrolment

namespace Url

/-- A URL with a host, by the parts that it is written from. -/
structure Location where
  scheme : List Char
  host : List Char
  /-- The parts of the path, each of which follows a slash. -/
  segments : List (List Char)
  query : Option (List Char)
  fragment : Option (List Char)
  scheme_plain : ∀ c ∈ scheme, c ≠ ':' ∧ endsAuthority c = false
  host_plain : ∀ c ∈ host, endsAuthority c = false
  segments_plain : ∀ segment ∈ segments, ∀ c ∈ segment, endsAuthority c = false
  query_plain : ∀ text ∈ query, '#' ∉ text

/-- Whether a part is all of a text, when slashes behind it do not count. -/
def IsPart (s part : List Char) : Prop :=
  ∃ slashes, s = part ++ slashes ∧ ∀ c ∈ slashes, c = '/'

/-- Whether a part follows a slash at the end of a text, when slashes behind it do not count. -/
def EndsIn (s part : List Char) : Prop :=
  ∃ before slashes, s = before ++ '/' :: (part ++ slashes) ∧ ∀ c ∈ slashes, c = '/'

theorem EndsIn.append_left {s part : List Char} (h : EndsIn s part) (front : List Char) :
    EndsIn (front ++ s) part := by
  obtain ⟨before, slashes, rfl, hslashes⟩ := h
  exact ⟨front ++ before, slashes, by rw [List.append_assoc], hslashes⟩

namespace Location

variable (location : Location)

/-- The path of a URL. -/
def path : List Char :=
  location.segments.flatMap ('/' :: ·)

/-- What follows the path: the query and the fragment, with their marks. -/
def tail : List Char :=
  (location.query.map ('?' :: ·)).getD [] ++ (location.fragment.map ('#' :: ·)).getD []

/-- A URL in its written form. -/
def chars : List Char :=
  location.scheme ++ "://".toList ++ location.host ++ location.path ++ location.tail

/-- The last segment of the path that is not empty. -/
def name? : Option (List Char) :=
  location.segments.reverse.find? (!·.isEmpty)

/-- The last segment of the path, which is empty if the path ends in a slash. -/
def lastSegment : List Char :=
  location.segments.getLast?.getD []

variable {location} {name : List Char}

/-! ### The path -/

/-- Behind the name of a path there are only slashes. -/
theorem endsIn_path (h : location.name? = some name) : EndsIn location.path name := by
  unfold name? at h
  obtain ⟨-, after, before, hsegments, hafter⟩ := List.find?_eq_some_iff_append.1 h
  have hcut : location.segments = before.reverse ++ name :: after.reverse := by
    rw [← List.reverse_reverse location.segments, hsegments, List.reverse_append,
      List.reverse_cons, List.append_assoc, List.singleton_append]
  refine ⟨before.reverse.flatMap ('/' :: ·), after.reverse.flatMap ('/' :: ·), ?_, ?_⟩
  · rw [path, hcut, List.flatMap_append, List.flatMap_cons, List.cons_append]
  · intro c hc
    obtain ⟨segment, hsegment, hmem⟩ := List.mem_flatMap.1 hc
    have hempty : segment = [] := by simpa using hafter segment (List.mem_reverse.1 hsegment)
    rw [hempty] at hmem
    exact List.mem_singleton.1 hmem

/-- A path with a name ends in a slash and its last segment. -/
theorem exists_path_eq (h : location.name? = some name) :
    ∃ before, location.path = before ++ '/' :: location.lastSegment := by
  have hne : location.segments ≠ [] := by
    intro hnil
    rw [name?, hnil] at h
    cases h
  refine ⟨location.segments.dropLast.flatMap ('/' :: ·), ?_⟩
  rw [lastSegment, List.getLast?_eq_some_getLast hne, Option.getD_some, path]
  nth_rewrite 1 [← List.dropLast_append_getLast hne]
  rw [List.flatMap_append, List.flatMap_singleton]

theorem name_mem_segments (h : location.name? = some name) : name ∈ location.segments :=
  List.mem_reverse.1 (List.mem_of_find?_eq_some h)

theorem name_ne_nil (h : location.name? = some name) : name ≠ [] := by
  simpa using List.find?_some h

theorem slash_not_mem_name (h : location.name? = some name) : '/' ∉ name := by
  intro hmem
  exact absurd (location.segments_plain name (name_mem_segments h) '/' hmem) (by decide)

theorem slash_not_mem_lastSegment : '/' ∉ location.lastSegment := by
  unfold lastSegment
  cases hlast : location.segments.getLast? with
  | none => exact List.not_mem_nil
  | some segment =>
      intro hmem
      have hsegment := List.mem_of_getLast? hlast
      exact absurd (location.segments_plain segment hsegment '/' hmem) (by decide)

/-! ### What follows it -/

/-- A query or a fragment begins with its mark. -/
theorem exists_tail_cons (h : location.tail ≠ []) :
    ∃ mark rest, location.tail = mark :: rest ∧ (mark = '?' ∨ mark = '#') := by
  unfold tail at h ⊢
  cases hquery : location.query with
  | some text => exact ⟨'?', _, rfl, .inl rfl⟩
  | none =>
      rw [hquery] at h
      cases hfragment : location.fragment with
      | some text => exact ⟨'#', text, rfl, .inr rfl⟩
      | none =>
          rw [hfragment] at h
          exact absurd rfl h

/-! ### All of it -/

theorem endsIn_chars_of_tail_eq_nil (hname : location.name? = some name)
    (h : location.tail = []) : EndsIn location.chars name := by
  rw [chars, h, List.append_nil]
  exact (endsIn_path hname).append_left _

theorem endsIn_chars_of_endsIn {part : List Char} (h : EndsIn location.tail part) :
    EndsIn location.chars part :=
  h.append_left _

/-- What has no slash in front of it is shown behind the last segment. -/
theorem endsIn_chars_of_isPart {part : List Char} (hname : location.name? = some name)
    (h : IsPart location.tail part) :
    EndsIn location.chars (location.lastSegment ++ part) := by
  obtain ⟨before, hpath⟩ := exists_path_eq hname
  obtain ⟨slashes, htail, hslashes⟩ := h
  have hends : EndsIn (location.path ++ location.tail) (location.lastSegment ++ part) := by
    refine ⟨before, slashes, ?_, hslashes⟩
    rw [hpath, htail, List.append_assoc, List.cons_append, List.append_assoc]
  rw [chars, List.append_assoc]
  exact hends.append_left _

end Location

/-- A text that is not all slashes is one part, or ends in one. -/
theorem exists_part {s : List Char} (h : ∃ c ∈ s, c ≠ '/') :
    ∃ part, part ≠ [] ∧ '/' ∉ part ∧ (IsPart s part ∨ EndsIn s part) := by
  induction s with
  | nil =>
      obtain ⟨c, hmem, -⟩ := h
      cases hmem
  | cons first rest ih =>
      by_cases hrest : ∃ c ∈ rest, c ≠ '/'
      · obtain ⟨part, hne, hplain, hends⟩ := ih hrest
        rcases hends with ⟨slashes, rfl, hslashes⟩ | ⟨before, slashes, rfl, hslashes⟩
        · by_cases hfirst : first = '/'
          · rw [hfirst]
            exact ⟨part, hne, hplain, .inr ⟨[], slashes, rfl, hslashes⟩⟩
          · have hlonger : '/' ∉ first :: part :=
              List.not_mem_cons_of_ne_of_not_mem (Ne.symm hfirst) hplain
            exact ⟨first :: part, List.cons_ne_nil _ _, hlonger, .inl ⟨slashes, rfl, hslashes⟩⟩
        · exact ⟨part, hne, hplain, .inr ⟨first :: before, slashes, rfl, hslashes⟩⟩
      · have hslashes : ∀ c ∈ rest, c = '/' := by
          intro c hc
          by_contra hother
          exact hrest ⟨c, hc, hother⟩
        have hfirst : first ≠ '/' := by
          obtain ⟨c, hmem, hother⟩ := h
          rcases List.mem_cons.1 hmem with rfl | hlater
          · exact hother
          · exact absurd (hslashes c hlater) hother
        have hplain : '/' ∉ [first] := fun hmem => hfirst (List.mem_singleton.1 hmem).symm
        exact ⟨[first], List.cons_ne_nil _ _, hplain, .inl ⟨rest, rfl, hslashes⟩⟩

end Url

/-! ### What is shown -/

namespace Row

/-- **What is shown of a URL is the part that it ends in.** -/
theorem lastSegment_of_endsIn {address : String} {part : List Char}
    (h : Url.EndsIn address.toList part) (hne : part ≠ []) (hplain : '/' ∉ part) :
    lastSegment address = String.ofList part := by
  obtain ⟨before, slashes, haddress, hslashes⟩ := h
  have hclosed : ∀ c ∈ (before ++ '/' :: part).reverse.head?, decide (c = '/') = false := by
    intro c hc
    obtain ⟨last, more, hreverse⟩ := List.exists_cons_of_ne_nil
      (mt List.reverse_eq_nil_iff.1 hne)
    rw [List.reverse_append, List.reverse_cons, hreverse] at hc
    obtain rfl : last = c := by simpa using hc
    have hmem : last ∈ part := List.mem_reverse.1 (hreverse ▸ List.mem_cons_self)
    exact decide_eq_false fun hslash => hplain (hslash ▸ hmem)
  have hopen : ∀ c ∈ ('/' :: before.reverse).head?, decide (c ≠ '/') = false := by
    intro c hc
    obtain rfl : '/' = c := by simpa using hc
    rfl
  have hpath : Text.dropEnd (· = '/') address.toList = before ++ '/' :: part := by
    have hback : ∀ c ∈ slashes.reverse, decide (c = '/') = true := fun c hc =>
      decide_eq_true (hslashes c (List.mem_reverse.1 hc))
    rw [haddress, ← List.cons_append, ← List.append_assoc, Text.dropEnd, List.reverse_append,
      (Text.takeWhile_dropWhile_append hback hclosed).2, List.reverse_reverse]
  have hsegment : ((before ++ '/' :: part).reverse.takeWhile (· ≠ '/')).reverse = part := by
    have hfront : ∀ c ∈ part.reverse, decide (c ≠ '/') = true := by
      intro c hc
      exact decide_eq_true fun hslash => hplain (hslash ▸ List.mem_reverse.1 hc)
    rw [List.reverse_append, List.reverse_cons, List.append_assoc, List.singleton_append,
      (Text.takeWhile_dropWhile_append hfront hopen).1, List.reverse_reverse]
  unfold lastSegment
  dsimp only
  rw [hpath, hsegment, if_neg (by simpa using hne)]

/-- An upload with a URL is shown by what this URL ends in. -/
theorem display_ofUpload (fields : List Field) {upload : Upload} {part : List Char}
    (h : Url.EndsIn upload.url.toList part) (hne : part ≠ []) (hplain : '/' ∉ part) :
    (ofUpload fields upload).display = String.ofList part := by
  have hurl : upload.url ≠ "" := by
    intro hempty
    obtain ⟨before, slashes, hcut, -⟩ := h
    rw [hempty, String.toList_empty] at hcut
    simp at hcut
  unfold ofUpload
  dsimp only
  rw [if_neg hurl, lastSegment_of_endsIn h hne hplain]

end Row

theorem Request.ofUpload_mem_rows {request : Request} {upload : Upload}
    (h : upload ∈ request.files) (fields : List Field) (table : Place.Table)
    (includeSensitive : Bool) :
    Row.ofUpload fields upload ∈ request.rows fields table includeSensitive := by
  rw [rows, List.mem_mergeSort, submittedRows]
  exact List.mem_append_right _ (List.mem_map_of_mem h)

namespace Upload

open Url (Location EndsIn IsPart)

section

variable {upload : Upload} {location : Location} {name part : List Char} (fields : List Field)
  (hurl : upload.url.toList = location.chars) (hname : location.name? = some name)
include hurl

theorem display_of_endsIn (hne : part ≠ []) (hplain : '/' ∉ part)
    (h : EndsIn location.tail part) :
    (Row.ofUpload fields upload).display = String.ofList part :=
  Row.display_ofUpload fields (hurl ▸ Location.endsIn_chars_of_endsIn h) hne hplain

include hname

theorem display_of_tail_eq_nil (h : location.tail = []) :
    (Row.ofUpload fields upload).display = String.ofList name :=
  Row.display_ofUpload fields (hurl ▸ Location.endsIn_chars_of_tail_eq_nil hname h)
    (Location.name_ne_nil hname) (Location.slash_not_mem_name hname)

theorem display_of_isPart (hne : part ≠ []) (hplain : '/' ∉ part)
    (h : IsPart location.tail part) :
    (Row.ofUpload fields upload).display = String.ofList (location.lastSegment ++ part) := by
  refine Row.display_ofUpload fields (hurl ▸ Location.endsIn_chars_of_isPart hname h) ?_ ?_
  · exact List.append_ne_nil_of_right_ne_nil _ hne
  · exact List.not_mem_append Location.slash_not_mem_lastSegment hplain

/-- A name is shown just if nothing follows the path, or what follows it ends in the name too. -/
theorem display_eq_name_iff :
    (Row.ofUpload fields upload).display = String.ofList name ↔
      location.tail = [] ∨ EndsIn location.tail name := by
  constructor
  · intro hshown
    by_cases htail : location.tail = []
    · exact .inl htail
    · obtain ⟨mark, rest, hcons, hmark⟩ := Location.exists_tail_cons htail
      have hslash : mark ≠ '/' := by
        rcases hmark with rfl | rfl <;> decide
      have hother : ∃ c ∈ location.tail, c ≠ '/' := by
        rw [hcons]
        exact ⟨mark, List.mem_cons_self, hslash⟩
      obtain ⟨part, hne, hplain, hpart | hends⟩ := Url.exists_part hother
      · -- the mark would be shown, and is no character of a name
        exfalso
        rw [display_of_isPart fields hurl hname hne hplain hpart, String.ofList_inj] at hshown
        obtain ⟨slashes, hcut, -⟩ := hpart
        obtain ⟨first, more, rfl⟩ := List.exists_cons_of_ne_nil hne
        rw [hcons] at hcut
        obtain ⟨rfl, -⟩ := List.cons.inj hcut
        have hmem : mark ∈ name := by
          rw [← hshown]
          exact List.mem_append_right _ List.mem_cons_self
        have hends := location.segments_plain name (Location.name_mem_segments hname) mark hmem
        rcases hmark with rfl | rfl <;> exact absurd hends (by decide)
      · rw [display_of_endsIn fields hurl hne hplain hends, String.ofList_inj] at hshown
        exact .inr (hshown ▸ hends)
  · rintro (htail | hends)
    · exact display_of_tail_eq_nil fields hurl hname htail
    · exact display_of_endsIn fields hurl (Location.name_ne_nil hname)
        (Location.slash_not_mem_name hname) hends

end

end Upload

/-- **Each upload has a row.  If its URL has a name in its path, the row shows it just if nothing
follows the path, or what follows it ends in this name too; otherwise it shows the end of what
follows, behind the last segment if there is no slash before it.** -/
theorem Request.upload_shown_by_name_iff (request : Request) (fields : List Field)
    (table : Place.Table) (includeSensitive : Bool) {upload : Upload}
    (hupload : upload ∈ request.files) {location : Url.Location}
    (hurl : upload.url.toList = location.chars) {name : List Char}
    (hname : location.name? = some name) :
    Row.ofUpload fields upload ∈ request.rows fields table includeSensitive ∧
    ((Row.ofUpload fields upload).display = String.ofList name ↔
      location.tail = [] ∨ Url.EndsIn location.tail name) ∧
    ∀ part, part ≠ [] → '/' ∉ part →
      (Url.EndsIn location.tail part →
        (Row.ofUpload fields upload).display = String.ofList part) ∧
      (Url.IsPart location.tail part →
        (Row.ofUpload fields upload).display = String.ofList (location.lastSegment ++ part)) := by
  refine ⟨ofUpload_mem_rows hupload fields table includeSensitive,
    Upload.display_eq_name_iff fields hurl hname, ?_⟩
  intro part hne hplain
  exact ⟨Upload.display_of_endsIn fields hurl hne hplain,
    Upload.display_of_isPart fields hurl hname hne hplain⟩

/-- The parts of `https://cdn.example.com/uploads//proof.pdf/`. -/
def Url.plainLocation : Url.Location where
  scheme := "https".toList
  host := "cdn.example.com".toList
  segments := ["uploads".toList, [], "proof.pdf".toList, []]
  query := none
  fragment := none
  scheme_plain := by simp [endsAuthority]
  host_plain := by simp [endsAuthority]
  segments_plain := by simp [endsAuthority]
  query_plain := by decide

/-- The parts of `https://cdn.example.com/proof.pdf?signature=ab/cd#page=2`. -/
def Url.signedLocation : Url.Location where
  scheme := "https".toList
  host := "cdn.example.com".toList
  segments := ["proof.pdf".toList]
  query := some "signature=ab/cd".toList
  fragment := some "page=2".toList
  scheme_plain := by simp [endsAuthority]
  host_plain := by simp [endsAuthority]
  segments_plain := by simp [endsAuthority]
  query_plain := by decide

/-- A request with one upload. -/
def Request.ofUrl (url : String) : Request :=
  ⟨none, [], none, [⟨"Proof", url, none, none⟩]⟩

/-- Slashes behind the name do not matter. -/
theorem Request.proof_shown_by_name :
    ∃ row ∈ (ofUrl "https://cdn.example.com/uploads//proof.pdf/").rows [] Place.builtIn false,
      row.rawKey = "Proof" ∧ row.isFile = true ∧ row.display = "proof.pdf" := by
  have hname : Url.plainLocation.name? = some "proof.pdf".toList := by decide
  have hurl : "https://cdn.example.com/uploads//proof.pdf/".toList = Url.plainLocation.chars := by
    decide
  obtain ⟨hmem, hshown, -⟩ := upload_shown_by_name_iff
    (ofUrl "https://cdn.example.com/uploads//proof.pdf/") [] Place.builtIn false
    List.mem_cons_self hurl hname
  refine ⟨_, hmem, rfl, rfl, ?_⟩
  rw [hshown.2 (.inl rfl), String.ofList_toList]

/-- A signature with a slash takes the place of the name. -/
theorem Request.signed_proof_not_shown_by_name :
    "https://cdn.example.com/proof.pdf?signature=ab/cd#page=2".toList =
      Url.signedLocation.chars ∧
    Url.signedLocation.name? = some "proof.pdf".toList ∧
    ((ofUrl "https://cdn.example.com/proof.pdf?signature=ab/cd#page=2").rows [] Place.builtIn
      false).map (·.display) = ["cd#page=2"] := by
  refine ⟨by decide, by decide, ?_⟩
  rw [rows, submittedRows]
  exact congrArg (List.map Row.display) (List.mergeSort_singleton _)

end Enrolment
