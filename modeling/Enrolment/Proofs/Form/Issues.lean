/-
What the strict view of a form finds.

A form has no issue just if it keeps every limit (`Form.KeepsLimits`).  Each limit of a text or
a number is checked by itself, so its problem is missing just if it is kept.  That no id and
no role comes twice is found out along the way: the fields looked at so far are remembered
(`Taken.Remembers`), each field after them has just the problems that are its own
(`Field.IsProblem`), and so the run over the whole list reports these and no others.  The path
of an issue tells the field and the member it is about, so nothing else is reported there.  Ids
and roles are keys of two kinds (`KeyKind`), and what is reported of them is told for any kind.
-/
import Enrolment.Proofs.Form.Owners
import Enrolment.Proofs.Json.RoundTrip
import Enrolment.Proofs.Number.Value

namespace Enrolment

theorem problemIf_eq_nil_iff {α : Type} {condition : Bool} {problem : α} :
    problemIf condition problem = [] ↔ condition = false := by
  cases condition <;> simp [problemIf]

theorem mem_problemIf {α : Type} {condition : Bool} {problem other : α} :
    other ∈ problemIf condition problem ↔ condition = true ∧ other = problem := by
  cases condition <;> simp [problemIf]

/-! ### Keys -/

/-- The keys of a field that no other field may have. -/
inductive KeyKind where
  | id
  | role

namespace KeyKind

/-- What a key of a kind is. -/
def Key : KeyKind → Type
  | id => Int
  | role => Role

/-- The key that a field has, if it has one. -/
def keyOf : (kind : KeyKind) → Field → Option kind.Key
  | id => Field.id
  | role => Field.role

/-- The problem that an earlier field has the key. -/
def duplicate : (kind : KeyKind) → kind.Key → Nat → FieldProblem
  | id => .duplicateId
  | role => .duplicateRole

/-- The member of a field that the key is. -/
def member : KeyKind → String
  | id => "id"
  | role => "role"

/-- What is said of a key that an earlier field has: the key, and the first field that has it. -/
def message : (kind : KeyKind) → kind.Key → Nat → String
  | id => fun id first =>
    "Duplicate field id " ++ String.ofList (Numeral.ofInt id) ++ " (also used by fields[" ++
      toString first ++ "])"
  | role => fun role first =>
    "Role '" ++ role.name ++ "' is already used by fields[" ++ toString first ++ "]"

variable {kind : KeyKind} {key : kind.Key} {first : Nat}

theorem message_duplicate : (kind.duplicate key first).message = kind.message key first := by
  cases kind <;> rfl

/-- A problem with a key is that of a key which an earlier field has. -/
theorem place_eq_member_iff {problem : FieldProblem} :
    problem.place = kind.member ↔ ∃ key first, problem = kind.duplicate key first := by
  constructor
  · intro h
    -- Some places have a number in them, so they are told apart by their characters.
    have hchars := congrArg String.toList h
    cases kind with
    | id =>
        cases problem with
        | duplicateId id first => exact ⟨id, first, rfl⟩
        | _ => simp [FieldProblem.place, member] at hchars
    | role =>
        cases problem with
        | duplicateRole role first => exact ⟨role, first, rfl⟩
        | _ => simp [FieldProblem.place, member] at hchars
  · rintro ⟨key, first, rfl⟩
    cases kind <;> rfl

end KeyKind

/-! ### Texts of a field -/

/-- What it takes for the texts of a field to be within bounds. -/
structure Field.KeepsLimits (field : Field) : Prop where
  checkbox : field.type = .checkbox →
    field.label.length ≤ 250 ∧ (field.label ≠ "" ∨ field.choices ≠ [])
  ordinary : field.type ≠ .checkbox →
    1 ≤ field.label.length ∧ field.label.length ≤ 50 ∧ field.placeholder.length ≤ 50
  choices : ∀ choice ∈ field.choices,
    choice.label.length ≤ (if field.type = .checkbox then 250 else 200) ∧
      choice.value.length ≤ 200

theorem Choice.problemsFrom_eq_nil_iff {labelLimit index : Nat} {choices : List Choice} :
    problemsFrom labelLimit index choices = [] ↔
      ∀ choice ∈ choices, choice.label.length ≤ labelLimit ∧ choice.value.length ≤ 200 := by
  induction choices generalizing index with
  | nil => simp [problemsFrom]
  | cons choice rest ih =>
      rw [problemsFrom, List.append_eq_nil_iff, List.append_eq_nil_iff, problemIf_eq_nil_iff,
        problemIf_eq_nil_iff, ih, List.forall_mem_cons]
      simp [Limit.choiceValue]

theorem Choice.eq_of_mem_problemsFrom {labelLimit index : Nat} {choices : List Choice}
    {problem : FieldProblem} (h : problem ∈ problemsFrom labelLimit index choices) :
    ∃ choice, problem = .longChoiceLabel choice labelLimit ∨ problem = .longChoiceValue choice := by
  induction choices generalizing index with
  | nil => exact absurd h List.not_mem_nil
  | cons choice rest ih =>
      rw [problemsFrom, List.mem_append, List.mem_append, mem_problemIf, mem_problemIf] at h
      rcases h with (⟨-, hlabel⟩ | ⟨-, hvalue⟩) | hrest
      · exact ⟨index, .inl hlabel⟩
      · exact ⟨index, .inr hvalue⟩
      · exact ih hrest

theorem one_le_length_iff {s : String} : 1 ≤ s.length ↔ s ≠ "" := by
  rw [← String.length_toList, Nat.succ_le_iff, List.length_pos_iff, ne_eq, String.toList_eq_nil_iff]

namespace Field

theorem textProblems_eq_nil_iff {field : Field} :
    field.textProblems = [] ↔ field.KeepsLimits := by
  unfold textProblems
  split
  · rename_i htype
    simp only [List.append_eq_nil_iff, problemIf_eq_nil_iff, Choice.problemsFrom_eq_nil_iff,
      decide_eq_false_iff_not, Bool.and_eq_false_iff, Nat.not_lt, gt_iff_lt,
      List.isEmpty_eq_false_iff, Limit.checkboxLabel]
    constructor
    · rintro ⟨⟨hlabel, hsome⟩, hchoices⟩
      refine ⟨fun _ => ⟨hlabel, hsome⟩, fun hother => absurd htype hother, ?_⟩
      rwa [if_pos htype]
    · rintro ⟨hcheckbox, -, hchoices⟩
      rw [if_pos htype] at hchoices
      exact ⟨hcheckbox htype, hchoices⟩
  · rename_i htype
    simp only [List.append_eq_nil_iff, problemIf_eq_nil_iff, Choice.problemsFrom_eq_nil_iff,
      decide_eq_false_iff_not, Nat.not_lt, gt_iff_lt, Limit.label, Limit.placeholder,
      Limit.choiceLabel]
    constructor
    · rintro ⟨⟨⟨hsome, hlabel⟩, hplaceholder⟩, hchoices⟩
      refine ⟨fun hcheckbox => absurd hcheckbox htype, fun _ => ?_, ?_⟩
      · exact ⟨one_le_length_iff.2 hsome, hlabel, hplaceholder⟩
      · rwa [if_neg htype]
    · rintro ⟨-, hordinary, hchoices⟩
      obtain ⟨hsome, hlabel, hplaceholder⟩ := hordinary htype
      rw [if_neg htype] at hchoices
      exact ⟨⟨⟨one_le_length_iff.1 hsome, hlabel⟩, hplaceholder⟩, hchoices⟩

/-- Texts are never the cause of a problem with a key. -/
theorem ne_duplicate_of_mem_textProblems {field : Field} {problem : FieldProblem}
    (h : problem ∈ field.textProblems) {kind : KeyKind} (key : kind.Key) (first : Nat) :
    problem ≠ kind.duplicate key first := by
  unfold textProblems at h
  split at h
  all_goals
    simp only [List.mem_append, mem_problemIf] at h
    rcases h with hlabels | hchoices
  · rcases hlabels with ⟨-, rfl⟩ | ⟨-, rfl⟩ <;> cases kind <;> nofun
  · obtain ⟨choice, rfl | rfl⟩ := Choice.eq_of_mem_problemsFrom hchoices <;> cases kind <;> nofun
  · rcases hlabels with (⟨-, rfl⟩ | ⟨-, rfl⟩) | ⟨-, rfl⟩ <;> cases kind <;> nofun
  · obtain ⟨choice, rfl | rfl⟩ := Choice.eq_of_mem_problemsFrom hchoices <;> cases kind <;> nofun

end Field

/-! ### Ids and roles -/

/-- Whether the ids and the roles of the fields before are remembered. -/
structure Taken.Remembers (taken : Taken) (before : List Field) : Prop where
  ids : taken.ids.Record (before.map (·.id))
  roles : taken.roles.Record (before.map (·.role))

theorem Taken.remembers_nothing : Taken.nothing.Remembers [] :=
  ⟨Owners.record_nil, Owners.record_nil⟩

theorem Taken.Remembers.after {taken : Taken} {before : List Field} (h : taken.Remembers before)
    (field : Field) : (taken.after before.length field).Remembers (before ++ [field]) where
  ids := by
    have hids := h.ids.claim field.id
    rw [List.length_map] at hids
    rwa [List.map_append]
  roles := by
    have hroles := h.roles.claim field.role
    rw [List.length_map] at hroles
    rwa [List.map_append]

/-- The problems of the field at a position: those of its texts, and an id or a role that an
earlier field has. -/
inductive Field.IsProblem (fields : List Field) (index : Nat) (field : Field) :
    FieldProblem → Prop
  | text {problem : FieldProblem} (h : problem ∈ field.textProblems) :
    IsProblem fields index field problem
  | id {id : Int} {first : Nat} (h : Repeats (fields.map (·.id)) index id first) :
    IsProblem fields index field (.duplicateId id first)
  | role {role : Role} {first : Nat} (h : Repeats (fields.map (·.role)) index role first) :
    IsProblem fields index field (.duplicateRole role first)

namespace Field

/-- The problem with a key is a field's own just if an earlier field has the key. -/
theorem isProblem_duplicate_iff {fields : List Field} {index : Nat} {field : Field}
    {kind : KeyKind} {key : kind.Key} {first : Nat} :
    field.IsProblem fields index (kind.duplicate key first) ↔
      Repeats (fields.map kind.keyOf) index key first := by
  constructor
  · intro h
    generalize hproblem : kind.duplicate key first = problem at h
    cases h with
    | text htext => exact absurd hproblem.symm (ne_duplicate_of_mem_textProblems htext key first)
    | id hrepeats =>
        cases kind <;> cases hproblem
        exact hrepeats
    | role hrepeats =>
        cases kind <;> cases hproblem
        exact hrepeats
  · intro hrepeats
    cases kind with
    | id => exact .id hrepeats
    | role => exact .role hrepeats

/-- After the fields before it, a field has its own problems. -/
theorem mem_problems {fields : List Field} {index : Nat} {taken : Taken} {field : Field}
    (htaken : taken.Remembers (fields.take index)) (hfield : fields[index]? = some field)
    {problem : FieldProblem} :
    problem ∈ field.problems taken ↔ field.IsProblem fields index problem := by
  obtain ⟨hids, hroles⟩ := htaken
  rw [List.map_take] at hids hroles
  have hid : (fields.map (·.id))[index]? = some field.id := by rw [List.getElem?_map, hfield]; rfl
  have hrole : (fields.map (·.role))[index]? = some field.role := by
    rw [List.getElem?_map, hfield]; rfl
  unfold problems
  rw [List.mem_append, List.mem_append, hids.mem_problems hid, hroles.mem_problems hrole]
  constructor
  · rintro ((⟨id, first, hrepeats, rfl⟩ | htext) | ⟨role, first, hrepeats, rfl⟩)
    · exact .id hrepeats
    · exact .text htext
    · exact .role hrepeats
  · rintro (htext | hrepeats | hrepeats)
    · exact .inl (.inr htext)
    · exact .inl (.inl ⟨_, _, hrepeats, rfl⟩)
    · exact .inr ⟨_, _, hrepeats, rfl⟩

/-- The run over the fields from a position on reports their own problems. -/
theorem mem_issuesFrom {fields rest : List Field} {index : Nat} {taken : Taken}
    (hrest : fields.drop index = rest) (htaken : taken.Remembers (fields.take index))
    {issue : Issue} :
    issue ∈ issuesFrom taken index rest ↔
      ∃ j field problem, index ≤ j ∧ fields[j]? = some field ∧
        field.IsProblem fields j problem ∧ issue = .field j problem := by
  induction rest generalizing index taken with
  | nil =>
      have hlength := List.drop_eq_nil_iff.1 hrest
      refine iff_of_false List.not_mem_nil ?_
      rintro ⟨j, field, problem, hj, hfield, -⟩
      obtain ⟨hlt, -⟩ := List.getElem?_eq_some_iff.1 hfield
      omega
  | cons field rest ih =>
      have hfield : fields[index]? = some field := by
        rw [← List.head?_drop, hrest, List.head?_cons]
      have hlater : fields.drop (index + 1) = rest := by
        rw [← List.tail_drop, hrest, List.tail_cons]
      have hafter : (taken.after index field).Remembers (fields.take (index + 1)) := by
        obtain ⟨hlt, -⟩ := List.getElem?_eq_some_iff.1 hfield
        have hnext := htaken.after field
        rwa [List.length_take, Nat.min_eq_left hlt.le, ← Option.toList_some, ← hfield,
          ← List.take_add_one] at hnext
      rw [issuesFrom, List.mem_append, List.mem_map, ih hlater hafter]
      constructor
      · rintro (⟨problem, hproblem, rfl⟩ | ⟨j, other, problem, hj, hother⟩)
        · exact ⟨index, field, problem, Nat.le_refl _, hfield,
            (mem_problems htaken hfield).1 hproblem, rfl⟩
        · exact ⟨j, other, problem, Nat.le_of_succ_le hj, hother⟩
      · rintro ⟨j, other, problem, hj, hother, hproblem, rfl⟩
        rcases Nat.eq_or_lt_of_le hj with rfl | hlt
        · rw [hfield, Option.some_inj] at hother
          subst hother
          exact .inl ⟨problem, (mem_problems htaken hfield).2 hproblem, rfl⟩
        · exact .inr ⟨j, other, problem, hlt, hother, hproblem, rfl⟩

/-- Where a key is repeated there is a field. -/
theorem exists_field_of_repeats {α : Type} {fields : List Field} {keyOf : Field → Option α}
    {index first : Nat} {key : α} (h : Repeats (fields.map keyOf) index key first) :
    ∃ field, fields[index]? = some field := by
  have hkeyed := h.here
  rw [List.getElem?_map] at hkeyed
  obtain ⟨field, hfield, -⟩ := Option.map_eq_some_iff.1 hkeyed
  exact ⟨field, hfield⟩

theorem mem_issuesFrom_nothing {fields : List Field} {issue : Issue} :
    issue ∈ issuesFrom .nothing 0 fields ↔
      ∃ j field problem, fields[j]? = some field ∧ field.IsProblem fields j problem ∧
        issue = .field j problem := by
  rw [mem_issuesFrom List.drop_zero Taken.remembers_nothing]
  simp only [Nat.zero_le, true_and]

/-- The keys that fields have are those among their keys that are there. -/
theorem filterMap_eq_reduceOption {α : Type} (keyOf : Field → Option α) (fields : List Field) :
    fields.filterMap keyOf = (fields.map keyOf).reduceOption := by
  rw [List.reduceOption, List.filterMap_map]
  rfl

theorem issuesFrom_eq_nil_iff {fields : List Field} :
    issuesFrom .nothing 0 fields = [] ↔
      (fields.filterMap (·.id)).Nodup ∧ (fields.filterMap (·.role)).Nodup ∧
        ∀ field ∈ fields, field.KeepsLimits := by
  rw [filterMap_eq_reduceOption, filterMap_eq_reduceOption, nodup_iff_forall_not_repeats,
    nodup_iff_forall_not_repeats, List.eq_nil_iff_forall_not_mem]
  simp only [mem_issuesFrom_nothing]
  constructor
  · intro hnone
    have hdistinct : ∀ (kind : KeyKind) (index : Nat) (key : kind.Key) (first : Nat),
        ¬Repeats (fields.map kind.keyOf) index key first := by
      intro kind index key first hrepeats
      obtain ⟨field, hfield⟩ := exists_field_of_repeats hrepeats
      exact hnone _ ⟨index, field, _, hfield, isProblem_duplicate_iff.2 hrepeats, rfl⟩
    refine ⟨hdistinct .id, hdistinct .role, ?_⟩
    intro field hmem
    obtain ⟨index, hfield⟩ := List.getElem?_of_mem hmem
    rw [← textProblems_eq_nil_iff, List.eq_nil_iff_forall_not_mem]
    exact fun problem hproblem => hnone _ ⟨index, field, problem, hfield, .text hproblem, rfl⟩
  · rintro ⟨hids, hroles, hlimits⟩ issue ⟨index, field, problem, hfield, hproblem, -⟩
    cases hproblem with
    | text htext =>
        have hnil := textProblems_eq_nil_iff.2 (hlimits field (List.mem_of_getElem? hfield))
        rw [hnil] at htext
        exact List.not_mem_nil htext
    | id hrepeats => exact hids _ _ _ hrepeats
    | role hrepeats => exact hroles _ _ _ hrepeats

end Field

/-! ### The theme -/

/-- Whether a text is a web address: it has the parts of one. -/
def Url.IsWebAddress (s : String) : Prop :=
  ∃ parts, split s.toList = .ok parts ∧
    (parts.scheme = "http".toList ∨ parts.scheme = "https".toList) ∧ parts.authority ≠ []

namespace Theme

/-- The address of the image, without the blanks around it. -/
def imageAddress (theme : Theme) : String :=
  Text.trim (theme.splitImageUrl.getD "")

/-- What it takes for all that a theme sets to be within bounds. -/
structure KeepsLimits (theme : Theme) : Prop where
  title : ∀ text ∈ theme.title, text.length ≤ 200
  subtitle : ∀ text ∈ theme.subtitle, text.length ≤ 500
  buttonText : ∀ text ∈ theme.buttonText, text.length ≤ 100
  titleFontSize : ∀ size ∈ theme.titleFontSize, size.LiesBetween 10 100
  subtitleFontSize : ∀ size ∈ theme.subtitleFontSize, size.LiesBetween 8 50
  buttonRadius : ∀ radius ∈ theme.buttonRadius, radius.LiesBetween 0 50
  image : theme.imageAddress = "" ∨ Url.IsWebAddress theme.imageAddress

theorem isLong_eq_false_iff {text : Option String} {limit : Nat} :
    isLong text limit = false ↔ ∀ s ∈ text, s.length ≤ limit := by
  cases text <;> simp [isLong]

theorem isOutside_eq_false_iff {number : Option Binary64} {low high : Int} :
    isOutside number low high = false ↔ ∀ x ∈ number, x.LiesBetween low high := by
  cases number with
  | none => simp [isOutside]
  | some x => simp [isOutside, ← Binary64.isBetween_iff]

variable {theme : Theme} {parts : Url.Parts}

theorem imageProblem_eq (theme : Theme) :
    theme.imageProblem = if theme.imageAddress = "" then .ok []
      else (Url.isWeb theme.imageAddress).map fun web => problemIf (!web) .imageUrl :=
  rfl

/-- The address of an image that has parts is found wrong just if it is there and no web
address. -/
theorem exists_imageProblem (h : Url.split theme.imageAddress.toList = .ok parts) :
    ∃ problems, theme.imageProblem = .ok problems ∧
      (problems = [] ↔ theme.imageAddress = "" ∨ Url.IsWebAddress theme.imageAddress) := by
  have hweb : Url.isWeb theme.imageAddress = .ok
      ((parts.scheme = "http".toList || parts.scheme = "https".toList) &&
        !parts.authority.isEmpty) := by
    unfold Url.isWeb
    rw [h]
    rfl
  have hiff : Url.IsWebAddress theme.imageAddress ↔
      (parts.scheme = "http".toList ∨ parts.scheme = "https".toList) ∧ parts.authority ≠ [] := by
    unfold Url.IsWebAddress
    rw [h]
    simp only [Except.ok.injEq, exists_eq_left']
  rw [imageProblem_eq]
  by_cases hempty : theme.imageAddress = ""
  · rw [if_pos hempty]
    exact ⟨[], rfl, iff_of_true rfl (.inl hempty)⟩
  · rw [if_neg hempty, hweb]
    refine ⟨_, rfl, ?_⟩
    rw [problemIf_eq_nil_iff, or_iff_right hempty, hiff]
    simp only [Bool.not_eq_false', Bool.and_eq_true, Bool.or_eq_true, decide_eq_true_eq,
      Bool.not_eq_true', List.isEmpty_eq_false_iff, ne_eq]

theorem exists_problems (h : Url.split theme.imageAddress.toList = .ok parts) :
    ∃ problems, theme.problems = .ok problems ∧ (problems = [] ↔ theme.KeepsLimits) := by
  obtain ⟨imageProblems, himage, hiff⟩ := exists_imageProblem h
  unfold problems
  rw [himage]
  refine ⟨_, rfl, ?_⟩
  simp only [List.append_eq_nil_iff, problemIf_eq_nil_iff, isLong_eq_false_iff,
    isOutside_eq_false_iff, hiff, Limit.title, Limit.subtitle, Limit.buttonText]
  constructor
  · rintro ⟨⟨⟨⟨⟨⟨htitle, hsubtitle⟩, hbutton⟩, hsize⟩, hsubsize⟩, hradius⟩, himage⟩
    exact ⟨htitle, hsubtitle, hbutton, hsize, hsubsize, hradius, himage⟩
  · rintro ⟨htitle, hsubtitle, hbutton, hsize, hsubsize, hradius, himage⟩
    exact ⟨⟨⟨⟨⟨⟨htitle, hsubtitle⟩, hbutton⟩, hsize⟩, hsubsize⟩, hradius⟩, himage⟩

end Theme

/-! ### Where an issue is -/

namespace Issue

/-- A number in front of a bracket, and what is behind it, can be told from the whole. -/
theorem digits_append_bracket_inj {index other : Nat} {rest others : List Char}
    (h : (toString index).toList ++ ']' :: rest = (toString other).toList ++ ']' :: others) :
    index = other ∧ rest = others := by
  have hdigits : ∀ (n : Nat), ∀ c ∈ Nat.toDigits 10 n, decide (c ≠ ']') = true := by
    intro n c hc
    have hdigit := Json.isAsciiDigit_of_mem_toDigits hc
    exact decide_eq_true (Json.ne_of_isAsciiDigit hdigit (by decide))
  rw [Json.toList_toString, Json.toList_toString] at h
  have hfront := congrArg (List.takeWhile (· ≠ ']')) h
  have hback := congrArg (List.dropWhile (· ≠ ']')) h
  rw [List.takeWhile_append_of_pos (hdigits index), List.takeWhile_append_of_pos (hdigits other)]
    at hfront
  rw [List.dropWhile_append_of_pos (hdigits index), List.dropWhile_append_of_pos (hdigits other)]
    at hback
  simp only [List.takeWhile_cons, ne_eq, not_true_eq_false, decide_false, Bool.false_eq_true,
    if_false, List.append_nil] at hfront
  simp only [List.dropWhile_cons, ne_eq, not_true_eq_false, decide_false, Bool.false_eq_true,
    if_false, List.cons.injEq, true_and] at hback
  exact ⟨Json.toDigits_inj hfront, hback⟩

/-- A path of a member of a field is that of a problem with this member. -/
theorem path_eq_iff {issue : Issue} {index : Nat} {member : String} :
    issue.path = "fields[" ++ toString index ++ "]." ++ member ↔
      ∃ problem, issue = .field index problem ∧ problem.place = member := by
  constructor
  · intro h
    have hchars := congrArg String.toList h
    cases issue with
    | tooManyFields => simp [path] at hchars
    | theme problem => simp [path] at hchars
    | field other problem =>
        simp only [path, String.toList_append, List.append_assoc] at hchars
        obtain ⟨rfl, hplace⟩ := digits_append_bracket_inj (List.append_cancel_left hchars)
        exact ⟨problem, rfl, String.toList_inj.1 (List.cons.inj hplace).2⟩
  · rintro ⟨problem, rfl, rfl⟩
    rfl

end Issue

namespace Field

variable {fields : List Field} {index : Nat}

/-- What is reported at a member of a field are the problems with it that are the field's own. -/
theorem reported_at_iff {issue : Issue} {member : String} :
    issue ∈ issuesFrom .nothing 0 fields ∧
        issue.path = "fields[" ++ toString index ++ "]." ++ member ↔
      ∃ field problem, fields[index]? = some field ∧ field.IsProblem fields index problem ∧
        problem.place = member ∧ issue = .field index problem := by
  rw [Issue.path_eq_iff, mem_issuesFrom_nothing]
  constructor
  · rintro ⟨⟨j, field, problem, hfield, hproblem, rfl⟩, other, hissue, hplace⟩
    obtain ⟨rfl, rfl⟩ := Issue.field.inj hissue
    exact ⟨field, problem, hfield, hproblem, hplace, rfl⟩
  · rintro ⟨field, problem, hfield, hproblem, hplace, rfl⟩
    exact ⟨⟨index, field, problem, hfield, hproblem, rfl⟩, problem, rfl, hplace⟩

/-- At a key of a field stands that an earlier field has it, and which one has it first. -/
theorem reported_at_key_iff (kind : KeyKind) {issue : Issue} :
    issue ∈ issuesFrom .nothing 0 fields ∧
        issue.path = "fields[" ++ toString index ++ "]." ++ kind.member ↔
      ∃ key first, Repeats (fields.map kind.keyOf) index key first ∧
        issue = .field index (kind.duplicate key first) ∧
        issue.message = kind.message key first := by
  rw [reported_at_iff]
  constructor
  · rintro ⟨field, problem, hfield, hproblem, hplace, rfl⟩
    obtain ⟨key, first, rfl⟩ := KeyKind.place_eq_member_iff.1 hplace
    exact ⟨key, first, isProblem_duplicate_iff.1 hproblem, rfl, KeyKind.message_duplicate⟩
  · rintro ⟨key, first, hrepeats, rfl, -⟩
    obtain ⟨field, hfield⟩ := exists_field_of_repeats hrepeats
    have hplace := KeyKind.place_eq_member_iff.2 ⟨key, first, rfl⟩
    exact ⟨field, _, hfield, isProblem_duplicate_iff.2 hrepeats, hplace, rfl⟩

end Field

/-! ### The form -/

namespace Form

/-- What it takes for a form to keep every limit. -/
structure KeepsLimits (form : Form) : Prop where
  count : form.fields.length ≤ 100
  ids : (form.fields.filterMap (·.id)).Nodup
  roles : (form.fields.filterMap (·.role)).Nodup
  fields : ∀ field ∈ form.fields, field.KeepsLimits
  theme : form.theme.KeepsLimits

/-- The issues of a form whose theme has these problems. -/
def issuesWith (form : Form) (themeProblems : List ThemeProblem) : List Issue :=
  problemIf (form.fields.length > Limit.fields) .tooManyFields ++
    Field.issuesFrom .nothing 0 form.fields ++ themeProblems.map .theme

theorem issues_eq {form : Form} {themeProblems : List ThemeProblem}
    (h : form.theme.problems = .ok themeProblems) :
    form.issues = .ok (form.issuesWith themeProblems) := by
  unfold issues
  rw [h]
  rfl

theorem issuesWith_eq_nil_iff {form : Form} {themeProblems : List ThemeProblem}
    (h : themeProblems = [] ↔ form.theme.KeepsLimits) :
    form.issuesWith themeProblems = [] ↔ form.KeepsLimits := by
  unfold issuesWith
  rw [List.append_eq_nil_iff, List.append_eq_nil_iff, problemIf_eq_nil_iff,
    Field.issuesFrom_eq_nil_iff, List.map_eq_nil_iff, h, decide_eq_false_iff_not, gt_iff_lt,
    Nat.not_lt]
  constructor
  · rintro ⟨⟨hcount, hids, hroles, hfields⟩, htheme⟩
    exact ⟨hcount, hids, hroles, hfields, htheme⟩
  · rintro ⟨hcount, hids, hroles, hfields, htheme⟩
    exact ⟨⟨hcount, hids, hroles, hfields⟩, htheme⟩

/-- What is reported at a member of a field comes from the fields. -/
theorem mem_issuesWith_iff {form : Form} {themeProblems : List ThemeProblem} {issue : Issue}
    {index : Nat} {member : String}
    (hpath : issue.path = "fields[" ++ toString index ++ "]." ++ member) :
    issue ∈ form.issuesWith themeProblems ↔ issue ∈ Field.issuesFrom .nothing 0 form.fields := by
  obtain ⟨problem, rfl, -⟩ := Issue.path_eq_iff.1 hpath
  unfold issuesWith
  rw [List.mem_append, List.mem_append, mem_problemIf]
  simp

/-- **If the address of the image can be judged, a form has no issue just if it keeps every limit;
and at the id and at the role of a field stands that it is repeated just if it is, with a message
that names the first field that has it.** -/
theorem issues_sound_and_complete (form : Form) {parts : Url.Parts}
    (h : Url.split form.theme.imageAddress.toList = .ok parts) :
    ∃ issues, form.issues = .ok issues ∧ (issues = [] ↔ form.KeepsLimits) ∧
      ∀ (index : Nat) (issue : Issue),
        (issue ∈ issues ∧ issue.path = "fields[" ++ toString index ++ "]." ++ "id" ↔
          ∃ id first, Repeats (form.fields.map (·.id)) index id first ∧
            issue = .field index (.duplicateId id first) ∧
            issue.message = "Duplicate field id " ++ String.ofList (Numeral.ofInt id) ++
              " (also used by fields[" ++ toString first ++ "])") ∧
        (issue ∈ issues ∧ issue.path = "fields[" ++ toString index ++ "]." ++ "role" ↔
          ∃ role first, Repeats (form.fields.map (·.role)) index role first ∧
            issue = .field index (.duplicateRole role first) ∧
            issue.message = "Role '" ++ role.name ++ "' is already used by fields[" ++
              toString first ++ "]") := by
  obtain ⟨themeProblems, htheme, hnone⟩ := Theme.exists_problems h
  refine ⟨_, issues_eq htheme, issuesWith_eq_nil_iff hnone, ?_⟩
  intro index issue
  constructor
  · exact (and_congr_left mem_issuesWith_iff).trans (Field.reported_at_key_iff .id)
  · exact (and_congr_left mem_issuesWith_iff).trans (Field.reported_at_key_iff .role)

/-- A form with two fields of one id and one role, and an image. -/
def twins : Form where
  fields := [⟨some 1, .email, "Email", "", true, .plain, some .email, false, [], none⟩,
    ⟨some 1, .email, "Work email", "", false, .plain, some .email, false, [], none⟩]
  theme := { Theme.plain with splitImageUrl := some " https://shop.example/door.png " }
  container := none

/-- The second of them is reported at its id and at its role, and both messages name the first. -/
theorem twins_reported :
    ∃ issues, twins.issues = .ok issues ∧ issues ≠ [] ∧ ¬twins.KeepsLimits ∧
      .field 1 (.duplicateId 1 0) ∈ issues ∧ .field 1 (.duplicateRole .email 0) ∈ issues ∧
      (∀ issue ∈ issues, issue.path = "fields[1].id" →
        issue.message = "Duplicate field id 1 (also used by fields[0])") ∧
      ∀ issue ∈ issues, issue.path = "fields[1].role" →
        issue.message = "Role 'email' is already used by fields[0]" := by
  have hsplit : Url.split twins.theme.imageAddress.toList =
      .ok ⟨"https".toList, "shop.example".toList, "/door.png".toList⟩ := rfl
  obtain ⟨issues, hissues, hnone, hat⟩ := issues_sound_and_complete twins hsplit
  have hid : .field 1 (.duplicateId 1 0) ∈ issues :=
    ((hat 1 _).1.2 ⟨1, 0, ⟨rfl, rfl, by decide, nofun⟩, rfl, rfl⟩).1
  have hrole : .field 1 (.duplicateRole .email 0) ∈ issues :=
    ((hat 1 _).2.2 ⟨.email, 0, ⟨rfl, rfl, by decide, nofun⟩, rfl, rfl⟩).1
  have hsome : issues ≠ [] := List.ne_nil_of_mem hid
  refine ⟨issues, hissues, hsome, mt hnone.2 hsome, hid, hrole, ?_, ?_⟩
  · intro issue hmem hpath
    obtain ⟨id, first, hrepeats, -, hmessage⟩ := (hat 1 issue).1.1 ⟨hmem, hpath.trans (by decide)⟩
    obtain rfl : first = 0 := Nat.lt_one_iff.1 hrepeats.earlier
    obtain rfl : 1 = id := Option.some.inj (Option.some.inj hrepeats.here)
    exact hmessage.trans (by decide)
  · intro issue hmem hpath
    obtain ⟨role, first, hrepeats, -, hmessage⟩ := (hat 1 issue).2.1 ⟨hmem, hpath.trans (by decide)⟩
    obtain rfl : first = 0 := Nat.lt_one_iff.1 hrepeats.earlier
    obtain rfl : Role.email = role := Option.some.inj (Option.some.inj hrepeats.here)
    exact hmessage.trans (by decide)

end Form

end Enrolment
