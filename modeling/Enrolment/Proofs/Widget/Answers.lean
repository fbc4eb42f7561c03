/-
The widget and the service reject the same answers.

The service checks answers by its fields.  The widget has only its configuration: it goes
through the plans by their indices and looks up what to say.  `Reading.checkAnswers` is
that procedure, on what can be read from the configuration, and it records the messages
that the service records, under the same keys and in the same order.

The two differ in how they go about it.  The plans stand row by row and have to be put in
order first.  And the service asks the rule of the type before the rule that the label
suggests, though it reports the latter, while the widget asks in the order of reporting.
So there are forms for which the service comes to no decision, on an address that is
malformed, while the widget never looks at it; where the service decides, so does the
widget.
-/
import Enrolment.Form.Check
import Enrolment.Proofs.Widget.Plans
import Enrolment.Proofs.Widget.Reading
import Enrolment.Proofs.Widget.Script

namespace Enrolment

/-- The messages of rejections by key. -/
def Rejections.texts (rejections : Rejections) : Members :=
  rejections.map fun (key, rejection) => (key, .str rejection.message)

/-- A rejection is recorded as its message is. -/
theorem Rejections.texts_put (rejections : Rejections) (key : String) (rejection : Rejection) :
    (rejections.put key rejection).texts = rejections.texts.put key (.str rejection.message) := by
  induction rejections with
  | nil => rfl
  | cons head rest ih =>
      obtain ⟨k, r⟩ := head
      by_cases h : k = key
      · simp [put, texts, Members.put, h]
      · simp only [texts] at ih
        simp [put, texts, Members.put, h, ih]

namespace Widget

/-! ### Checking by a configuration -/

namespace Reading

/-- The message of a rule. -/
def message (reading : Reading) (rule : Rule) : String :=
  (reading.messages.lookup rule.name).getD ""

/-- What is said about an answer by a rule: its message, unless it accepts the answer. -/
def complaint (reading : Reading) (rule : Option Rule) (answer : Json) :
    Except Url.Malformed (Option String) :=
  match rule with
  | none => .ok none
  | some rule => do
    if ← rule.passes answer then return none
    else return some (reading.message rule)

/-- What is said about the answer for a plan. -/
def verdict (reading : Reading) (plan : Plan) (answer : Json) :
    Except Url.Malformed (Option String) :=
  if Answer.isEmpty answer then .ok (if plan.required then some reading.required else none)
  else if Answer.isExempt answer then .ok none
  else do
    match ← reading.complaint plan.labelRule answer with
    | some message => return some message
    | none => reading.complaint plan.typeRule answer

/-- Checks the answers for plans one after another, and records what is said. -/
def checkPlans (reading : Reading) (answers errors : Members) :
    List Plan → Except Url.Malformed Members
  | [] => .ok errors
  | plan :: rest =>
    if plan.control = .file then checkPlans reading answers errors rest
    else do
      match ← reading.verdict plan ((answers.get? plan.key).getD .null) with
      | none => checkPlans reading answers errors rest
      | some message => checkPlans reading answers (errors.put plan.key (.str message)) rest

/-- The plans of all rows, by their indices. -/
def plansByIndex (reading : Reading) : List Plan :=
  (reading.rows.flatMap PlanRow.plans).mergeSort fun plan other => plan.index ≤ other.index

/-- Checks answers by the plans of a configuration. -/
def checkAnswers (reading : Reading) (answers : Members) : Except Url.Malformed Members :=
  reading.checkPlans answers [] reading.plansByIndex

end Reading

/-! ### One answer -/

theorem Config.message_reading (config : Config) (rule : Rule) :
    config.reading.message rule = rule.message := by
  cases rule <;> rfl

theorem Config.complaint_reading (config : Config) (rule : Option Rule) (answer : Json) :
    config.reading.complaint rule answer =
      (Answer.rejectedBy rule answer).map (Option.map Rejection.message) := by
  cases rule with
  | none => rfl
  | some rule =>
      simp only [Reading.complaint, Answer.rejectedBy, message_reading]
      cases rule.passes answer with
      | error cause => rfl
      | ok passed => cases passed <;> rfl

/-- Where the service decides about an answer, the widget decides alike. -/
theorem Config.verdict_reading (config : Config) {field : Field} {answer : Json}
    {outcome : Option Rejection} (h : field.check answer = .ok outcome) (index : Int)
    (needsCountry : Bool) :
    config.reading.verdict (field.plan index needsCountry) answer =
      .ok (outcome.map Rejection.message) := by
  rw [Field.check] at h
  rw [Reading.verdict]
  by_cases hempty : Answer.isEmpty answer = true
  · rw [if_pos hempty] at h ⊢
    obtain rfl := Except.ok.inj h
    cases hrequired : field.required <;> simp [Field.plan, hrequired, Config.reading,
      Rejection.message]
  rw [if_neg hempty] at h ⊢
  by_cases hexempt : Answer.isExempt answer = true
  · rw [if_pos hexempt] at h ⊢
    obtain rfl := Except.ok.inj h
    rfl
  rw [if_neg hexempt] at h ⊢
  -- both rules have decided, so the order of asking makes no difference
  cases htype : Answer.rejectedBy field.typeRule? answer with
  | error cause =>
      rw [htype] at h
      cases h
  | ok byType =>
      cases hlabel : Answer.rejectedBy field.labelRule? answer with
      | error cause =>
          rw [htype, hlabel] at h
          cases h
      | ok byLabel =>
          rw [htype, hlabel] at h
          obtain rfl : byLabel.or byType = outcome := Except.ok.inj h
          simp only [complaint_reading, Field.plan, htype, hlabel]
          cases byLabel <;> rfl

/-! ### All answers -/

/-- **Where the service decides about the answers from a field on, the widget goes on from what
was recorded before it to the same messages.** -/
theorem Config.checkPlans_reading (config : Config) (needsCountry : Bool) (answers : Members)
    {fields : List Field} {index : Nat} {rejections result : Rejections}
    (h : Form.checkFrom answers index rejections fields = .ok result) :
    config.reading.checkPlans answers rejections.texts
        ((Form.placeFrom index fields).map fun placed =>
          placed.field.plan placed.position needsCountry) = .ok result.texts := by
  induction fields generalizing index rejections with
  | nil =>
      obtain rfl := Except.ok.inj h
      rfl
  | cons field rest ih =>
      rw [Form.placeFrom, List.map_cons, Reading.checkPlans]
      rw [Form.checkFrom] at h
      by_cases hfile : field.control = .file
      · rw [if_pos hfile] at h
        rw [if_pos (show (field.plan index needsCountry).control = .file from hfile)]
        exact ih h
      · rw [if_neg hfile] at h
        rw [if_neg (show (field.plan index needsCountry).control ≠ .file from hfile)]
        have hkey : (field.plan index needsCountry).key = field.key index := rfl
        dsimp only at h ⊢
        rw [hkey]
        cases hcheck : field.check ((answers.get? (field.key index)).getD .null) with
        | error cause =>
            rw [hcheck] at h
            cases h
        | ok outcome =>
            rw [hcheck] at h
            rw [config.verdict_reading hcheck index needsCountry]
            cases outcome with
            | none => exact ih h
            | some rejection =>
                have hrest := ih h
                rw [Rejections.texts_put] at hrest
                exact hrest

/-- Items that ascend in another order are put in that order. -/
theorem mergeSort_eq_of_perm {α : Type} (rank : α → Int) {items sorted : List α}
    (hperm : items.Perm sorted) (hsorted : sorted.Pairwise fun a b => rank a < rank b) :
    items.mergeSort (fun a b => rank a ≤ rank b) = sorted := by
  have hsort := (List.mergeSort_perm items fun a b => rank a ≤ rank b).trans hperm
  refine List.Perm.eq_of_pairwise ?_ (List.pairwise_mergeSort ?_ ?_ items) ?_ hsort
  · intro a b ha hb hab hba
    have hrank : rank a = rank b :=
      Int.le_antisymm (of_decide_eq_true hab) (of_decide_eq_true hba)
    have hinj : (sorted.map rank).Nodup :=
      List.pairwise_map.mpr (hsorted.imp fun h => Int.ne_of_lt h)
    exact List.inj_on_of_nodup_map hinj (hsort.mem_iff.mp ha) hb hrank
  · intro a b c hab hbc
    exact decide_eq_true (Int.le_trans (of_decide_eq_true hab) (of_decide_eq_true hbc))
  · intro a b
    simpa using Int.le_total (rank a) (rank b)
  · exact hsorted.imp fun h => decide_eq_true (Int.le_of_lt h)

/-- In the order of their indices, the plans of a configuration stand as in the form. -/
theorem Config.plansByIndex_reading (container : Json) (fields : List Field) (theme : Theme)
    (table : Place.Table) :
    (ofForm container fields theme table).reading.plansByIndex = plansInOrder fields :=
  mergeSort_eq_of_perm Plan.index (plans_perm container fields theme table)
    (pairwise_plansInOrder fields)

/-- **What the script of a form carries rejects the answers that the service rejects.** -/
theorem compileValues_checkAnswers {container : Option String} {items : List Json} {theme : Json}
    {table : Place.Table} {script : Script} {fields : List Field} {answers : Members}
    {rejections : Rejections}
    (hscript : compileValues (Json.ofText? container) (.arr items) theme table = .ok script)
    (hfields : Field.ofItems items = .ok fields)
    (hcheck : Form.checkAnswers fields answers = .ok rejections) :
    ∃ (wire : Json) (reading : Reading),
      Json.read? script.payload = some wire ∧ Reading.ofWire? wire = some reading ∧
      reading.checkAnswers answers = .ok rejections.texts := by
  obtain ⟨fields', look, hfields', -, rfl⟩ := compileValues_arr hscript
  obtain rfl : fields' = fields := Except.ok.inj (hfields'.symm.trans hfields)
  have hplain := Config.plain_toWire (Config.plain_container container fields' look table)
  refine ⟨_, _, Json.read?_write hplain, Reading.ofWire?_toWire _, ?_⟩
  rw [Reading.checkAnswers, Config.plansByIndex_reading, plansInOrder_eq_map_placed]
  exact Config.checkPlans_reading _ _ answers hcheck

/-- A list with two fields of one key around a field without a label, in rows that come out of
order, a field with two rules, and a file. -/
def sharedKeyItems : List Json :=
  [.obj [("label", .str "Site"), ("type", .str "url"), ("rowGroup", .int 1)], .null,
    .obj [("required", .bool true), ("rowGroup", .int 2)],
    .obj [("label", .str "Site"), ("type", .str "number"), ("rowGroup", .int 1)],
    .obj [("label", .str "Contact email"), ("type", .str "email")],
    .obj [("type", .str "file"), ("required", .bool true)]]

/-- The fields that are read from it. -/
def sharedKeyFields : List Field :=
  [⟨none, .url, "Site", "", false, .plain, none, false, [], some 1⟩,
    ⟨none, .text, "", "", true, .plain, none, false, [], some 2⟩,
    ⟨none, .number, "Site", "", false, .plain, none, false, [], some 1⟩,
    ⟨none, .email, "Contact email", "", false, .plain, none, false, [], none⟩,
    ⟨none, .file, "", "", true, .plain, none, false, [], none⟩]

/-- Answers of which all that are checked are rejected. -/
def sharedKeyAnswers : Members :=
  [("Contact email", .str "nobody"), ("Site", .str "a b")]

/-- The later field of the key has the last word, in the place of the earlier one, and the label's
rule comes before the type's. -/
theorem shared_key_answers_rejected :
    Form.checkAnswers sharedKeyFields sharedKeyAnswers =
      .ok [("Site", .byRule .number), ("Field 2", .missing), ("Contact email", .byRule .phone)] ∧
    ∃ (script : Script) (wire : Json) (reading : Reading),
      compileValues .null (.arr sharedKeyItems) .null Place.builtIn = .ok script ∧
      Json.read? script.payload = some wire ∧ Reading.ofWire? wire = some reading ∧
      reading.checkAnswers sharedKeyAnswers =
        .ok [("Site", .str "Enter a valid number"), ("Field 2", .str "This field is required"),
          ("Contact email", .str "Enter a valid phone")] := by
  have hcheck : Form.checkAnswers sharedKeyFields sharedKeyAnswers =
      .ok [("Site", .byRule .number), ("Field 2", .missing),
        ("Contact email", .byRule .phone)] := by
    rfl
  have hscript : compileValues (Json.ofText? none) (.arr sharedKeyItems) .null Place.builtIn =
      .ok (.ofConfig (.ofForm .null sharedKeyFields .plain Place.builtIn)) := by
    rfl
  obtain ⟨wire, reading, hwire, hreading, hanswers⟩ :=
    compileValues_checkAnswers hscript rfl hcheck
  exact ⟨hcheck, _, wire, reading, hscript, hwire, hreading, hanswers⟩

end Widget

end Enrolment
