/-
What a clue finds.

The answers that do not count are left out first, so they never stand in the way of one that
does.  Among those that count three searches come one after another, and each is told by the
answer that it comes to (`IsFirst`): the first under the earliest exact key, or else the first
under a suggestive key with the preferred word, or else the first of those under the shortest
suggestive keys.  `IsPicked` puts them together.  Whatever decides, the answer is one that
counts, so a clue finds nothing, or a text that looks typed; a link, a path or the name of a
file is never found.
-/
import Mathlib.Logic.Relation
import Enrolment.Customer.Clue
import Enrolment.Proofs.Search.First
import Enrolment.Proofs.Text.Basic

namespace Enrolment

namespace Clue

variable {exact : List String} {suggests excludes : String → Bool} {preferred : String}
  {answers data : Members} {value : Json} {text : String}

/-! ### Exact keys -/

/-- Whether an answer is given under an exact key. -/
def IsUnder (name : String) (answer : String × Json) : Prop :=
  fold answer.1 = fold name

theorem find?_eq_none_iff_not_isUnder {name : String} :
    (answers.find? fun (key, _) => fold key = fold name) = none ↔
      ¬∃ answer ∈ answers, IsUnder name answer := by
  rw [List.find?_eq_none]
  simp [IsUnder]

theorem exactMatch?_eq_none_iff :
    exactMatch? exact answers = none ↔ ∀ name ∈ exact, ¬∃ answer ∈ answers, IsUnder name answer := by
  unfold exactMatch?
  rw [List.findSome?_eq_none_iff]
  simp only [Option.map_eq_none_iff, find?_eq_none_iff_not_isUnder]

/-- The earliest exact key that there is an answer under decides, and the first answer under
it. -/
theorem exactMatch?_eq_some_iff :
    exactMatch? exact answers = some value ↔
      ∃ name answer, IsFirst (fun name => ∃ answer ∈ answers, IsUnder name answer) exact name ∧
        IsFirst (IsUnder name) answers answer ∧ answer.2 = value := by
  have hfound : ∀ {name : String} {answer : String × Json},
      (answers.find? fun (key, _) => fold key = fold name) = some answer ↔
        IsFirst (IsUnder name) answers answer := by
    intro name answer
    rw [find?_eq_some_iff_isFirst]
    simp only [decide_eq_true_eq]
    rfl
  unfold exactMatch?
  rw [List.findSome?_eq_some_iff]
  simp only [Option.map_eq_some_iff, Option.map_eq_none_iff, find?_eq_none_iff_not_isUnder, hfound]
  constructor
  · rintro ⟨front, name, back, hexact, ⟨answer, hanswer, hvalue⟩, hfront⟩
    exact ⟨name, answer, ⟨front, back, hexact, ⟨answer, hanswer.mem, hanswer.holds⟩, hfront⟩,
      hanswer, hvalue⟩
  · rintro ⟨name, answer, ⟨front, back, hexact, -, hfront⟩, hanswer, hvalue⟩
    exact ⟨front, name, back, hexact, ⟨answer, hanswer, hvalue⟩, hfront⟩

/-! ### The shortest key -/

/-- The one of two entries that has the shorter key; the first if neither has. -/
def shorter (best entry : String × Json) : String × Json :=
  if entry.1.length < best.1.length then entry else best

/-- Whether no key of some answers is shorter than that of one. -/
def IsShortest (answers : Members) (answer : String × Json) : Prop :=
  ∀ other ∈ answers, answer.1.length ≤ other.1.length

/-- One more answer takes the place of the first of the shortest only if its key is shorter. -/
theorem isFirst_shorter {seen : Members} {best : String × Json}
    (h : IsFirst (IsShortest seen) seen best) (next : String × Json) :
    IsFirst (IsShortest (seen ++ [next])) (seen ++ [next]) (shorter best next) := by
  have hbest := h.holds
  unfold shorter
  split
  · rename_i hlt
    refine ⟨seen, [], rfl, ?_, ?_⟩
    · refine List.forall_mem_append.2 ⟨fun other hother => ?_, by simp⟩
      exact Nat.le_of_lt (Nat.lt_of_lt_of_le hlt (hbest other hother))
    · intro other hother hshortest
      have hle := hbest other hother
      have hnext := hshortest next (by simp)
      omega
  · rename_i hle
    obtain ⟨front, back, rfl, -, hfront⟩ := h
    refine ⟨front, back ++ [next], by simp, ?_, ?_⟩
    · exact List.forall_mem_append.2 ⟨hbest, by simpa using hle⟩
    · intro other hother hshortest
      exact hfront other hother (List.forall_mem_append.1 hshortest).1

theorem isFirst_foldl_shorter {seen : Members} {best : String × Json}
    (h : IsFirst (IsShortest seen) seen best) (rest : Members) :
    IsFirst (IsShortest (seen ++ rest)) (seen ++ rest) (rest.foldl shorter best) := by
  induction rest generalizing seen best with
  | nil => rwa [List.append_nil]
  | cons next others ih =>
      have hnext := ih (isFirst_shorter h next)
      rwa [List.append_assoc, List.singleton_append] at hnext

theorem shortest?_eq_some_iff {answer : String × Json} :
    shortest? answers = some answer ↔ IsFirst (IsShortest answers) answers answer := by
  have hfirst : ∀ {found}, shortest? answers = some found →
      IsFirst (IsShortest answers) answers found := by
    intro found hfound
    cases answers with
    | nil => cases hfound
    | cons first rest =>
        obtain rfl := Option.some.inj hfound
        have hstart : IsFirst (IsShortest [first]) [first] first :=
          ⟨[], [], rfl, by simp [IsShortest], by simp⟩
        exact isFirst_foldl_shorter hstart rest
  refine ⟨hfirst, fun h => ?_⟩
  cases hfound : shortest? answers with
  | none =>
      cases answers with
      | nil => cases h.mem
      | cons _ _ => cases hfound
  | some found => rw [(hfirst hfound).unique h]

theorem shortest?_eq_none_iff : shortest? answers = none ↔ answers = [] := by
  cases answers with
  | nil => simp [shortest?]
  | cons _ _ => simp [shortest?]

/-! ### What is picked -/

/-- Whether an answer is given under a key that suggests it and has the preferred word. -/
def IsPreferred (suggests : String → Bool) (preferred : String) (answer : String × Json) : Prop :=
  preferred ≠ "" ∧ suggests answer.1 = true ∧ Text.mentions answer.1 preferred = true

/-- Whether an answer is given under one of the shortest keys that suggest it. -/
def IsShortestOf (suggests : String → Bool) (answers : Members) (answer : String × Json) : Prop :=
  suggests answer.1 = true ∧
    ∀ other ∈ answers, suggests other.1 = true → answer.1.length ≤ other.1.length

/-- The text that is picked among the answers that count. -/
inductive IsPicked (exact : List String) (suggests : String → Bool) (preferred : String)
    (answers : Members) : String → Prop
  /-- The first answer under the earliest exact key that there is one under. -/
  | exact {name : String} {answer : String × Json}
      (earliest : IsFirst (fun name => ∃ answer ∈ answers, IsUnder name answer) exact name)
      (first : IsFirst (IsUnder name) answers answer) :
      IsPicked exact suggests preferred answers (valueText answer.2)
  /-- The first under a suggestive key with the preferred word. -/
  | preferred {answer : String × Json}
      (no_exact : ∀ name ∈ exact, ¬∃ answer ∈ answers, IsUnder name answer)
      (first : IsFirst (IsPreferred suggests preferred) answers answer) :
      IsPicked exact suggests preferred answers (valueText answer.2)
  /-- The first of those under the shortest suggestive keys. -/
  | shortest {answer : String × Json}
      (no_exact : ∀ name ∈ exact, ¬∃ answer ∈ answers, IsUnder name answer)
      (no_preferred : ¬∃ answer ∈ answers, IsPreferred suggests preferred answer)
      (first : IsFirst (IsShortestOf suggests answers) answers answer) :
      IsPicked exact suggests preferred answers (valueText answer.2)
  /-- Nothing, if no key asks for it. -/
  | nothing (no_exact : ∀ name ∈ exact, ¬∃ answer ∈ answers, IsUnder name answer)
      (no_suggestion : ∀ answer ∈ answers, suggests answer.1 = false) :
      IsPicked exact suggests preferred answers ""

/-- The answers under suggestive keys. -/
def matching (suggests : String → Bool) (answers : Members) : Members :=
  answers.filter fun (key, _) => suggests key

/-- The answer under a key with the preferred word. -/
def favourite? (preferred : String) (answers : Members) : Option (String × Json) :=
  if preferred = "" then none else answers.find? fun (key, _) => Text.mentions key preferred

theorem favourite?_eq_some_iff {answer : String × Json} :
    favourite? preferred (matching suggests answers) = some answer ↔
      IsFirst (IsPreferred suggests preferred) answers answer := by
  unfold favourite? matching
  split
  · rename_i hempty
    refine iff_of_false nofun fun h => ?_
    exact h.holds.1 hempty
  · rename_i hword
    rw [find?_eq_some_iff_isFirst, isFirst_filter_iff]
    refine isFirst_congr fun other _ => ?_
    simp [IsPreferred, hword]

theorem favourite?_eq_none_iff : favourite? preferred (matching suggests answers) = none ↔
    ¬∃ answer ∈ answers, IsPreferred suggests preferred answer := by
  rw [← exists_isFirst_iff, ← not_iff_not, not_not, ← ne_eq, Option.ne_none_iff_exists']
  simp only [favourite?_eq_some_iff]

theorem shortest?_matching_eq_some_iff {answer : String × Json} :
    shortest? (matching suggests answers) = some answer ↔
      IsFirst (IsShortestOf suggests answers) answers answer := by
  rw [shortest?_eq_some_iff]
  unfold matching
  rw [isFirst_filter_iff]
  refine isFirst_congr fun other _ => ?_
  simp [IsShortest, IsShortestOf]

theorem suggested?_eq (preferred : String) (answers : Members) :
    suggested? preferred answers =
      ((favourite? preferred answers).or (shortest? answers)).map (·.2) :=
  rfl

theorem pick_eq : pick exact suggests excludes preferred data =
    (((exactMatch? exact (admitted excludes data)).or
      (suggested? preferred (matching suggests (admitted excludes data)))).map valueText).getD "" :=
  rfl

/-- What is picked among the answers that count is picked. -/
theorem isPicked_pick (exact : List String) (suggests excludes : String → Bool)
    (preferred : String) (data : Members) :
    IsPicked exact suggests preferred (admitted excludes data)
      (pick exact suggests excludes preferred data) := by
  rw [pick_eq, suggested?_eq]
  cases hexact : exactMatch? exact (admitted excludes data) with
  | some value =>
      obtain ⟨name, answer, hearliest, hfirst, rfl⟩ := exactMatch?_eq_some_iff.1 hexact
      exact .exact hearliest hfirst
  | none =>
      have hno := exactMatch?_eq_none_iff.1 hexact
      cases hfavourite : favourite? preferred (matching suggests (admitted excludes data)) with
      | some answer => exact .preferred hno (favourite?_eq_some_iff.1 hfavourite)
      | none =>
          cases hshortest : shortest? (matching suggests (admitted excludes data)) with
          | some answer =>
              exact .shortest hno (favourite?_eq_none_iff.1 hfavourite)
                (shortest?_matching_eq_some_iff.1 hshortest)
          | none =>
              refine .nothing hno ?_
              simpa [matching] using shortest?_eq_none_iff.1 hshortest

/-- What is picked is the text of an answer that counts, or nothing if there is none under an exact
key. -/
theorem IsPicked.of_answer (h : IsPicked exact suggests preferred answers text) :
    (∃ answer ∈ answers, text = valueText answer.2) ∨
      text = "" ∧ ∀ name ∈ exact, ¬∃ answer ∈ answers, IsUnder name answer := by
  cases h with
  | exact _ hfirst => exact .inl ⟨_, hfirst.mem, rfl⟩
  | preferred _ hfirst => exact .inl ⟨_, hfirst.mem, rfl⟩
  | shortest _ _ hfirst => exact .inl ⟨_, hfirst.mem, rfl⟩
  | nothing hno _ => exact .inr ⟨rfl, hno⟩

theorem mem_admitted {answer : String × Json} :
    answer ∈ admitted excludes data ↔
      answer ∈ data ∧ excludes answer.1 = false ∧ isPlausible answer.2 = true := by
  unfold admitted isAdmitted
  rw [List.mem_filter, Bool.and_eq_true, Bool.not_eq_true']

/-! ### Texts that look typed -/

theorem valueText_ne_of_isPlausible (h : isPlausible value = true) : valueText value ≠ "" := by
  intro hempty
  cases value with
  | arr _ | obj _ => cases h
  | null | bool _ | int _ | num _ | str _ =>
      change looksTyped (valueText _).toList = true at h
      rw [hempty] at h
      cases h

/-- The text of a plausible answer is plausible itself. -/
theorem isPlausible_valueText (h : isPlausible value = true) :
    isPlausible (.str (valueText value)) = true := by
  have htrim : valueText (.str (valueText value)) = valueText value := Text.trim_trim value.entry
  change looksTyped (valueText (.str (valueText value))).toList = true
  rw [htrim]
  cases value with
  | arr _ | obj _ => cases h
  | null | bool _ | int _ | num _ | str _ => exact h

/-- What is picked is plausible, if it is anything. -/
theorem pick_eq_empty_or_isPlausible (exact : List String) (suggests excludes : String → Bool)
    (preferred : String) (data : Members) :
    pick exact suggests excludes preferred data = "" ∨
      isPlausible (.str (pick exact suggests excludes preferred data)) = true := by
  rcases (isPicked_pick exact suggests excludes preferred data).of_answer with
    ⟨answer, hanswer, htext⟩ | ⟨hempty, -⟩
  · rw [htext]
    exact .inr (isPlausible_valueText (mem_admitted.1 hanswer).2.2)
  · exact .inl hempty

/-- What a clue finds is plausible, if it is anything. -/
theorem isPlausible_find {clue : Clue} {excluded : List Phrase}
    (h : clue.find excluded preferred data ≠ "") :
    isPlausible (.str (clue.find excluded preferred data)) = true :=
  (pick_eq_empty_or_isPlausible _ _ _ _ _).resolve_left h

/-- A plausible answer under an exact key is found, or another one is. -/
theorem pick_ne_empty {name : String} {answer : String × Json} (hname : name ∈ exact)
    (hanswer : answer ∈ admitted excludes data) (h : IsUnder name answer) :
    pick exact suggests excludes preferred data ≠ "" := by
  rcases (isPicked_pick exact suggests excludes preferred data).of_answer with
    ⟨picked, hpicked, htext⟩ | ⟨-, hno⟩
  · rw [htext]
    exact valueText_ne_of_isPlausible (mem_admitted.1 hpicked).2.2
  · exact absurd ⟨answer, hanswer, h⟩ (hno name hname)

/-! ### Which text is picked, and what it depends on -/

/-- There is one text that is picked. -/
theorem pick_of_isPicked
    (h : IsPicked exact suggests preferred (admitted excludes data) text) :
    pick exact suggests excludes preferred data = text := by
  rw [pick_eq, suggested?_eq]
  cases h with
  | exact hearliest hfirst =>
      rw [exactMatch?_eq_some_iff.2 ⟨_, _, hearliest, hfirst, rfl⟩]
      rfl
  | preferred hno hfirst =>
      rw [exactMatch?_eq_none_iff.2 hno, favourite?_eq_some_iff.2 hfirst]
      rfl
  | shortest hno hnone hfirst =>
      rw [exactMatch?_eq_none_iff.2 hno, favourite?_eq_none_iff.2 hnone,
        shortest?_matching_eq_some_iff.2 hfirst]
      rfl
  | nothing hno hnone =>
      have hmatching : matching suggests (admitted excludes data) = [] := by
        simpa [matching] using hnone
      have hpreferred : ¬∃ answer ∈ admitted excludes data,
          IsPreferred suggests preferred answer := by
        rintro ⟨answer, hanswer, -, hsuggests, -⟩
        rw [hnone answer hanswer] at hsuggests
        cases hsuggests
      rw [exactMatch?_eq_none_iff.2 hno, favourite?_eq_none_iff.2 hpreferred, hmatching]
      rfl

/-- What it means that answers are others and one more, at any place, that does not count. -/
inductive AddsUncounted (excludes : String → Bool) : Members → Members → Prop
  | intro (front back : Members) {answer : String × Json}
      (uncounted : isAdmitted excludes answer = false) :
      AddsUncounted excludes (front ++ back) (front ++ answer :: back)

/-- The answers that count stay the same however others are put in and left out. -/
theorem admitted_eq_of_eqvGen {other : Members}
    (h : Relation.EqvGen (AddsUncounted excludes) data other) :
    admitted excludes data = admitted excludes other := by
  induction h with
  | rel _ _ hadds =>
      cases hadds with
      | intro front back huncounted =>
          unfold admitted
          rw [List.filter_append, List.filter_append,
            List.filter_cons_of_neg (by simp [huncounted])]
  | refl _ => rfl
  | symm _ _ _ ih => exact ih.symm
  | trans _ _ _ _ _ hfirst hsecond => exact hfirst.trans hsecond

/-- **What is picked is what is told by the answers that count; it is nothing or looks typed; and
answers that do not count make no difference to it, wherever they are put in or left out.** -/
theorem pick_isBestGuess (exact : List String) (suggests excludes : String → Bool)
    (preferred : String) (data : Members) :
    (∀ text, pick exact suggests excludes preferred data = text ↔
      IsPicked exact suggests preferred (admitted excludes data) text) ∧
    (pick exact suggests excludes preferred data = "" ∨
      isPlausible (.str (pick exact suggests excludes preferred data)) = true) ∧
    ∀ other, Relation.EqvGen (AddsUncounted excludes) data other →
      pick exact suggests excludes preferred data =
        pick exact suggests excludes preferred other := by
  refine ⟨?_, pick_eq_empty_or_isPlausible exact suggests excludes preferred data, ?_⟩
  · intro text
    constructor
    · rintro rfl
      exact isPicked_pick exact suggests excludes preferred data
    · exact pick_of_isPicked
  · intro other h
    rw [pick_eq, pick_eq, admitted_eq_of_eqvGen h]

/-- Answers about a company, the name of which is not given under the shortest key. -/
def acmeAnswers : Members :=
  [("brands", .str "Ajax"), ("Firm name", .str " Acme ")]

/-- The preferred word settles it, and a link under an exact key in front makes no difference. -/
theorem acme_picked :
    IsPicked ["company"] (Phrase.anyIn company.phrases) "name"
        (admitted (Phrase.anyIn documentPhrases) acmeAnswers) "Acme" ∧
      pick ["company"] (Phrase.anyIn company.phrases) (Phrase.anyIn documentPhrases) "name"
        (("company", .str "//acme") :: acmeAnswers) = "Acme" := by
  obtain ⟨hpicked, -, hsame⟩ := pick_isBestGuess ["company"] (Phrase.anyIn company.phrases)
    (Phrase.anyIn documentPhrases) "name" acmeAnswers
  have hname : pick ["company"] (Phrase.anyIn company.phrases) (Phrase.anyIn documentPhrases)
      "name" acmeAnswers = "Acme" := by decide +kernel
  have hlink : AddsUncounted (Phrase.anyIn documentPhrases) acmeAnswers
      (("company", .str "//acme") :: acmeAnswers) :=
    .intro [] acmeAnswers (by decide)
  exact ⟨(hpicked _).1 hname, (hsame _ (.rel _ _ hlink)).symm.trans hname⟩

end Clue

end Enrolment
