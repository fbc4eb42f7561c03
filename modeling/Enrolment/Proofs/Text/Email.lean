/-
The shape of an email address, and its small letters.

`isEmail` cuts a text at its first at sign and looks for a point inside of what is behind it.
`isEmail_iff` tells the same shape by the parts of the text: an account, an at sign, a host, a
point and a domain, all of them there, with no second at sign and no blank.

Small letters do not change the shape.  It depends on three kinds of marks, which are the at
sign, the point and the blanks, and a mark is the small form of itself and of nothing else.
Other characters may become two (a dotted capital I does), so a text and its small form are
not compared position by position: `KeepsMarks` goes along both, and a text is cut at a mark
just where its small form is.
-/
import Enrolment.Proofs.Text.Basic
import Enrolment.Text.Email

namespace Enrolment.Text

/-! ### The parts of an address -/

/-- Whether a text is an account, an at sign, a host, a point and a domain, and none of the three
is empty or has an at sign. -/
def IsComposed (s : List Char) : Prop :=
  ∃ account host domain, s = account ++ '@' :: (host ++ '.' :: domain) ∧
    (account ≠ [] ∧ host ≠ [] ∧ domain ≠ []) ∧ '@' ∉ account ∧ '@' ∉ host ∧ '@' ∉ domain

theorem hasInnerPoint_iff {s : List Char} :
    hasInnerPoint s = true ↔ ∃ host domain, s = host ++ '.' :: domain ∧ host ≠ [] ∧ domain ≠ [] := by
  unfold hasInnerPoint
  rw [List.contains_iff_mem]
  constructor
  · intro h
    cases s with
    | nil => simp at h
    | cons first rest =>
        rw [List.drop_one, List.tail_cons] at h
        have hrest : rest ≠ [] := by
          intro hnil
          rw [hnil] at h
          cases h
        obtain ⟨front, back, hsplit⟩ := List.append_of_mem h
        have hlast := List.dropLast_append_getLast hrest
        rw [hsplit] at hlast
        refine ⟨first :: front, back ++ [rest.getLast hrest], ?_, by simp, by simp⟩
        conv => lhs; rw [← hlast]
        simp
  · intro h
    obtain ⟨host, domain, hs, hhost, hdomain⟩ := h
    obtain ⟨first, others, rfl⟩ := List.exists_cons_of_ne_nil hhost
    rw [hs, List.cons_append, List.drop_one, List.tail_cons,
      List.dropLast_append_of_ne_nil (List.cons_ne_nil _ _)]
    refine List.mem_append_right _ ?_
    rw [List.dropLast_cons_of_ne_nil hdomain]
    exact List.mem_cons_self

/-- What a text is cut into at its first at sign. -/
theorem takeWhile_dropWhile_at {account : List Char} (h : '@' ∉ account) (rest : List Char) :
    (account ++ '@' :: rest).takeWhile (· ≠ '@') = account ∧
      (account ++ '@' :: rest).dropWhile (· ≠ '@') = '@' :: rest := by
  refine takeWhile_dropWhile_append ?_ ?_
  · intro c hc
    have hne : c ≠ '@' := fun heq => h (heq ▸ hc)
    simpa using hne
  · rintro c ⟨⟩
    rfl

/-- **An email address is what is put together from its parts, without blanks.** -/
theorem isEmail_iff {blank : Char → Bool} {s : List Char} :
    isEmail blank s = true ↔ (∀ c ∈ s, blank c = false) ∧ IsComposed s := by
  unfold isEmail
  rw [Bool.and_eq_true, Bool.not_eq_true', List.any_eq_false]
  simp only [Bool.not_eq_true]
  refine and_congr_right fun _ => ?_
  constructor
  · intro h
    by_cases hat : '@' ∈ s
    · obtain ⟨account, rest, rfl, haccount⟩ := List.eq_append_cons_of_mem hat
      obtain ⟨htake, hdrop⟩ := takeWhile_dropWhile_at haccount rest
      rw [htake, hdrop] at h
      cases account with
      | nil => cases h
      | cons first others =>
          simp only [Bool.and_eq_true, Bool.not_eq_true', List.contains_eq_mem,
            decide_eq_false_iff_not] at h
          obtain ⟨hrest, hpoint⟩ := h
          obtain ⟨host, domain, rfl, hhost, hdomain⟩ := hasInnerPoint_iff.1 hpoint
          simp only [List.mem_append, List.mem_cons, not_or] at hrest
          exact ⟨first :: others, host, domain, rfl, ⟨List.cons_ne_nil _ _, hhost, hdomain⟩,
            haccount, hrest.1, hrest.2.2⟩
    · have hdrop : s.dropWhile (· ≠ '@') = [] := by
        rw [List.dropWhile_eq_nil_iff]
        intro c hc
        have hne : c ≠ '@' := fun heq => hat (heq ▸ hc)
        simpa using hne
      rw [hdrop] at h
      split at h
      · rename_i heq
        cases heq
      · cases h
  · intro h
    obtain ⟨account, host, domain, rfl, ⟨haccount, hhost, hdomain⟩, hat, hhostAt, hdomainAt⟩ := h
    obtain ⟨htake, hdrop⟩ := takeWhile_dropWhile_at hat (host ++ '.' :: domain)
    obtain ⟨first, others, rfl⟩ := List.exists_cons_of_ne_nil haccount
    rw [htake, hdrop]
    have hpoint := hasInnerPoint_iff.2 ⟨host, domain, rfl, hhost, hdomain⟩
    simp [hpoint, hhostAt, hdomainAt]

/-! ### Marks and their small form -/

/-- Whether the shape of an email address depends on a character. -/
def IsMark (c : Char) : Prop :=
  c = '@' ∨ c = '.' ∨ isBlank c = true

instance (c : Char) : Decidable (IsMark c) :=
  inferInstanceAs (Decidable (_ ∨ _))

/-- A mark of ASCII is in front of the small letters. -/
theorem toNat_of_isMark {c : Char} (h : IsMark c) :
    9 ≤ c.toNat ∧ (c.toNat < 97 ∨ c.toNat ∈ wideBlanks) := by
  unfold IsMark at h
  rcases h with rfl | rfl | hblank
  · decide
  · decide
  · have hcodes := hblank
    unfold isBlank at hcodes
    simp only [Bool.or_eq_true, Bool.and_eq_true, decide_eq_true_eq, beq_iff_eq] at hcodes
    refine ⟨by omega, ?_⟩
    by_cases hascii : c.toNat < 128
    · exact .inl (by omega)
    · exact .inr (toNat_mem_wideBlanks hblank hascii)

theorem not_isMark_ofNat {n : Nat} (hsmall : 97 ≤ n) (hblank : n ∉ wideBlanks) :
    ¬IsMark (Char.ofNat n) := by
  by_cases hvalid : n.isValidChar
  · intro hmark
    have hmarks := (toNat_of_isMark hmark).2
    rw [toNat_ofNat hvalid] at hmarks
    rcases hmarks with hlt | hmem
    · omega
    · exact hblank hmem
  · rw [Char.ofNat, dif_neg hvalid]
    decide

/-- The small letters of capitals outside ASCII are no blanks, and not in front of those of
ASCII. -/
theorem smallRuns_beside_marks : ∀ run ∈ smallRuns, 97 ≤ run.first + run.shift ∧
    ∀ n ∈ wideBlanks, (n : Int) < run.first + run.shift ∨ run.last + run.shift < (n : Int) := by
  decide +kernel

/-- So a mark is the partner of no other character. -/
theorem partner_of_isMark {c : Char} (h : IsMark (partner smallRuns c)) :
    partner smallRuns c = c := by
  unfold partner at h ⊢
  cases hrun : smallRuns.find? (·.covers c.toNat) with
  | none => rfl
  | some run =>
      rw [hrun] at h
      refine absurd h ?_
      obtain ⟨hsmall, hblank⟩ := smallRuns_beside_marks run (List.mem_of_find?_eq_some hrun)
      have hcovers := List.find?_some hrun
      simp only [CaseRun.covers, Bool.and_eq_true, decide_eq_true_eq, beq_iff_eq] at hcovers
      refine not_isMark_ofNat (by omega) ?_
      intro hmem
      have hbeside := hblank _ hmem
      omega

theorem lowerChar_of_isMark {c : Char} (h : IsMark (lowerChar c)) : lowerChar c = c := by
  unfold lowerChar at h ⊢
  by_cases hascii : c.toNat < 128
  · rw [if_pos hascii] at h ⊢
    unfold asciiLower at h ⊢
    by_cases hcapital : ('A' ≤ c && c ≤ 'Z') = true
    · rw [if_pos hcapital] at h
      refine absurd h ?_
      simp only [Bool.and_eq_true, decide_eq_true_eq, toNat_le] at hcapital
      have hbounds : 65 ≤ c.toNat ∧ c.toNat ≤ 90 := hcapital
      refine not_isMark_ofNat (by omega) ?_
      simp [wideBlanks]
      omega
    · rw [if_neg hcapital]
  · rw [if_neg hascii] at h ⊢
    exact partner_of_isMark h

/-- A mark is the small form of nothing but itself. -/
theorem eq_of_mem_lowerAt {before after : List Char} {c d : Char}
    (h : d ∈ lowerAt before c after) (hmark : IsMark d) : d = c := by
  have hspecial : ∀ e ∈ ['ς', 'σ', 'i', '\u0307'], ¬IsMark e := by
    intro e he
    simp only [List.mem_cons, List.not_mem_nil, or_false] at he
    rcases he with rfl | rfl | rfl | rfl <;> decide
  unfold lowerAt at h
  split at h
  · have hmem : d ∈ ['ς', 'σ', 'i', '\u0307'] := by
      split at h <;> simp at h <;> simp [h]
    exact absurd hmark (hspecial d hmem)
  · split at h
    · have hmem : d ∈ ['ς', 'σ', 'i', '\u0307'] := by
        simp at h
        rcases h with rfl | rfl <;> simp
      exact absurd hmark (hspecial d hmem)
    · rw [List.mem_singleton] at h
      rw [h] at hmark ⊢
      exact lowerChar_of_isMark hmark

/-- And it stays as it is. -/
theorem lowerAt_of_isMark {c : Char} (h : IsMark c) (before after : List Char) :
    lowerAt before c after = [c] := by
  have hsigma : c ≠ 'Σ' := by
    rintro rfl
    revert h
    decide
  have hdotted : c ≠ 'İ' := by
    rintro rfl
    revert h
    decide
  unfold lowerAt
  rw [if_neg hsigma, if_neg hdotted]
  unfold IsMark at h
  rcases h with rfl | rfl | hblank
  · rfl
  · rfl
  · rw [lowerChar_of_isBlank hblank]

/-! ### Texts with the same marks -/

/-- Whether a text is another one in which each character that is no mark became one or more that
are none either. -/
inductive KeepsMarks : List Char → List Char → Prop
  | nil : KeepsMarks [] []
  | mark {c : Char} {s t : List Char} (hmark : IsMark c) (rest : KeepsMarks s t) :
      KeepsMarks (c :: s) (c :: t)
  | other {c : Char} {piece s t : List Char} (hother : ¬IsMark c) (hne : piece ≠ [])
      (hpiece : ∀ d ∈ piece, ¬IsMark d) (rest : KeepsMarks s t) :
      KeepsMarks (c :: s) (piece ++ t)

/-- A text in small letters does. -/
theorem keepsMarks_lowerFrom (before s : List Char) : KeepsMarks s (lowerFrom before s) := by
  induction s generalizing before with
  | nil => exact .nil
  | cons c rest ih =>
      rw [lowerFrom]
      by_cases hmark : IsMark c
      · rw [lowerAt_of_isMark hmark]
        exact .mark hmark (ih _)
      · refine .other hmark (lowerAt_ne_nil _ _ _) ?_ (ih _)
        intro d hd hdmark
        rw [eq_of_mem_lowerAt hd hdmark] at hdmark
        exact hmark hdmark

namespace KeepsMarks

variable {s t front back : List Char} {d : Char}

theorem eq_nil_iff (h : KeepsMarks s t) : t = [] ↔ s = [] := by
  cases h with
  | nil => simp
  | mark _ _ => simp
  | other _ hne _ _ => simp [hne]

theorem mem_iff (h : KeepsMarks s t) (hmark : IsMark d) : d ∈ t ↔ d ∈ s := by
  induction h with
  | nil => simp
  | mark _ _ ih => simp [ih]
  | @other c piece _ _ hother _ hpiece _ ih =>
      have hc : d ≠ c := fun heq => hother (heq ▸ hmark)
      have hd : d ∉ piece := fun hmem => hpiece d hmem hmark
      simp [ih, hc, hd]

/-- Where a text is cut at a mark, the other one is. -/
theorem cut (h : KeepsMarks (front ++ d :: back) t) (hmark : IsMark d) :
    ∃ front' back', t = front' ++ d :: back' ∧ KeepsMarks front front' ∧ KeepsMarks back back' := by
  induction front generalizing t with
  | nil =>
      cases h with
      | mark _ hrest => exact ⟨[], _, rfl, .nil, hrest⟩
      | other hother _ _ _ => exact absurd hmark hother
  | cons c others ih =>
      cases h with
      | mark hc hrest =>
          obtain ⟨front', back', rfl, hfront, hback⟩ := ih hrest
          exact ⟨c :: front', back', rfl, .mark hc hfront, hback⟩
      | @other _ piece _ _ hother hne hpiece hrest =>
          obtain ⟨front', back', rfl, hfront, hback⟩ := ih hrest
          refine ⟨piece ++ front', back', ?_, .other hother hne hpiece hfront, hback⟩
          rw [List.append_assoc]

/-- And the other way round. -/
theorem cut_back (h : KeepsMarks s (front ++ d :: back)) (hmark : IsMark d) :
    ∃ front' back', s = front' ++ d :: back' ∧ KeepsMarks front' front ∧ KeepsMarks back' back := by
  generalize ht : front ++ d :: back = t at h
  induction h generalizing front with
  | nil => simp at ht
  | @mark c s t hc hrest ih =>
      cases front with
      | nil =>
          obtain ⟨rfl, rfl⟩ := List.cons.inj ht
          exact ⟨[], s, rfl, .nil, hrest⟩
      | cons first others =>
          obtain ⟨rfl, hothers⟩ := List.cons.inj ht
          obtain ⟨front', back', rfl, hfront, hback⟩ := ih hothers
          exact ⟨first :: front', back', rfl, .mark hc hfront, hback⟩
  | @other c piece s t hother hne hpiece hrest ih =>
      -- The mark is not in the piece, so all of the piece is in front of it.
      have hfront : ∃ middle, front = piece ++ middle ∧ t = middle ++ d :: back := by
        rcases List.append_eq_append_iff.1 ht with ⟨middle, hmiddle, hrest⟩ | ⟨middle, hmiddle, hrest⟩
        · cases middle with
          | nil => exact ⟨[], by simpa using hmiddle.symm, hrest.symm⟩
          | cons first others =>
              obtain ⟨rfl, -⟩ := List.cons.inj hrest
              exact absurd hmark (hpiece d (by simp [hmiddle]))
        · exact ⟨middle, hmiddle, hrest⟩
      obtain ⟨middle, rfl, rfl⟩ := hfront
      obtain ⟨front', back', rfl, hmiddle, hback⟩ := ih rfl
      exact ⟨c :: front', back', rfl, .other hother hne hpiece hmiddle, hback⟩

theorem isComposed_iff (h : KeepsMarks s t) : IsComposed t ↔ IsComposed s := by
  have hat : IsMark '@' := .inl rfl
  have hpoint : IsMark '.' := .inr (.inl rfl)
  constructor
  · intro hparts
    obtain ⟨account, host, domain, rfl, ⟨haccount, hhost, hdomain⟩, hnone⟩ := hparts
    obtain ⟨account', rest', rfl, hfront, hrest⟩ := h.cut_back hat
    obtain ⟨host', domain', rfl, hmiddle, hback⟩ := hrest.cut_back hpoint
    rw [hfront.mem_iff hat, hmiddle.mem_iff hat, hback.mem_iff hat] at hnone
    rw [ne_eq, hfront.eq_nil_iff] at haccount
    rw [ne_eq, hmiddle.eq_nil_iff] at hhost
    rw [ne_eq, hback.eq_nil_iff] at hdomain
    exact ⟨account', host', domain', rfl, ⟨haccount, hhost, hdomain⟩, hnone⟩
  · intro hparts
    obtain ⟨account, host, domain, rfl, ⟨haccount, hhost, hdomain⟩, hnone⟩ := hparts
    obtain ⟨account', rest', rfl, hfront, hrest⟩ := h.cut hat
    obtain ⟨host', domain', rfl, hmiddle, hback⟩ := hrest.cut hpoint
    rw [← hfront.mem_iff hat, ← hmiddle.mem_iff hat, ← hback.mem_iff hat] at hnone
    rw [ne_eq, ← hfront.eq_nil_iff] at haccount
    rw [ne_eq, ← hmiddle.eq_nil_iff] at hhost
    rw [ne_eq, ← hback.eq_nil_iff] at hdomain
    exact ⟨account', host', domain', rfl, ⟨haccount, hhost, hdomain⟩, hnone⟩

/-- The blanks of one text are those of the other. -/
theorem forall_not_blank_iff (h : KeepsMarks s t) {blank : Char → Bool}
    (hblank : ∀ c, blank c = true → isBlank c = true) :
    (∀ c ∈ t, blank c = false) ↔ ∀ c ∈ s, blank c = false := by
  refine forall_congr' fun c => ?_
  by_cases hc : blank c = true
  · rw [h.mem_iff (.inr (.inr (hblank c hc)))]
  · simp [hc]

/-- **Texts with the same marks both have the shape of an address, or neither has.** -/
theorem isEmail_eq (h : KeepsMarks s t) {blank : Char → Bool}
    (hblank : ∀ c, blank c = true → isBlank c = true) : isEmail blank t = isEmail blank s := by
  rw [Bool.eq_iff_iff, isEmail_iff, isEmail_iff, h.forall_not_blank_iff hblank, h.isComposed_iff]

end KeepsMarks

end Enrolment.Text
