/-
Keys that come twice.

The fields of a form are looked at one after another, and what is remembered of those before
is the first position of every key among them.  That is the invariant (`Owners.Record`): a
field that claims its key keeps it.  So the owner that a problem names is the first field of
the form that has the key, and there is no problem just if no two fields share one.
-/
import Mathlib.Data.List.ReduceOption
import Enrolment.Form.Issue

namespace Enrolment

variable {α : Type}

/-! ### Repeated keys -/

/-- What it means that the key at a position stands before it as well, and first at another. -/
structure Repeats (keys : List (Option α)) (index : Nat) (key : α) (first : Nat) : Prop where
  here : keys[index]? = some (some key)
  there : keys[first]? = some (some key)
  earlier : first < index
  least : ∀ k < first, keys[k]? ≠ some (some key)

variable [DecidableEq α]

theorem findIdx?_take_eq_some_iff {keys : List (Option α)} {index first : Nat} {key : α} :
    (keys.take index).findIdx? (· = some key) = some first ↔
      first < index ∧ keys[first]? = some (some key) ∧ ∀ k < first, keys[k]? ≠ some (some key) := by
  have htaken : ∀ {k : Nat} (hk : k < (keys.take index).length),
      keys[k]? = some (keys.take index)[k] := fun hk => by
    rw [List.getElem_take, List.getElem?_eq_getElem]
  rw [List.findIdx?_eq_some_iff_getElem]
  constructor
  · rintro ⟨hlength, hfound, hleast⟩
    have hindex : first < index := by
      rw [List.length_take] at hlength
      omega
    refine ⟨hindex, ?_, ?_⟩
    · rw [htaken hlength, of_decide_eq_true hfound]
    · intro k hk heq
      rw [htaken (Nat.lt_trans hk hlength)] at heq
      exact hleast k hk (decide_eq_true (Option.some.inj heq))
  · rintro ⟨hindex, hfound, hleast⟩
    obtain ⟨hlt, -⟩ := List.getElem?_eq_some_iff.1 hfound
    have hlength : first < (keys.take index).length := by
      rw [List.length_take]
      omega
    rw [htaken hlength] at hfound
    refine ⟨hlength, decide_eq_true (Option.some.inj hfound), ?_⟩
    intro k hk heq
    refine hleast k hk ?_
    rw [htaken (Nat.lt_trans hk hlength), of_decide_eq_true heq]

/-- A key that stands at two positions is repeated at the later one. -/
theorem exists_repeats_iff {keys : List (Option α)} {index : Nat} {key : α} :
    (∃ first, Repeats keys index key first) ↔
      keys[index]? = some (some key) ∧ ∃ k < index, keys[k]? = some (some key) := by
  constructor
  · rintro ⟨first, hrepeats⟩
    exact ⟨hrepeats.here, first, hrepeats.earlier, hrepeats.there⟩
  · rintro ⟨hhere, k, hk, hkey⟩
    have hmem : some key ∈ keys.take index :=
      List.mem_of_getElem? ((List.getElem?_take_of_lt hk).trans hkey)
    have hfound : ((keys.take index).findIdx? (· = some key)).isSome = true := by
      rw [List.findIdx?_isSome, List.any_eq_true]
      exact ⟨some key, hmem, decide_eq_true rfl⟩
    obtain ⟨first, hfirst⟩ := Option.isSome_iff_exists.1 hfound
    obtain ⟨hearlier, hthere, hleast⟩ := findIdx?_take_eq_some_iff.1 hfirst
    exact ⟨first, hhere, hthere, hearlier, hleast⟩

/-- Keys are distinct just if none is repeated. -/
theorem nodup_iff_forall_not_repeats {keys : List (Option α)} :
    keys.reduceOption.Nodup ↔ ∀ index key first, ¬Repeats keys index key first := by
  have hnot : (∀ index key first, ¬Repeats keys index key first) ↔ ∀ (index : Nat) (key : α),
      keys[index]? = some (some key) → ∀ k < index, keys[k]? ≠ some (some key) := by
    refine forall_congr' fun index => forall_congr' fun key => ?_
    rw [← not_exists, exists_repeats_iff]
    simp only [not_and, not_exists, ne_eq]
  rw [hnot, List.reduceOption, List.nodup_iff_pairwise_ne, List.pairwise_filterMap,
    List.pairwise_iff_getElem]
  constructor
  · intro hpairs index key hindex k hk hkey
    obtain ⟨hlength, hhere⟩ := List.getElem?_eq_some_iff.1 hindex
    obtain ⟨hklength, hthere⟩ := List.getElem?_eq_some_iff.1 hkey
    exact hpairs k index hklength hlength hk key hthere key hhere rfl
  · intro hnone i j hi hj hij key hkey other hother heq
    subst heq
    refine hnone j key ?_ i hij ?_
    · rw [List.getElem?_eq_getElem hj]
      exact congrArg some hother
    · rw [List.getElem?_eq_getElem hi]
      exact congrArg some hkey

/-! ### The owners of keys -/

namespace Owners

/-- Whether what is remembered of keys is where each of them stands first. -/
def Record (owners : Owners α) (keys : List (Option α)) : Prop :=
  ∀ key, owners.lookup key = keys.findIdx? (· = some key)

theorem record_nil : Record ([] : Owners α) [] :=
  fun _ => rfl

/-- The key of the next field goes on record unless it is there already. -/
theorem Record.claim {owners : Owners α} {keys : List (Option α)} (h : owners.Record keys)
    (next : Option α) : (owners.claim keys.length next).Record (keys ++ [next]) := by
  intro key
  rw [List.findIdx?_append, ← h key, List.findIdx?_singleton]
  cases next with
  | none => simp [Owners.claim]
  | some own =>
      by_cases hown : own = key
      · subst hown
        cases hlookup : owners.lookup own <;> simp [Owners.claim, hlookup]
      · have hother : (key == own) = false := beq_false_of_ne (Ne.symm hown)
        cases hlookup : owners.lookup own <;>
          simp [Owners.claim, hlookup, hown, List.lookup_cons, hother]

/-- So the problems of a key are that it is repeated. -/
theorem Record.mem_problems {owners : Owners α} {keys : List (Option α)} {index : Nat}
    (h : owners.Record (keys.take index)) {next : Option α} (hnext : keys[index]? = some next)
    {name : α → Nat → FieldProblem} {problem : FieldProblem} :
    problem ∈ owners.problems name next ↔
      ∃ key first, Repeats keys index key first ∧ name key first = problem := by
  unfold Owners.problems
  rw [Option.mem_toList, Option.bind_eq_some_iff]
  constructor
  · rintro ⟨key, rfl, hproblem⟩
    obtain ⟨first, hfirst, hname⟩ := Option.map_eq_some_iff.1 hproblem
    rw [h key] at hfirst
    obtain ⟨hearlier, hthere, hleast⟩ := findIdx?_take_eq_some_iff.1 hfirst
    exact ⟨key, first, ⟨hnext, hthere, hearlier, hleast⟩, hname⟩
  · rintro ⟨key, first, ⟨hhere, hthere, hearlier, hleast⟩, hname⟩
    refine ⟨key, ?_, Option.map_eq_some_iff.2 ⟨first, ?_, hname⟩⟩
    · rw [hnext] at hhere
      exact Option.some.inj hhere
    · rw [h key, findIdx?_take_eq_some_iff]
      exact ⟨hearlier, hthere, hleast⟩

end Owners

end Enrolment
