/-
The rows of a form are a partition of its fields that keeps their order.

A row takes the first field that is left and everything behind it that names the same
row, and the fields that remain are arranged in the same way.  Two facts are carried
along that recursion and give the rest.  Nothing is lost or doubled, because the fields
behind the first one are split in two by a filter (`flatMap_members_perm`).  And a row
that has a name has all fields of that name (`members_eq_inRow`): the filter leaves none
of them for a later row, and what an earlier row took had another name.
-/
import Mathlib.Data.List.Perm.Lattice
import Enrolment.Proofs.Form.Placed

namespace Enrolment

namespace Group

/-! ### What a row takes and what it leaves -/

theorem mem_inRow {row : Int} {placed : List Placed} {p : Placed} :
    p ∈ inRow row placed ↔ p ∈ placed ∧ p.field.rowGroup = some row := by
  rw [inRow, List.mem_filter, decide_eq_true_eq]

theorem mem_outsideRow {row : Int} {placed : List Placed} {p : Placed} :
    p ∈ outsideRow row placed ↔ p ∈ placed ∧ p.field.rowGroup ≠ some row := by
  rw [outsideRow, List.mem_filter, decide_eq_true_eq]

/-- A row and what is outside of it are all there is. -/
theorem inRow_append_outsideRow_perm (row : Int) (placed : List Placed) :
    (inRow row placed ++ outsideRow row placed).Perm placed := by
  have hsplit := List.filter_append_perm (fun p : Placed => p.field.rowGroup = some row) placed
  unfold inRow outsideRow
  simp only [ne_eq, decide_not]
  exact hsplit

/-- What one row leaves has all the fields of any other. -/
theorem inRow_outsideRow {row other : Int} (h : row ≠ other) (placed : List Placed) :
    inRow row (outsideRow other placed) = inRow row placed := by
  unfold inRow outsideRow
  rw [List.filter_filter]
  refine List.filter_congr ?_
  intro p _
  by_cases hrow : p.field.rowGroup = some row
  · have hother : p.field.rowGroup ≠ some other := by
      rw [hrow]
      exact fun heq => h (Option.some.inj heq)
    rw [decide_eq_true hrow, decide_eq_true hother, Bool.and_self]
  · rw [decide_eq_false hrow, Bool.false_and]

theorem inRow_cons_of_eq {row : Int} {first : Placed} (h : first.field.rowGroup = some row)
    (rest : List Placed) : inRow row (first :: rest) = first :: inRow row rest :=
  List.filter_cons_of_pos (by rw [h]; exact decide_eq_true rfl)

theorem inRow_cons_of_ne {row : Int} {first : Placed} (h : first.field.rowGroup ≠ some row)
    (rest : List Placed) : inRow row (first :: rest) = inRow row rest :=
  List.filter_cons_of_neg (by rw [decide_eq_true_eq]; exact h)

/-! ### One group -/

variable {placed : List Placed} {group : Group}

/-- **Nothing is lost and nothing doubled when fields are put into rows.** -/
theorem flatMap_members_perm (placed : List Placed) :
    ((ofPlaced placed).flatMap Group.members).Perm placed := by
  fun_induction ofPlaced placed with
  | case1 => exact .nil
  | case2 first rest hnone ih =>
      rw [List.flatMap_cons]
      exact ih.cons first
  | case3 first rest row hrow ih =>
      rw [List.flatMap_cons, List.cons_append]
      refine .cons first ?_
      exact (ih.append_left (inRow row rest)).trans (inRow_append_outsideRow_perm row rest)

/-- The fields of a row stand in the order of the form. -/
theorem members_sublist (h : group ∈ ofPlaced placed) : group.members.Sublist placed := by
  fun_induction ofPlaced placed with
  | case1 => cases h
  | case2 first rest hnone ih =>
      rcases List.mem_cons.1 h with rfl | hlater
      · exact (List.nil_sublist rest).cons_cons first
      · exact (ih hlater).cons first
  | case3 first rest row hrow ih =>
      rcases List.mem_cons.1 h with rfl | hlater
      · exact List.filter_sublist.cons_cons first
      · exact ((ih hlater).trans List.filter_sublist).cons first

/-- No row is empty. -/
theorem members_ne_nil (h : group ∈ ofPlaced placed) : group.members ≠ [] := by
  fun_induction ofPlaced placed with
  | case1 => cases h
  | case2 first rest hnone ih =>
      rcases List.mem_cons.1 h with rfl | hlater
      · exact List.cons_ne_nil first []
      · exact ih hlater
  | case3 first rest row hrow ih =>
      rcases List.mem_cons.1 h with rfl | hlater
      · exact List.cons_ne_nil first _
      · exact ih hlater

/-- The fields of a row all name it. -/
theorem rowGroup_of_mem_members (h : group ∈ ofPlaced placed) {p : Placed}
    (hp : p ∈ group.members) : p.field.rowGroup = group.rowGroup := by
  fun_induction ofPlaced placed with
  | case1 => cases h
  | case2 first rest hnone ih =>
      rcases List.mem_cons.1 h with rfl | hlater
      · rw [List.mem_singleton] at hp
        rw [hp, hnone]
      · exact ih hlater
  | case3 first rest row hrow ih =>
      rcases List.mem_cons.1 h with rfl | hlater
      · rcases List.mem_cons.1 hp with rfl | htaken
        · exact hrow
        · exact (mem_inRow.1 htaken).2
      · exact ih hlater

/-- A field that names no row stands alone. -/
theorem members_of_rowGroup_none (h : group ∈ ofPlaced placed) (hnone : group.rowGroup = none) :
    ∃ p, group.members = [p] := by
  fun_induction ofPlaced placed with
  | case1 => cases h
  | case2 first rest hfirst ih =>
      rcases List.mem_cons.1 h with rfl | hlater
      · exact ⟨first, rfl⟩
      · exact ih hlater
  | case3 first rest row hrow ih =>
      rcases List.mem_cons.1 h with rfl | hlater
      · cases hnone
      · exact ih hlater

/-- **A row has every field that names it.** -/
theorem members_eq_inRow {row : Int} (h : group ∈ ofPlaced placed)
    (hgroup : group.rowGroup = some row) : group.members = inRow row placed := by
  fun_induction ofPlaced placed with
  | case1 => cases h
  | case2 first rest hnone ih =>
      have hfirst : first.field.rowGroup ≠ some row := by
        rw [hnone]
        exact (Option.some_ne_none row).symm
      rcases List.mem_cons.1 h with rfl | hlater
      · cases hgroup
      · rw [inRow_cons_of_ne hfirst]
        exact ih hlater
  | case3 first rest other hother ih =>
      rcases List.mem_cons.1 h with rfl | hlater
      · obtain rfl : other = row := Option.some.inj hgroup
        rw [inRow_cons_of_eq hother]
      · -- the later row has a member, which the first row did not take
        obtain ⟨p, hp⟩ := List.exists_mem_of_ne_nil _ (members_ne_nil hlater)
        have hleft := mem_outsideRow.1 ((members_sublist hlater).subset hp)
        have hne : row ≠ other := by
          rintro rfl
          exact hleft.2 ((rowGroup_of_mem_members hlater hp).trans hgroup)
        have hfirst : first.field.rowGroup ≠ some row := by
          rw [hother]
          exact fun heq => hne (Option.some.inj heq).symm
        rw [inRow_cons_of_ne hfirst, ih hlater, inRow_outsideRow hne]

/-- Rows are ordered by their first fields. -/
theorem pairwise_head? (h : placed.Pairwise fun p q => p.position < q.position) :
    (ofPlaced placed).Pairwise fun group later =>
      ∀ p ∈ group.positions.head?, ∀ q ∈ later.positions.head?, p < q := by
  -- whatever is put into a later row stands behind the first field
  have hlater : ∀ {first : Placed} {rest left : List Placed} {later : Group},
      (∀ p ∈ rest, first.position < p.position) → left.Sublist rest → later ∈ ofPlaced left →
        ∀ q ∈ later.positions.head?, first.position < q := by
    intro first rest left later hfirst hleft hmem q hq
    obtain ⟨p, hp, rfl⟩ := List.mem_map.1 (List.mem_of_mem_head? hq)
    exact hfirst p (hleft.subset ((members_sublist hmem).subset hp))
  fun_induction ofPlaced placed with
  | case1 => exact .nil
  | case2 first rest hnone ih =>
      rw [List.pairwise_cons] at h
      refine .cons ?_ (ih h.2)
      rintro later hmem p ⟨⟩ q hq
      exact hlater h.1 (List.Sublist.refl rest) hmem q hq
  | case3 first rest row hrow ih =>
      rw [List.pairwise_cons] at h
      refine .cons ?_ (ih (h.2.sublist List.filter_sublist))
      rintro later hmem p ⟨⟩ q hq
      exact hlater h.1 List.filter_sublist hmem q hq

end Group

namespace Form

/-! ### The rows of a form -/

/-- What it takes for groups to be the rows of a form. -/
structure Arranges (groups : List Group) (fields : List Field) : Prop where
  /-- Together the groups have every position of the form, and each of them once. -/
  positions_perm : (groups.flatMap Group.positions).Perm (List.range fields.length)
  /-- The positions of a group ascend. -/
  ascending : ∀ group ∈ groups, group.positions.Pairwise (· < ·)
  /-- The fields of a group are those at its positions, in that order. -/
  own_fields : ∀ group ∈ groups, (group.members.map fun placed => some placed.field) =
    group.positions.map fun position => fields[position]?
  /-- No group is empty. -/
  positions_ne_nil : ∀ group ∈ groups, group.positions ≠ []
  /-- The groups are ordered by their first positions. -/
  by_first : (groups.filterMap fun group => group.positions.head?).Pairwise (· < ·)
  /-- Two positions share a group just if they are one, or both fields name the same row. -/
  together_iff : ∀ (i j : Nat) (hi : i < fields.length) (hj : j < fields.length),
    (∃ group ∈ groups, i ∈ group.positions ∧ j ∈ group.positions) ↔
      i = j ∨ ∃ row, fields[i].rowGroup = some row ∧ fields[j].rowGroup = some row
  /-- A group is a pair just if it has a row, and two fields of the whole form name that row. -/
  isPaired_iff : ∀ group ∈ groups, group.isPaired = true ↔
    ∃ row, group.rowGroup = some row ∧ fields.countP (·.rowGroup = some row) = 2

theorem length_inRow_placeFrom (row : Int) (start : Nat) (fields : List Field) :
    (Group.inRow row (placeFrom start fields)).length =
      fields.countP (·.rowGroup = some row) := by
  induction fields generalizing start with
  | nil => rfl
  | cons field rest ih =>
      rw [placeFrom]
      by_cases h : field.rowGroup = some row
      · rw [Group.inRow_cons_of_eq h, List.length_cons, ih, List.countP_cons_of_pos (by simp [h])]
      · rw [Group.inRow_cons_of_ne h, ih, List.countP_cons_of_neg (by simp [h])]

variable {fields : List Field} {group : Group}

/-- A field of a row is the one that the form has at its position. -/
theorem getElem?_of_mem_members (hgroup : group ∈ groups fields) {p : Placed}
    (hp : p ∈ group.members) : fields[p.position]? = some p.field :=
  mem_placed.1 ((Group.members_sublist hgroup).subset hp)

theorem exists_member_of_mem_positions (hgroup : group ∈ groups fields) {i : Nat}
    (hmem : i ∈ group.positions) (hi : i < fields.length) :
    (⟨i, fields[i]⟩ : Placed) ∈ group.members := by
  obtain ⟨⟨position, field⟩, hp, rfl⟩ := List.mem_map.1 hmem
  have hfield := getElem?_of_mem_members hgroup hp
  rw [List.getElem?_eq_getElem hi, Option.some_inj] at hfield
  dsimp only at hfield ⊢
  rw [hfield]
  exact hp

/-- Every field of a form is in a row. -/
theorem exists_group_of_lt {i : Nat} (hi : i < fields.length) :
    ∃ group ∈ groups fields, (⟨i, fields[i]⟩ : Placed) ∈ group.members := by
  have hplaced : (⟨i, fields[i]⟩ : Placed) ∈ placeFrom 0 fields :=
    mem_placed.2 (List.getElem?_eq_getElem hi)
  have hmem := (Group.flatMap_members_perm (placeFrom 0 fields)).mem_iff.2 hplaced
  exact List.mem_flatMap.1 hmem

theorem together_iff (i j : Nat) (hi : i < fields.length) (hj : j < fields.length) :
    (∃ group ∈ groups fields, i ∈ group.positions ∧ j ∈ group.positions) ↔
      i = j ∨ ∃ row, fields[i].rowGroup = some row ∧ fields[j].rowGroup = some row := by
  constructor
  · rintro ⟨group, hgroup, hmemi, hmemj⟩
    have hpi := exists_member_of_mem_positions hgroup hmemi hi
    have hpj := exists_member_of_mem_positions hgroup hmemj hj
    cases hrow : group.rowGroup with
    | none =>
        obtain ⟨p, hsingle⟩ := Group.members_of_rowGroup_none hgroup hrow
        rw [hsingle, List.mem_singleton] at hpi hpj
        exact .inl (congrArg Placed.position (hpi.trans hpj.symm))
    | some row =>
        have hnames := fun {p : Placed} (hp : p ∈ group.members) =>
          (Group.rowGroup_of_mem_members hgroup hp).trans hrow
        exact .inr ⟨row, hnames hpi, hnames hpj⟩
  · rintro (rfl | ⟨row, hrowi, hrowj⟩)
    · obtain ⟨group, hgroup, hp⟩ := exists_group_of_lt hi
      have hmem := List.mem_map_of_mem (f := Placed.position) hp
      exact ⟨group, hgroup, hmem, hmem⟩
    · obtain ⟨group, hgroup, hpi⟩ := exists_group_of_lt hi
      have hrow : group.rowGroup = some row :=
        (Group.rowGroup_of_mem_members hgroup hpi).symm.trans hrowi
      have hpj : (⟨j, fields[j]⟩ : Placed) ∈ group.members := by
        rw [Group.members_eq_inRow hgroup hrow]
        exact Group.mem_inRow.2 ⟨mem_placed.2 (List.getElem?_eq_getElem hj), hrowj⟩
      exact ⟨group, hgroup, List.mem_map_of_mem (f := Placed.position) hpi,
        List.mem_map_of_mem (f := Placed.position) hpj⟩

theorem isPaired_iff (hgroup : group ∈ groups fields) :
    group.isPaired = true ↔
      ∃ row, group.rowGroup = some row ∧ fields.countP (·.rowGroup = some row) = 2 := by
  unfold Group.isPaired
  rw [Bool.and_eq_true, decide_eq_true_eq]
  have hcount : ∀ row, group.rowGroup = some row →
      group.members.length = fields.countP (·.rowGroup = some row) := by
    intro row hrow
    rw [Group.members_eq_inRow hgroup hrow, length_inRow_placeFrom]
  constructor
  · rintro ⟨hsome, hlength⟩
    obtain ⟨row, hrow⟩ := Option.isSome_iff_exists.1 hsome
    exact ⟨row, hrow, (hcount row hrow).symm.trans hlength⟩
  · rintro ⟨row, hrow, htwo⟩
    exact ⟨Option.isSome_iff_exists.2 ⟨row, hrow⟩, (hcount row hrow).trans htwo⟩

/-- **The rows of a form arrange its fields.** -/
theorem arranges_groups (fields : List Field) : Arranges (groups fields) fields where
  positions_perm := by
    have hperm := (Group.flatMap_members_perm (placeFrom 0 fields)).map Placed.position
    rw [List.map_flatMap, map_position_placeFrom, ← List.range_eq_range'] at hperm
    exact hperm
  ascending group hgroup :=
    List.pairwise_map.2 ((pairwise_placeFrom 0 fields).sublist (Group.members_sublist hgroup))
  own_fields group hgroup := by
    rw [Group.positions, List.map_map]
    refine List.map_congr_left ?_
    intro p hp
    exact (getElem?_of_mem_members hgroup hp).symm
  positions_ne_nil group hgroup h :=
    Group.members_ne_nil hgroup (List.map_eq_nil_iff.1 h)
  by_first := List.pairwise_filterMap.2 (Group.pairwise_head? (pairwise_placeFrom 0 fields))
  together_iff := together_iff
  isPaired_iff _ hgroup := isPaired_iff hgroup

end Form

end Enrolment
