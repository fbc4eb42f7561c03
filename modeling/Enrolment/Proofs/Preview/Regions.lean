/-
Whose regions a preview lists.

A preview marks the countries whose code is the chosen one letter by letter, and lists the regions
of the last country whose code is the chosen one after folding.  These need not be the same: a code
may be written in small letters, and two codes may be folded to one.  What it takes for them to be
the same is told here for any table (`listed_regions_outcome`); where no two codes are folded to
one, it is that the chosen code is written in the table as it was chosen.
-/
import Enrolment.Proofs.Place.Scan
import Enrolment.Proofs.Preview.Locked

namespace Enrolment

namespace Place.Table

/-- Whether a country stands at a position of a table, and its code alone is written like this,
letter by letter. -/
def IsOnlyWritten (table : Table) (code : String) (n : Nat) (country : Country) : Prop :=
  table.countries[n]? = some country ∧
    ∀ m other, table.countries[m]? = some other → (other.code = code ↔ m = n)

variable {table : Table} {code : String} {country : Country}

theorem IsOnlyWritten.code_eq {n : Nat} (h : table.IsOnlyWritten code n country) :
    country.code = code :=
  (h.2 n country h.1).2 rfl

/-- Where no two codes are folded to one, a code that is written in a table is written there
once. -/
theorem exists_isOnlyWritten (h : (table.countries.map (fold ·.code)).Nodup)
    (hcountry : country ∈ table.countries) : ∃ n, table.IsOnlyWritten country.code n country := by
  obtain ⟨n, hn⟩ := List.mem_iff_getElem?.1 hcountry
  refine ⟨n, hn, ?_⟩
  intro m other hm
  constructor
  · intro hsame
    have hlength : m < (table.countries.map (fold ·.code)).length := by
      rw [List.length_map]
      exact (List.getElem?_eq_some_iff.1 hm).1
    rw [← List.getElem?_inj hlength h, List.getElem?_map, List.getElem?_map, hm, hn,
      Option.map_some, Option.map_some, hsame]
  · rintro rfl
    rw [hm, Option.some_inj] at hn
    rw [hn]

/-- The regions of a folded code are those of some country, if there are any. -/
theorem exists_country?_of_regions_ne_nil (h : table.regions code ≠ []) :
    ∃ country, table.country? code = some country ∧ table.regions code = country.regions := by
  unfold regions at h ⊢
  cases hfound : table.country? code with
  | none =>
      rw [hfound] at h
      exact absurd rfl h
  | some country => exact ⟨country, rfl, rfl⟩

end Place.Table

namespace Preview

/-! ### Lists to choose from -/

/-- Whether no list to choose from stands in a piece of markup. -/
def HasNoList (piece : Markup) : Prop :=
  ∀ own entries, ¬(Markup.element "select" own entries).IsIn piece

theorem hasNoList_text (content : String) : HasNoList (.text content) := by
  intro own entries hin
  cases hin

theorem hasNoList_void (tag : String) (attributes : List Attribute) :
    HasNoList (.void tag attributes) := by
  intro own entries hin
  cases hin

section Elements

variable {tag : String} {attributes own : List Attribute} {children entries : List Markup}

/-- A list in an element of another kind is in one of its children. -/
theorem exists_child_of_isIn (htag : tag ≠ "select")
    (h : (Markup.element "select" own entries).IsIn (.element tag attributes children)) :
    ∃ child ∈ children, (Markup.element "select" own entries).IsIn child := by
  cases h with
  | self => exact absurd rfl htag
  | child hchild hin => exact ⟨_, hchild, hin⟩

theorem hasNoList_element (htag : tag ≠ "select") (hchildren : ∀ child ∈ children, HasNoList child) :
    HasNoList (.element tag attributes children) := by
  intro own entries hin
  obtain ⟨child, hchild, hin⟩ := exists_child_of_isIn htag hin
  exact hchildren child hchild own entries hin

theorem hasNoList_textElement (htag : tag ≠ "select") (content : String) :
    HasNoList (.element tag attributes [.text content]) :=
  hasNoList_element htag (List.forall_mem_singleton.2 (hasNoList_text content))

/-- A list of entries has no list in it but itself. -/
theorem list_of_isIn {blank : String} {α : Type} {make : α → Markup} {items : List α}
    (hmake : ∀ a, ∃ value text selected, make a = option value text selected)
    (h : (Markup.element "select" own entries).IsIn
      (.element "select" attributes (blankOption blank :: items.map make))) :
    Markup.element "select" attributes (blankOption blank :: items.map make) =
      .element "select" own entries := by
  have hoption : ∀ value text selected, HasNoList (option value text selected) :=
    fun _ text _ => hasNoList_textElement (by decide) text
  cases h with
  | self => rfl
  | child hchild hin =>
      exfalso
      rcases List.mem_cons.1 hchild with rfl | hmapped
      · exact hoption _ _ _ own entries hin
      · obtain ⟨a, -, rfl⟩ := List.mem_map.1 hmapped
        obtain ⟨value, text, selected, heq⟩ := hmake a
        rw [heq] at hin
        exact hoption _ _ _ own entries hin

theorem hasNoList_choiceLines (field : Field) (index : Int) (role type : String) :
    HasNoList (choiceLines field index role type) := by
  refine hasNoList_element (by decide) (List.forall_mem_map.2 ?_)
  intro choice _
  refine hasNoList_element (by decide) (List.forall_mem_cons.2 ⟨hasNoList_void _ _, ?_⟩)
  exact List.forall_mem_singleton.2 (hasNoList_textElement (by decide) _)

/-- A list in a control is the control. -/
theorem control_of_isIn {field : Field} {index : Int} {table : Place.Table} {chosen : String}
    {needsCountry : Bool}
    (h : (Markup.element "select" own entries).IsIn
      (control field index table chosen needsCountry)) :
    control field index table chosen needsCountry = .element "select" own entries := by
  unfold control at h ⊢
  generalize field.control = kind at h ⊢
  cases kind with
  | countrySelect | select => exact list_of_isIn (fun _ => ⟨_, _, _, rfl⟩) h
  | stateControl =>
      dsimp only [stateControl] at h ⊢
      generalize (if chosen = "" then [] else table.regions chosen) = regions at h ⊢
      generalize StateMode.of _ _ _ = mode at h ⊢
      cases mode with
      | select => exact list_of_isIn (fun _ => ⟨_, _, _, rfl⟩) h
      | locked | freeText => exact absurd h (hasNoList_void _ _ own entries)
  | textarea =>
      exact absurd h (hasNoList_element (by decide) (List.forall_mem_nil _) own entries)
  | radio | checkboxGroup => exact absurd h (hasNoList_choiceLines field index _ _ own entries)
  | checkbox | file | input => exact absurd h (hasNoList_void _ _ own entries)

end Elements

/-! ### What a document shows -/

/-- What it means that a document shows entries to choose from at a position: the block that has
this position has a list of them in it. -/
def ShowsList (document : Markup) (position : Nat) (entries : List Markup) : Prop :=
  ∃ tag attributes children own,
    (Markup.element tag attributes children).IsIn document ∧
    .pair positionAttribute (toString position) ∈ attributes ∧
    (Markup.element "select" own entries).IsIn (.element tag attributes children)

/-- Whether an entry is marked as the chosen one. -/
def IsMarked (entry : Markup) : Prop :=
  .flag "selected" ∈ entry.attributes

/-- The entries of a list of regions. -/
def regionEntries (regions : List Region) : List Markup :=
  blankOption Wording.statePlaceholder ::
    regions.map fun region => option region.optionValue region.name false

/-- What it means that a document marks one country in the list at a position, and no other entry
of it, and lists the regions of just this country at another position. -/
def ShowsRegionsOfMarked (document : Markup) (i j : Nat) (table : Place.Table) : Prop :=
  ∃ (entries : List Markup) (n : Nat) (country : Country),
    ShowsList document i (blankOption Wording.countryPlaceholder :: entries) ∧
    table.countries[n]? = some country ∧
    entries[n]? = some (option country.code country.name true) ∧
    (∀ m entry, entries[m]? = some entry → (IsMarked entry ↔ m = n)) ∧
    ShowsList document j (regionEntries country.regions)

theorem isMarked_option_iff {value text : String} {selected : Bool} :
    IsMarked (option value text selected) ↔ selected = true := by
  cases selected <;> simp [IsMarked, option, Markup.attributes]

variable {fields : List Field} {theme : Theme} {table : Place.Table} {view : View}

/-- The list at a position is the control of the field there. -/
theorem showsList_iff {position : Nat} {entries : List Markup} :
    ShowsList (document fields theme table view) position entries ↔
      ∃ field own, fields[position]? = some field ∧
        control field position table view.country (Field.anyCountry fields) =
          .element "select" own entries := by
  constructor
  · rintro ⟨tag, attributes, children, own, hblock, hposition, hlist⟩
    obtain ⟨field, hfield, heq⟩ := eq_blockAt_of_isIn hblock hposition
    rw [heq] at hlist
    obtain ⟨child, hchild, hin⟩ := exists_child_of_isIn (by decide) hlist
    refine ⟨field, own, hfield, ?_⟩
    rcases List.mem_cons.1 hchild with rfl | hchild
    · exact absurd hin (hasNoList_textElement (by decide) _ own entries)
    · rcases List.mem_cons.1 hchild with rfl | hchild
      · exact control_of_isIn hin
      · obtain rfl := List.mem_singleton.1 hchild
        exact absurd hin (hasNoList_element (by decide) (List.forall_mem_nil _) own entries)
  · rintro ⟨field, own, hfield, hcontrol⟩
    have hlist := control_isIn_blockAt fields theme table view position field
    rw [hcontrol] at hlist
    have hposition := position_mem_blockAt fields theme table view position field
    exact ⟨_, _, _, own, blockAt_isIn hfield, hposition, hlist⟩

/-- A state field is a list just if the chosen country has regions, and then of these. -/
theorem stateControl_eq_list_iff {field : Field} {index : Int} {chosen : String}
    {needsCountry : Bool} {entries : List Markup} :
    (∃ own, stateControl field index table chosen needsCountry = .element "select" own entries) ↔
      chosen ≠ "" ∧ table.regions chosen ≠ [] ∧ entries = regionEntries (table.regions chosen) := by
  unfold stateControl
  dsimp only
  by_cases hchosen : chosen = ""
  · rw [if_pos hchosen]
    cases needsCountry <;> simp [StateMode.of, hchosen]
  · rw [if_neg hchosen]
    cases table.regions chosen with
    | nil => simp [StateMode.of, hchosen]
    | cons region rest => simp [StateMode.of, hchosen, regionEntries, eq_comm]

section Fields

variable {i j : Nat} {chooser lister : Field} {entries : List Markup}

/-- A country field has a list of all countries. -/
theorem showsList_of_country (hi : fields[i]? = some chooser)
    (hchooser : chooser.role = some .country) :
    ShowsList (document fields theme table view) i entries ↔
      entries = blankOption Wording.countryPlaceholder :: table.countries.map fun country =>
        option country.code country.name (country.code = view.country) := by
  have hcontrol : chooser.control = .countrySelect := by rw [Field.control, hchooser]
  rw [showsList_iff]
  constructor
  · rintro ⟨field, own, hfield, hlist⟩
    obtain rfl : chooser = field := Option.some_inj.1 (hi.symm.trans hfield)
    rw [control, hcontrol] at hlist
    injection hlist with _ _ hentries
    exact hentries.symm
  · rintro rfl
    refine ⟨chooser, commonAttributes chooser i, hi, ?_⟩
    rw [control, hcontrol]
    rfl

/-- A state field has a list just if the chosen country has regions, and then of these. -/
theorem showsList_of_state (hj : fields[j]? = some lister) (hlister : lister.role = some .state) :
    ShowsList (document fields theme table view) j entries ↔
      view.country ≠ "" ∧ table.regions view.country ≠ [] ∧
        entries = regionEntries (table.regions view.country) := by
  have hcontrol : lister.control = .stateControl := by rw [Field.control, hlister]
  rw [showsList_iff, ← stateControl_eq_list_iff]
  constructor
  · rintro ⟨field, own, hfield, hlist⟩
    obtain rfl : lister = field := Option.some_inj.1 (hj.symm.trans hfield)
    rw [control, hcontrol] at hlist
    exact ⟨own, hlist⟩
  · rintro ⟨own, hlist⟩
    refine ⟨lister, own, hj, ?_⟩
    rw [control, hcontrol]
    exact hlist

/-! ### Whole documents -/

section Both

variable (hi : fields[i]? = some chooser) (hchooser : chooser.role = some .country)
  (hj : fields[j]? = some lister) (hlister : lister.role = some .state)
include hi hchooser hj hlister

/-- The regions that are listed are those of the marked country just if no other country is
marked, and it has the regions of the last country of the folded code. -/
theorem showsRegionsOfMarked_iff
    (hlisted : ∃ listed, ShowsList (document fields theme table view) j listed) :
    ShowsRegionsOfMarked (document fields theme table view) i j table ↔
      ∃ n country current, table.IsOnlyWritten view.country n country ∧
        table.country? view.country = some current ∧
        regionEntries country.regions = regionEntries current.regions := by
  obtain ⟨listed, hlisted⟩ := hlisted
  obtain ⟨hchosen, hregions, -⟩ := (showsList_of_state hj hlister).1 hlisted
  obtain ⟨current, hcurrent, hlist⟩ := Place.Table.exists_country?_of_regions_ne_nil hregions
  constructor
  · rintro ⟨entries, n, country, hentries, hn, -, hmarked, hshown⟩
    obtain ⟨-, rfl⟩ := List.cons.inj ((showsList_of_country hi hchooser).1 hentries)
    obtain ⟨-, -, hregionsEq⟩ := (showsList_of_state hj hlister).1 hshown
    refine ⟨n, country, current, ⟨hn, ?_⟩, hcurrent, by rw [hregionsEq, hlist]⟩
    intro m other hm
    have hother := hmarked m _ (by rw [List.getElem?_map, hm, Option.map_some])
    rwa [isMarked_option_iff, decide_eq_true_eq] at hother
  · rintro ⟨n, country, found, ⟨hn, honly⟩, hfound, hsame⟩
    obtain rfl : current = found := Option.some_inj.1 (hcurrent.symm.trans hfound)
    refine ⟨_, n, country, (showsList_of_country hi hchooser).2 rfl, hn, ?_, ?_, ?_⟩
    · rw [List.getElem?_map, hn, Option.map_some, decide_eq_true ((honly n country hn).2 rfl)]
    · intro m entry hm
      rw [List.getElem?_map, Option.map_eq_some_iff] at hm
      obtain ⟨other, hother, rfl⟩ := hm
      rw [isMarked_option_iff, decide_eq_true_eq]
      exact honly m other hother
    · exact (showsList_of_state hj hlister).2 ⟨hchosen, hregions, by rw [hsame, hlist]⟩

/-- Where no two codes are folded to one, it is enough that the chosen code is written in the
table. -/
theorem showsRegionsOfMarked_iff_of_nodup
    (hlisted : ∃ listed, ShowsList (document fields theme table view) j listed)
    (hcodes : (table.countries.map (Place.fold ·.code)).Nodup) :
    ShowsRegionsOfMarked (document fields theme table view) i j table ↔
      ∃ country ∈ table.countries, country.code = view.country := by
  rw [showsRegionsOfMarked_iff hi hchooser hj hlister hlisted]
  constructor
  · rintro ⟨n, country, -, honly, -⟩
    exact ⟨country, List.mem_of_getElem? honly.1, honly.code_eq⟩
  · rintro ⟨country, hmem, hcode⟩
    obtain ⟨n, honly⟩ := Place.Table.exists_isOnlyWritten hcodes hmem
    have hcurrent := Place.Table.country?_eq_some_iff.2
      ⟨rfl, Place.Table.isCurrent_of_nodup hcodes hmem⟩
    rw [hcode] at honly hcurrent
    exact ⟨n, country, country, honly, hcurrent, rfl⟩

/-- **A state field lists the regions of the folded code, if it has any.  They are those of the
marked country just if the chosen code is written in one country only, with the regions of the last
country of the folded code; where no two codes are folded to one, just if it is written in the
table.** -/
theorem listed_regions_outcome (theme : Theme) (table : Place.Table) (view : View) :
    let shown := document fields theme table view
    ((∃ listed, ShowsList shown j listed) ↔
      view.country ≠ "" ∧ table.regions view.country ≠ []) ∧
    (∀ listed, ShowsList shown j listed → listed = regionEntries (table.regions view.country)) ∧
    ((∃ listed, ShowsList shown j listed) →
      (ShowsRegionsOfMarked shown i j table ↔
        ∃ n country current, table.IsOnlyWritten view.country n country ∧
          table.country? view.country = some current ∧
          regionEntries country.regions = regionEntries current.regions) ∧
      ((table.countries.map (Place.fold ·.code)).Nodup →
        (ShowsRegionsOfMarked shown i j table ↔
          ∃ country ∈ table.countries, country.code = view.country))) := by
  intro shown
  refine ⟨?_, ?_, ?_⟩
  · constructor
    · rintro ⟨listed, hlisted⟩
      obtain ⟨hchosen, hregions, -⟩ := (showsList_of_state hj hlister).1 hlisted
      exact ⟨hchosen, hregions⟩
    · rintro ⟨hchosen, hregions⟩
      exact ⟨_, (showsList_of_state hj hlister).2 ⟨hchosen, hregions, rfl⟩⟩
  · intro listed hlisted
    exact ((showsList_of_state hj hlister).1 hlisted).2.2
  · intro hlisted
    exact ⟨showsRegionsOfMarked_iff hi hchooser hj hlister hlisted,
      showsRegionsOfMarked_iff_of_nodup hi hchooser hj hlister hlisted⟩

end Both

/-- The regions of Canada are listed beside its mark, however its code was typed. -/
theorem canada_marked_and_listed :
    let shown := document [countryField, stateField] .plain Place.builtIn ⟨"desktop", " ca "⟩
    (∃ listed, ShowsList shown 1 listed) ∧ ShowsRegionsOfMarked shown 0 1 Place.builtIn := by
  intro shown
  have hcountry : (View.mk "desktop" " ca ").country = "CA" := rfl
  have hchooser : [countryField, stateField][0]? = some countryField := rfl
  have hlister : [countryField, stateField][1]? = some stateField := rfl
  obtain ⟨hlists, -, hagrees⟩ := listed_regions_outcome hchooser rfl hlister rfl .plain
    Place.builtIn ⟨"desktop", " ca "⟩
  have hlisted := hlists.2 (by rw [hcountry]; decide)
  refine ⟨hlisted, ((hagrees hlisted).2 (by decide)).2 ?_⟩
  rw [hcountry]
  decide

/-- The code of a country in small letters is chosen: its regions are listed, and nothing is
marked. -/
theorem small_code_listed_unmarked :
    ∃ countries, Country.readList? (.arr [.obj [("countryName", .str "United States"),
        ("countryShortCode", .str "us"), ("regions", .arr [.obj [("name", .str "Ohio")]])]]) =
          some countries ∧
      let shown := document [countryField, stateField] .plain ⟨countries⟩ ⟨"desktop", "us"⟩
      (∃ listed, ShowsList shown 1 listed) ∧ ¬ShowsRegionsOfMarked shown 0 1 ⟨countries⟩ := by
  refine ⟨[⟨"United States", "us", [⟨"Ohio", none⟩]⟩], rfl, ?_⟩
  intro shown
  have hcountry : (View.mk "desktop" "us").country = "US" := rfl
  have hchooser : [countryField, stateField][0]? = some countryField := rfl
  have hlister : [countryField, stateField][1]? = some stateField := rfl
  have hlisted : ∃ listed, ShowsList shown 1 listed :=
    ⟨_, (showsList_of_state hlister rfl).2 ⟨by decide, by decide, rfl⟩⟩
  refine ⟨hlisted, ?_⟩
  rw [showsRegionsOfMarked_iff_of_nodup hchooser rfl hlister rfl hlisted (by decide), hcountry]
  decide

end Fields

end Preview

end Enrolment
