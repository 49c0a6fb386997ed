import Mathlib
import QueryMenu.Config.Decode
import QueryMenu.Proofs.Decode.Record
import QueryMenu.Proofs.Toml.Distinct

namespace QueryMenu

/-! Which configuration documents fit, and the labels that they give.

A section is read as a record of texts: a table as it stands, and an array as if its items
stood under the names of their places.  What a label becomes depends on what its section holds
for it and on nothing else.  All of this is said through what is in a table, so the order of
its members does not count.  It holds of any document in which no table has a name twice, and
the documents that are read from texts are such.
-/

theorem Toml.text_eq_ok_iff {value : Toml} {text : String} :
    value.text = .ok text ↔ value = .string text := by
  cases value <;> simp [Toml.text, Toml.refuse]

/-- The text is what is given, or the stock text if nothing is. -/
def Settles (gives : String → Prop) (stock text : String) : Prop :=
  (∀ given, gives given → text = given) ∧ ((∀ given, ¬ gives given) → text = stock)

/-! Sections. -/

namespace Section

variable {names : List String} {members : TomlTable} {value : Toml} {name text : String}
  {place : Nat}

/-- The section is a table of texts under names of its labels, or an array with texts at the
places of its labels. -/
inductive Fits (names : List String) : Toml → Prop where
  | table {members : TomlTable}
      (each : ∀ member ∈ members, member.1 ∈ names ∧ ∃ text, member.2 = .string text) :
      Fits names (.table members)
  | array {items : List Toml}
      (each : ∀ place < names.length, ∀ item, items[place]? = some item →
        ∃ text, item = .string text) :
      Fits names (.array items)

/-- The section holds the text under the name, or at the place. -/
inductive Holds (name : String) (place : Nat) (text : String) : Toml → Prop where
  | named {members : TomlTable} (member : (name, .string text) ∈ members) :
      Holds name place text (.table members)
  | placed {items : List Toml} (item : items[place]? = some (.string text)) :
      Holds name place text (.array items)

/-- A section as a table; the items of an array stand under the names of their places. -/
def table? (names : List String) : Toml → Option TomlTable
  | .table members => some members
  | .array items => some (names.zip items)
  | _ => none

theorem names_record (names : List String) : (record names).names = names := by
  simp [record, Record.names, Record.field, Function.comp_def]

theorem field?_record (named : name ∈ names) :
    (record names).field? name = some (Record.field name Toml.text) := by
  obtain ⟨field, found⟩ := Option.ne_none_iff_exists'.mp
    (mt Record.field?_eq_none_iff.mp (not_not.mpr ((names_record names).symm ▸ named)))
  obtain ⟨known, -, rfl⟩ := List.mem_map.mp (List.mem_of_find?_eq_some found)
  have same := List.find?_some found
  obtain rfl : known = name := of_decide_eq_true same
  exact found

theorem texts_of_accepts (accepts : (record names).Accepts members) :
    ∀ member ∈ members, member.1 ∈ names ∧ ∃ text, member.2 = .string text := by
  intro member listed
  have named := accepts.closed rfl member listed
  rw [names_record] at named
  have readable := accepts.readable member listed _ (field?_record named)
  simp only [Record.field_check_eq_ok_iff, Toml.text_eq_ok_iff] at readable
  exact ⟨named, readable⟩

theorem accepts_iff (distinct : (members.map Prod.fst).Nodup) :
    (record names).Accepts members ↔
      ∀ member ∈ members, member.1 ∈ names ∧ ∃ text, member.2 = .string text := by
  refine ⟨texts_of_accepts, fun each => ⟨fun _ member listed => ?_, distinct.filter _, ?_⟩⟩
  · rw [names_record]
    exact (each member listed).1
  · intro member listed field found
    obtain ⟨named, readable⟩ := each member listed
    cases (field?_record named).symm.trans found
    simpa only [Record.field_check_eq_ok_iff, Toml.text_eq_ok_iff] using readable

/-- The order in which faults are looked for decides which is found and not whether one is. -/
theorem check_byName_eq_ok_iff {record : Record Toml} :
    record.check [] (byName members) = .ok () ↔ record.Accepts members := by
  have sorted := List.mergeSort_perm members fun left right => left.1 ≤ right.1
  rw [Record.check_eq_ok_iff]
  exact ⟨fun accepts => accepts.perm sorted, fun accepts => accepts.perm sorted.symm⟩

theorem members_eq_ok_iff {title : String} :
    Section.members title names value = .ok members ↔
      table? names value = some members ∧ (record names).Accepts members := by
  have returned {given : TomlTable} {verdict : Except Misfit Unit}
      (passes : verdict = .ok () ↔ (record names).Accepts given) :
      (verdict.bind fun _ => .ok given) = .ok members ↔
        some given = some members ∧ (record names).Accepts members := by
    rw [Except.bind_eq_ok_iff]
    constructor
    · rintro ⟨_, passed, ⟨⟩⟩
      exact ⟨rfl, passes.mp passed⟩
    · rintro ⟨⟨⟩, accepts⟩
      exact ⟨(), passes.mpr accepts, rfl⟩
  cases value with
  | table given => exact returned check_byName_eq_ok_iff
  | array items => exact returned Record.check_eq_ok_iff
  | _ => simp [Section.members, table?, Toml.refuse]

theorem mem_zip_iff {items : List Toml} :
    (name, value) ∈ names.zip items ↔
      ∃ place : Nat, names[place]? = some name ∧ items[place]? = some value := by
  simp only [List.mem_iff_getElem?, List.getElem?_zip_eq_some]

theorem map_fst_zip_sublist (names : List String) (items : List Toml) :
    ((names.zip items).map Prod.fst).Sublist names := by
  induction names generalizing items with
  | nil => exact .slnil
  | cons name names ih =>
      cases items with
      | nil => exact List.nil_sublist _
      | cons item items => exact (ih items).cons_cons name

theorem nodup_table? (distinct : names.Nodup) (sound : value.Distinct)
    (shown : table? names value = some members) : (members.map Prod.fst).Nodup := by
  cases sound with
  | table unique each =>
      cases shown
      exact unique
  | array each =>
      cases shown
      exact distinct.sublist (map_fst_zip_sublist names _)
  | _ => cases shown

theorem fits_iff_forall_mem : Fits names value ↔
    ∃ members, table? names value = some members ∧
      ∀ member ∈ members, member.1 ∈ names ∧ ∃ text, member.2 = .string text := by
  constructor
  · rintro (each | each)
    · exact ⟨_, rfl, each⟩
    · rename_i items
      refine ⟨names.zip items, rfl, ?_⟩
      rintro ⟨name, item⟩ listed
      obtain ⟨place, named, given⟩ := mem_zip_iff.mp listed
      obtain ⟨inside, -⟩ := List.getElem?_eq_some_iff.mp named
      exact ⟨List.mem_of_getElem? named, each place inside item given⟩
  · rintro ⟨members, shown, each⟩
    cases value with
    | table given =>
        cases shown
        exact .table each
    | array items =>
        cases shown
        refine .array fun place inside item given => ?_
        exact (each (names[place], item)
          (mem_zip_iff.mpr ⟨place, List.getElem?_eq_getElem inside, given⟩)).2
    | _ => cases shown

theorem fits_iff (distinct : names.Nodup) (sound : value.Distinct) :
    Fits names value ↔
      ∃ members, table? names value = some members ∧ (record names).Accepts members := by
  rw [fits_iff_forall_mem]
  refine exists_congr fun members => and_congr_right fun shown => ?_
  rw [accepts_iff (nodup_table? distinct sound shown)]

theorem holds_iff (distinct : names.Nodup) (named : names[place]? = some name)
    (shown : table? names value = some members) :
    Holds name place text value ↔ (name, .string text) ∈ members := by
  constructor
  · rintro (member | item)
    · cases shown
      exact member
    · cases shown
      exact mem_zip_iff.mpr ⟨place, named, item⟩
  · intro member
    cases value with
    | table given =>
        cases shown
        exact .named member
    | array items =>
        cases shown
        obtain ⟨other, alike, item⟩ := mem_zip_iff.mp member
        obtain ⟨inside, -⟩ := List.getElem?_eq_some_iff.mp alike
        obtain rfl := (List.getElem?_inj inside distinct).mp (alike.trans named.symm)
        exact .placed item
    | _ => cases shown

/-- The text under a name, or the stock text if there is none. -/
def textOr (stock : String) (members : TomlTable) (name : String) : String :=
  match members.lookup name with
  | some (.string text) => text
  | _ => stock

theorem optional_eq_textOr (accepts : (record names).Accepts members) (named : name ∈ names)
    (stock : String) :
    Record.optional members name Toml.text stock = .ok (textOr stock members name) := by
  obtain ⟨text, read⟩ := accepts.exists_optional (field?_record named) stock
  rw [Record.optional] at read ⊢
  rw [textOr]
  split at read
  · rename_i value found
    obtain rfl := Toml.text_eq_ok_iff.mp read
    simp only [found, Toml.text]
  · rename_i found
    simp only [found]

theorem settles_textOr (distinct : names.Nodup) (shown : table? names value = some members)
    (accepts : (record names).Accepts members) (named : names[place]? = some name)
    (stock : String) :
    Settles (fun given => Holds name place given value) stock (textOr stock members name) := by
  have known := List.mem_of_getElem? named
  simp only [Settles, holds_iff distinct named shown]
  rcases Record.optional_cases (optional_eq_textOr accepts known stock) with
    ⟨found, listed, given⟩ | ⟨absent, same⟩
  · obtain rfl := Toml.text_eq_ok_iff.mp given
    refine ⟨fun other member => ?_, fun absent => absurd listed (absent _)⟩
    rw [← names_record names] at known
    cases (accepts.lookup_eq known listed).symm.trans (accepts.lookup_eq known member)
    rfl
  · exact ⟨fun given member => absurd member (absent _), fun _ => same⟩

/-- A section is read as the table of its labels, if this is accepted. -/
def ReadAs {α : Type} (names : List String) (ofMembers : TomlTable → α)
    (ofToml : Toml → Except Misfit α) : Prop :=
  ∀ value found, ofToml value = .ok found ↔
    ∃ members, table? names value = some members ∧ (record names).Accepts members ∧
      ofMembers members = found

theorem readAs_of_steps {α : Type} {ofMembers : TomlTable → α} {ofToml : Toml → Except Misfit α}
    {title : String} (read : TomlTable → Except Misfit α)
    (steps : ∀ value, ofToml value = (Section.members title names value).bind read)
    (reads : ∀ members, (record names).Accepts members → read members = .ok (ofMembers members)) :
    ReadAs names ofMembers ofToml := by
  intro value found
  rw [steps, Except.bind_eq_ok_iff]
  simp only [members_eq_ok_iff, and_assoc]
  refine exists_congr fun members => and_congr_right fun shown => and_congr_right fun accepts => ?_
  rw [reads members accepts, Except.ok.injEq]

theorem ReadAs.check_eq_ok_iff {α : Type} {ofMembers : TomlTable → α}
    {ofToml : Toml → Except Misfit α} (reads : ReadAs names ofMembers ofToml)
    (distinct : names.Nodup) (sound : value.Distinct) :
    (Record.field name ofToml).check value = .ok () ↔ Fits names value := by
  rw [Record.field_check_eq_ok_iff, fits_iff distinct sound]
  constructor
  · rintro ⟨found, read⟩
    obtain ⟨members, shown, accepts, -⟩ := (reads value found).mp read
    exact ⟨members, shown, accepts⟩
  · rintro ⟨members, shown, accepts⟩
    exact ⟨_, (reads value _).mpr ⟨members, shown, accepts, rfl⟩⟩

end Section

namespace AggregationLabels

def ofMembers (members : TomlTable) : AggregationLabels :=
  let stock : AggregationLabels := {}
  { leadIn := Section.textOr stock.leadIn members "prefix"
    joiner := Section.textOr stock.joiner members "infix"
    placeholder := Section.textOr stock.placeholder members "placeholder" }

theorem readAs_ofToml : Section.ReadAs names ofMembers ofToml := by
  let stock : AggregationLabels := {}
  refine Section.readAs_of_steps
    (fun members =>
      (Record.optional members "prefix" Toml.text stock.leadIn).bind fun leadIn =>
        (Record.optional members "infix" Toml.text stock.joiner).bind fun joiner =>
          (Record.optional members "placeholder" Toml.text stock.placeholder).bind
            fun placeholder => .ok ⟨leadIn, joiner, placeholder⟩)
    (fun _ => rfl) fun members accepts => ?_
  simp (disch := decide) only [Section.optional_eq_textOr accepts, Except.bind, ofMembers, stock]

end AggregationLabels

namespace DataSourceLabels

def ofMembers (members : TomlTable) : DataSourceLabels :=
  let stock : DataSourceLabels := {}
  { joiner := Section.textOr stock.joiner members "infix"
    typePlaceholder := Section.textOr stock.typePlaceholder members "type-placeholder"
    sourcePlaceholder := Section.textOr stock.sourcePlaceholder members "source-placeholder"
    customLabel := Section.textOr stock.customLabel members "custom-label"
    dateFormat := Section.textOr stock.dateFormat members "date-format" }

theorem readAs_ofToml : Section.ReadAs names ofMembers ofToml := by
  let stock : DataSourceLabels := {}
  refine Section.readAs_of_steps
    (fun members =>
      (Record.optional members "infix" Toml.text stock.joiner).bind fun joiner =>
        (Record.optional members "type-placeholder" Toml.text stock.typePlaceholder).bind
          fun typePlaceholder =>
            (Record.optional members "source-placeholder" Toml.text stock.sourcePlaceholder).bind
              fun sourcePlaceholder =>
                (Record.optional members "custom-label" Toml.text stock.customLabel).bind
                  fun customLabel =>
                    (Record.optional members "date-format" Toml.text stock.dateFormat).bind
                      fun dateFormat =>
                        .ok ⟨joiner, typePlaceholder, sourcePlaceholder, customLabel, dateFormat⟩)
    (fun _ => rfl) fun members accepts => ?_
  simp (disch := decide) only [Section.optional_eq_textOr accepts, Except.bind, ofMembers, stock]

end DataSourceLabels

/-! Documents. -/

namespace Labels

/-- One of the labels: its section, its name and place there, and where the menus read it. -/
structure Label where
  title : String
  name : String
  place : Nat
  shown : Labels → String

namespace Label

def all : List Label :=
  [⟨"aggregation", "prefix", 0, fun labels => labels.aggregation.leadIn⟩,
    ⟨"aggregation", "infix", 1, fun labels => labels.aggregation.joiner⟩,
    ⟨"aggregation", "placeholder", 2, fun labels => labels.aggregation.placeholder⟩,
    ⟨"datasources", "infix", 0, fun labels => labels.dataSources.joiner⟩,
    ⟨"datasources", "type-placeholder", 1, fun labels => labels.dataSources.typePlaceholder⟩,
    ⟨"datasources", "source-placeholder", 2, fun labels => labels.dataSources.sourcePlaceholder⟩,
    ⟨"datasources", "custom-label", 3, fun labels => labels.dataSources.customLabel⟩,
    ⟨"datasources", "date-format", 4, fun labels => labels.dataSources.dateFormat⟩]

/-- The names of a section's labels, in the order of their places. -/
def names (title : String) : List String :=
  (all.filter fun label => label.title = title).map Label.name

/-- The document has the text for the label in the label's section. -/
def GivenBy (label : Label) (document : TomlTable) (text : String) : Prop :=
  ∃ value, (label.title, value) ∈ document ∧ Section.Holds label.name label.place text value

end Label

/-- The document has no members but the two sections, and these fit. -/
def Fits (document : TomlTable) : Prop :=
  ∀ member ∈ document, (member.1 = "aggregation" ∨ member.1 = "datasources") ∧
    Section.Fits (Label.names member.1) member.2

variable {document : TomlTable} {labels : Labels}

theorem accepts_iff (sound : (Toml.table document).Distinct) :
    record.Accepts document ↔ Fits document := by
  obtain _ | _ | _ | _ | _ | _ | _ | ⟨distinct, each⟩ := sound
  have aggregation {value : Toml} (listed : ("aggregation", value) ∈ document) :
      (Record.field "aggregation" AggregationLabels.ofToml).check value = .ok () ↔
        Section.Fits (Label.names "aggregation") value :=
    AggregationLabels.readAs_ofToml.check_eq_ok_iff (by decide) (each _ listed)
  have dataSources {value : Toml} (listed : ("datasources", value) ∈ document) :
      (Record.field "datasources" DataSourceLabels.ofToml).check value = .ok () ↔
        Section.Fits (Label.names "datasources") value :=
    DataSourceLabels.readAs_ofToml.check_eq_ok_iff (by decide) (each _ listed)
  constructor
  · rintro accepts ⟨title, value⟩ listed
    have readable := accepts.readable _ listed
    have named : title ∈ ["aggregation", "datasources"] := accepts.closed rfl _ listed
    simp only [List.mem_cons, List.not_mem_nil, or_false] at named
    rcases named with rfl | rfl
    · exact ⟨.inl rfl, (aggregation listed).mp (readable _ rfl)⟩
    · exact ⟨.inr rfl, (dataSources listed).mp (readable _ rfl)⟩
  · intro fits
    refine ⟨fun _ member listed => ?_, distinct.filter _, ?_⟩
    · have named : member.1 ∈ ["aggregation", "datasources"] := by
        simpa using (fits member listed).1
      exact named
    · rintro ⟨title, value⟩ listed field found
      obtain ⟨rfl | rfl, fitting⟩ := fits _ listed
      · obtain rfl := Option.some.inj (found.symm.trans (rfl : _ = some (Record.field _ _)))
        exact (aggregation listed).mpr fitting
      · obtain rfl := Option.some.inj (found.symm.trans (rfl : _ = some (Record.field _ _)))
        exact (dataSources listed).mpr fitting

theorem ofToml_eq_ok_iff :
    ofToml document = .ok labels ↔ record.Accepts document ∧
      Record.optional document "aggregation" AggregationLabels.ofToml {} =
        .ok labels.aggregation ∧
      Record.optional document "datasources" DataSourceLabels.ofToml {} =
        .ok labels.dataSources := by
  have steps : ofToml document =
      (record.check [] (Section.byName document)).bind fun _ =>
        (Record.optional document "aggregation" AggregationLabels.ofToml {}).bind
          fun aggregation =>
            (Record.optional document "datasources" DataSourceLabels.ofToml {}).bind
              fun dataSources => .ok ⟨aggregation, dataSources⟩ := rfl
  rw [steps, ← Section.check_byName_eq_ok_iff]
  simp only [Except.bind_eq_ok_iff, Except.ok.injEq]
  constructor
  · rintro ⟨_, checked, aggregation, first, dataSources, second, rfl⟩
    exact ⟨checked, first, second⟩
  · rintro ⟨checked, first, second⟩
    exact ⟨(), checked, _, first, _, second, rfl⟩

theorem exists_ofToml_iff (sound : (Toml.table document).Distinct) :
    (∃ labels, ofToml document = .ok labels) ↔ Fits document := by
  rw [← accepts_iff sound]
  simp only [ofToml_eq_ok_iff]
  constructor
  · rintro ⟨labels, accepts, -⟩
    exact accepts
  · intro accepts
    obtain ⟨aggregation, first⟩ :=
      accepts.exists_optional (rfl : record.field? "aggregation" = _) {}
    obtain ⟨dataSources, second⟩ :=
      accepts.exists_optional (rfl : record.field? "datasources" = _) {}
    exact ⟨⟨aggregation, dataSources⟩, accepts, first, second⟩

/-- A label of a section is settled by what the document has for it, if the section is read by
the names of its labels. -/
theorem settles_of_optional {α : Type} {ofToml : Toml → Except Misfit α}
    {ofMembers : TomlTable → α} {names : List String} {title name : String} {place : Nat}
    {stock found : α} (unique : (document.map Prod.fst).Nodup) (distinct : names.Nodup)
    (reads : Section.ReadAs names ofMembers ofToml)
    (read : Record.optional document title ofToml stock = .ok found)
    (named : names[place]? = some name) (shown : α → String)
    (texts : ∀ members,
      shown (ofMembers members) = Section.textOr (shown stock) members name) :
    Settles (fun given => ∃ value, (title, value) ∈ document ∧
      Section.Holds name place given value) (shown stock) (shown found) := by
  rcases Record.optional_cases read with ⟨value, listed, given⟩ | ⟨absent, rfl⟩
  · obtain ⟨members, asTable, accepts, rfl⟩ := (reads value found).mp given
    have settled := Section.settles_textOr distinct asTable accepts named (shown stock)
    rw [texts]
    refine ⟨?_, fun none => settled.2 fun given holds => none given ⟨value, listed, holds⟩⟩
    rintro given ⟨other, there, holds⟩
    cases List.inj_on_of_nodup_map unique there listed rfl
    exact settled.1 given holds
  · refine ⟨?_, fun _ => rfl⟩
    rintro given ⟨value, listed, -⟩
    exact absurd listed (absent value)

theorem settles (sound : (Toml.table document).Distinct) (read : ofToml document = .ok labels) :
    ∀ label ∈ Label.all,
      Settles (label.GivenBy document) (label.shown {}) (label.shown labels) := by
  obtain _ | _ | _ | _ | _ | _ | _ | ⟨unique, -⟩ := sound
  obtain ⟨-, aggregation, dataSources⟩ := ofToml_eq_ok_iff.mp read
  have grouped {name : String} {place : Nat} (named : AggregationLabels.names[place]? = some name) :=
    settles_of_optional unique (by decide) AggregationLabels.readAs_ofToml aggregation named
  have sourced {name : String} {place : Nat} (named : DataSourceLabels.names[place]? = some name) :=
    settles_of_optional unique (by decide) DataSourceLabels.readAs_ofToml dataSources named
  simp only [Label.all, List.forall_mem_cons]
  exact ⟨grouped rfl AggregationLabels.leadIn fun _ => rfl,
    grouped rfl AggregationLabels.joiner fun _ => rfl,
    grouped rfl AggregationLabels.placeholder fun _ => rfl,
    sourced rfl DataSourceLabels.joiner fun _ => rfl,
    sourced rfl DataSourceLabels.typePlaceholder fun _ => rfl,
    sourced rfl DataSourceLabels.sourcePlaceholder fun _ => rfl,
    sourced rfl DataSourceLabels.customLabel fun _ => rfl,
    sourced rfl DataSourceLabels.dateFormat fun _ => rfl, List.forall_mem_nil _⟩

/-- However a document was read, if no table in it holds a name twice, it gives labels exactly
if it fits, and each of them is settled by what the document has for it. -/
theorem ofToml_settles (sound : (Toml.table document).Distinct) :
    ((∃ labels, ofToml document = .ok labels) ↔ Fits document) ∧
    ∀ labels, ofToml document = .ok labels → ∀ label ∈ Label.all,
      Settles (label.GivenBy document) (label.shown {}) (label.shown labels) :=
  ⟨exists_ofToml_iff sound, fun _ => settles sound⟩

theorem parse_eq_ok_iff {text : String} (read : Toml.ofText? text = some document) :
    parse text = .ok labels ↔ ofToml document = .ok labels := by
  rw [parse, read]
  exact Except.mapError_eq_ok_iff

/-- A text that is read as a document gives labels exactly if the document has no members but
the two sections and each of these is a table of texts under names of its labels, or an array
with texts at their places.  Then each label is what the document has for it, and the stock
text if that is nothing. -/
theorem parse_settles (text : String) (document : TomlTable)
    (read : Toml.ofText? text = some document) :
    ((∃ labels, parse text = .ok labels) ↔ Fits document) ∧
    ∀ labels, parse text = .ok labels → ∀ label ∈ Label.all,
      (∀ given, label.GivenBy document given → label.shown labels = given) ∧
      ((∀ given, ¬ label.GivenBy document given) → label.shown labels = label.shown {}) := by
  simp only [parse_eq_ok_iff read]
  -- of the reader of documents, no more is needed than that it gives each name once
  exact ofToml_settles (Toml.ofText?_distinct text document read)

/-- An array with an item too many, which is no text, and a table that gives one label. -/
theorem parse_settles_array :
    let text := "aggregation = ['By', 'and', 'any', []]\n[datasources]\ndate-format = '%d'"
    let document : TomlTable :=
      [("aggregation", .array [.string "By", .string "and", .string "any", .array []]),
        ("datasources", .table [("date-format", .string "%d")])]
    Toml.ofText? text = some document ∧ Fits document ∧
      ∃ labels, parse text = .ok labels ∧ labels.aggregation.joiner = "and" ∧
        labels.dataSources.dateFormat = "%d" ∧ labels.dataSources.joiner = "then" := by
  intro text document
  have read : Toml.ofText? text = some document := by
    unfold text document
    cbv
  have listed : Section.Fits (Label.names "aggregation")
      (.array [.string "By", .string "and", .string "any", .array []]) := by
    refine .array fun place inside item given => ?_
    have early : place = 0 ∨ place = 1 ∨ place = 2 := by
      have inside : place < 3 := inside
      omega
    rcases early with rfl | rfl | rfl <;> cases given <;> exact ⟨_, rfl⟩
  have named : Section.Fits (Label.names "datasources")
      (.table [("date-format", .string "%d")]) :=
    .table (List.forall_mem_singleton.mpr ⟨by decide, "%d", rfl⟩)
  have fits : Fits document :=
    List.forall_mem_cons.mpr ⟨⟨.inl rfl, listed⟩, List.forall_mem_singleton.mpr ⟨.inr rfl, named⟩⟩
  obtain ⟨accepted, settled⟩ := parse_settles text document read
  obtain ⟨labels, parsed⟩ := accepted.mpr fits
  have each := settled labels parsed
  simp only [Label.all, List.forall_mem_cons] at each
  obtain ⟨-, second, -, joiner, -, -, -, dateFormat, -⟩ := each
  refine ⟨read, fits, labels, parsed, ?_, ?_, ?_⟩
  · exact second.1 "and" ⟨_, List.mem_cons_self, .placed rfl⟩
  · exact dateFormat.1 "%d" ⟨_, List.mem_cons_of_mem _ List.mem_cons_self, .named List.mem_cons_self⟩
  · refine joiner.2 ?_
    rintro given ⟨value, there, holds⟩
    obtain rfl : value = .table [("date-format", .string "%d")] := by simpa [document] using there
    obtain ⟨member⟩ := holds
    simp at member

end Labels

end QueryMenu
