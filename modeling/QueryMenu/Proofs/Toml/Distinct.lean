import Mathlib.Data.List.Nodup
import QueryMenu.Toml.Document

namespace QueryMenu.Toml

/-! A table that is read from a text holds no name twice.

A reader holds tables that are still under construction.  What it keeps is said of the values
that these would be if they were finished at once: every table in them has distinct names.  A
member is only added under a name that is free, and a table on the way to another one is
replaced under its own name, so each edit of a table keeps this, and so does each token.
-/

/-- No table in the value holds a name twice. -/
inductive Distinct : Toml → Prop where
  | string (text : String) : Distinct (.string text)
  | integer (value : Int) : Distinct (.integer value)
  | float (value : Number.Binary64) : Distinct (.float value)
  | boolean (value : Bool) : Distinct (.boolean value)
  | datetime : Distinct .datetime
  | unreadable : Distinct .unreadable
  | array {items : List Toml} (each : ∀ item ∈ items, Distinct item) : Distinct (.array items)
  | table {members : TomlTable} (names : (members.map Prod.fst).Nodup)
      (each : ∀ member ∈ members, Distinct member.2) : Distinct (.table members)

section Yields

variable {α β : Type} {holds : α → Prop}

/-- The result has the property, if there is one. -/
def Yields (holds : α → Prop) (result : Option α) : Prop :=
  ∀ value, result = some value → holds value

theorem yields_none : Yields holds none := by
  rintro _ ⟨⟩

theorem yields_some {value : α} (sound : holds value) : Yields holds (some value) := by
  rintro _ ⟨⟩
  exact sound

theorem yields_bind {before : Option β} {after : β → Option α}
    (each : ∀ value, before = some value → Yields holds (after value)) :
    Yields holds (before.bind after) := by
  intro value done
  obtain ⟨found, first, second⟩ := Option.bind_eq_some_iff.mp done
  exact each found first value second

theorem yields_map {before : Option β} {after : β → α}
    (each : ∀ value, before = some value → holds (after value)) :
    Yields holds (before.map after) := by
  intro value done
  obtain ⟨found, first, rfl⟩ := Option.map_eq_some_iff.mp done
  exact each found first

end Yields

/-! Tables under construction. -/

namespace Members

variable {members : Members} {name : String} {node : Node}

/-- No table holds a name twice once these members are finished. -/
structure Distinct (members : Members) : Prop where
  names : (members.map Prod.fst).Nodup
  each : ∀ member ∈ members, member.2.finish.Distinct

theorem finish_eq_map (members : Members) :
    members.finish = members.map fun member => (member.1, member.2.finish) := by
  induction members with
  | nil => rfl
  | cons member rest ih => rw [finish, ih, List.map_cons]

theorem finishAll_eq_map (items : List Members) :
    finishAll items = items.map fun members => .table members.finish := by
  induction items with
  | nil => rfl
  | cons members rest ih => rw [finishAll, ih, List.map_cons]

theorem distinct_finish_iff : (Toml.table members.finish).Distinct ↔ members.Distinct := by
  have names : members.finish.map Prod.fst = members.map Prod.fst := by
    rw [finish_eq_map, List.map_map]
    rfl
  constructor
  · rintro (_ | _ | _ | _ | _ | _ | _ | ⟨distinct, each⟩)
    rw [names] at distinct
    rw [finish_eq_map, List.forall_mem_map] at each
    exact ⟨distinct, each⟩
  · rintro ⟨distinct, each⟩
    refine .table (names ▸ distinct) ?_
    rw [finish_eq_map, List.forall_mem_map]
    exact each

theorem distinct_table_iff {origin : Origin} :
    (Node.table origin members).finish.Distinct ↔ members.Distinct := by
  rw [Node.finish, distinct_finish_iff]

theorem distinct_tables_iff {items : List Members} :
    (Node.tables items).finish.Distinct ↔ ∀ members ∈ items, members.Distinct := by
  rw [Node.finish, finishAll_eq_map]
  constructor
  · rintro (_ | _ | _ | _ | _ | _ | each)
    rw [List.forall_mem_map] at each
    exact fun members listed => distinct_finish_iff.mp (each members listed)
  · intro each
    refine .array ?_
    rw [List.forall_mem_map]
    exact fun members listed => distinct_finish_iff.mpr (each members listed)

theorem distinct_nil : Distinct [] :=
  ⟨List.nodup_nil, List.forall_mem_nil _⟩

namespace Distinct

variable (distinct : members.Distinct)
include distinct

theorem of_lookup (found : members.lookup name = some node) : node.finish.Distinct := by
  obtain ⟨before, after, rfl, -⟩ := List.lookup_eq_some_iff.mp found
  exact distinct.each (name, node) (List.mem_append_right _ List.mem_cons_self)

theorem append (free : members.lookup name = none) (sound : node.finish.Distinct) :
    Members.Distinct (members ++ [(name, node)]) where
  names := by
    have absent : name ∉ members.map Prod.fst := by
      intro listed
      obtain ⟨member, present, rfl⟩ := List.mem_map.mp listed
      simpa using List.lookup_eq_none_iff.mp free member present
    rw [List.map_append, List.nodup_append]
    refine ⟨distinct.names, List.nodup_singleton _, ?_⟩
    rintro other listed new only rfl
    obtain rfl := List.mem_singleton.mp only
    exact absent listed
  each := List.forall_mem_append.mpr ⟨distinct.each, List.forall_mem_singleton.mpr sound⟩

theorem replace (name : String) (sound : node.finish.Distinct) :
    (members.replace name node).Distinct where
  names := by
    have names : (members.replace name node).map Prod.fst = members.map Prod.fst := by
      rw [Members.replace, List.map_map]
      refine List.map_congr_left fun member _ => ?_
      simp only [Function.comp_apply]
      split <;> rfl
    rw [names]
    exact distinct.names
  each := by
    rw [Members.replace, List.forall_mem_map]
    intro member listed
    simp only
    split
    · exact sound
    · exact distinct.each member listed

end Distinct

/-- The edit leaves no table with a name that stands twice. -/
def Keeps (edit : Members → Option Members) : Prop :=
  ∀ members, members.Distinct → Yields Distinct (edit members)

theorem keeps_add (name : String) (sound : node.finish.Distinct) : Keeps (add name node) := by
  intro members distinct
  unfold add
  split
  · rename_i free
    exact yields_some (distinct.append free sound)
  · exact yields_none

theorem keeps_openTable (name : String) : Keeps (openTable name) := by
  intro members distinct
  unfold openTable
  split
  · rename_i free
    exact yields_some (distinct.append free (distinct_table_iff.mpr distinct_nil))
  · rename_i child found
    have inner := distinct_table_iff.mp (distinct.of_lookup found)
    exact yields_some (distinct.replace name (distinct_table_iff.mpr inner))
  · exact yields_none

theorem keeps_openNextTable (name : String) : Keeps (openNextTable name) := by
  intro members distinct
  have opened : ∀ members : Members, members ∈ [[]] → members.Distinct :=
    List.forall_mem_singleton.mpr distinct_nil
  unfold openNextTable
  split
  · rename_i free
    exact yields_some (distinct.append free (distinct_tables_iff.mpr opened))
  · rename_i items found
    have inner := distinct_tables_iff.mp (distinct.of_lookup found)
    exact yields_some (distinct.replace name
      (distinct_tables_iff.mpr (List.forall_mem_append.mpr ⟨inner, opened⟩)))
  · exact yields_none

theorem keeps_descend {dotted : Bool} {edit : Bool → Members → Option Members}
    (keeps : ∀ inDotted, Keeps (edit inDotted)) (path : List String) (inDotted : Bool) :
    Keeps (descend dotted edit path inDotted) := by
  intro members distinct
  fun_induction descend dotted edit path inDotted members with
  | case1 inDotted members => exact keeps inDotted members distinct
  | case2 inDotted key path members free ih =>
      refine yields_map fun child reached => ?_
      exact distinct.append free (distinct_table_iff.mpr (ih distinct_nil child reached))
  | case3 => exact yields_none
  | case4 => exact yields_none
  | case5 inDotted key path members origin child found passes merged ih =>
      have inner := distinct_table_iff.mp (distinct.of_lookup found)
      refine yields_map fun fresh reached => ?_
      exact distinct.replace key (distinct_table_iff.mpr (ih inner fresh reached))
  | case6 => exact yields_none
  | case7 inDotted key path members items found child last ih =>
      have inner := distinct_tables_iff.mp (distinct.of_lookup found)
      refine yields_map fun fresh reached => ?_
      refine distinct.replace key (distinct_tables_iff.mpr (List.forall_mem_append.mpr ⟨?_, ?_⟩))
      · exact fun members listed => inner members (List.dropLast_subset items listed)
      · rw [List.forall_mem_singleton]
        exact ih (inner child (List.mem_of_getLast? last)) fresh reached

theorem keeps_bind (path : List String) {value : Toml} (sound : value.Distinct) :
    Keeps (bind path value) := by
  intro members distinct
  unfold bind
  split
  · exact yields_none
  · rename_i name _
    refine keeps_descend (fun inDotted members distinct => ?_) path.dropLast false members distinct
    split
    · exact yields_none
    · exact keeps_add name (show (Node.value value).finish.Distinct from sound) members distinct

theorem keeps_openPath (repeated : Bool) (path : List String) :
    Keeps (openPath repeated path) := by
  intro members distinct
  unfold openPath
  split
  · exact yields_none
  · rename_i name _
    refine keeps_descend (fun inDotted members distinct => ?_) path.dropLast false members distinct
    split
    · exact keeps_openNextTable name members distinct
    · exact keeps_openTable name members distinct

theorem keeps_bindAt (header path : List String) {value : Toml} (sound : value.Distinct) :
    Keeps (bindAt header path value) :=
  keeps_descend (fun _ => keeps_bind path sound) header false

end Members

/-! A value without quotes is no table. -/

namespace Scalar

theorem distinct_fitted (value : Int) : (fitted value).Distinct := by
  unfold fitted
  split
  · exact .integer value
  · exact .unreadable

theorem yields_basedInteger? (base : Nat) (text : List Char) :
    Yields Distinct (basedInteger? base text) := by
  unfold basedInteger?
  split
  · exact yields_some .unreadable
  · exact yields_map fun digits _ => distinct_fitted _

theorem yields_decimalInteger? (negative : Bool) (text : List Char) :
    Yields Distinct (decimalInteger? negative text) := by
  unfold decimalInteger?
  split
  · exact yields_some (distinct_fitted _)
  · split
    · exact yields_some .unreadable
    · exact yields_none

theorem yields_integer? (text : List Char) : Yields Distinct (integer? text) := by
  unfold integer?
  split
  · exact yields_basedInteger? 16 _
  · exact yields_basedInteger? 8 _
  · exact yields_basedInteger? 2 _
  · exact yields_decimalInteger? _ _

theorem yields_float? (text : List Char) : Yields Distinct (float? text) := by
  unfold float?
  simp only [Option.bind_eq_bind]
  -- whatever the parts of the numeral are, it ends as a number or as one without a value
  repeat' first
    | split
    | refine yields_bind fun _ _ => ?_
    | exact yields_some (.float _)
    | exact yields_some .unreadable

theorem yields_ofText? (text : List Char) : Yields Distinct (ofText? text) := by
  unfold ofText?
  split
  · exact yields_some (.boolean true)
  · split
    · exact yields_some (.boolean false)
    · split
      · exact yields_some .datetime
      · intro value read
        rcases Option.or_eq_some_iff.mp read with whole | ⟨-, fractional⟩
        · exact yields_integer? text value whole
        · exact yields_float? text value fractional

end Scalar

/-! What a reader holds. -/

def Frame.Distinct : Frame → Prop
  | .array items => ∀ item ∈ items, item.Distinct
  | .inline members => members.Distinct
  | .binding _ => True

namespace Reader

variable {reader : Reader} {frames : List Frame}

/-- No table that the reader holds has a name twice. -/
structure Distinct (reader : Reader) : Prop where
  root : reader.root.Distinct
  frames : ∀ frame ∈ reader.frames, frame.Distinct

theorem start_distinct : start.Distinct :=
  ⟨Members.distinct_nil, List.forall_mem_nil _⟩

namespace Distinct

variable (distinct : reader.Distinct)
include distinct

theorem expecting (expected : Expected) : Distinct { reader with expected } :=
  ⟨distinct.root, distinct.frames⟩

theorem push {frame : Frame} (sound : frame.Distinct) (expected : Expected) :
    Yields Distinct (reader.push frame expected) := by
  unfold Reader.push
  split
  · exact yields_some ⟨distinct.root, List.forall_mem_cons.mpr ⟨sound, distinct.frames⟩⟩
  · exact yields_none

theorem deliver {value : Toml} (sound : value.Distinct) (each : ∀ frame ∈ frames, frame.Distinct) :
    Yields Distinct (reader.deliver value frames) := by
  unfold Reader.deliver
  split
  · rw [List.forall_mem_cons] at each
    have items := List.forall_mem_cons.mpr ⟨sound, each.1⟩
    exact yields_some ⟨distinct.root, List.forall_mem_cons.mpr ⟨items, each.2⟩⟩
  · rename_i path members frames
    rw [List.forall_mem_cons, List.forall_mem_cons] at each
    refine yields_map fun fresh bound => ⟨distinct.root, List.forall_mem_cons.mpr ⟨?_, each.2.2⟩⟩
    exact Members.keeps_bind path sound members each.2.1 fresh bound
  · rename_i path
    refine yields_map fun root bound => ⟨?_, List.forall_mem_nil _⟩
    exact Members.keeps_bindAt reader.header path sound reader.root distinct.root root bound
  · exact yields_none

theorem deliverScalar (text : List Char) : Yields Distinct (reader.deliverScalar text) :=
  yields_bind fun value read =>
    distinct.deliver (Scalar.yields_ofText? text value read) distinct.frames

theorem keyPart (place : KeyPlace) (path : List String) (token : Token) :
    Yields Distinct (reader.keyPart place path token) := by
  unfold Reader.keyPart
  repeat' split
  all_goals first
    | exact yields_some (distinct.expecting _)
    | exact yields_none

theorem bindMember (path : List String) : (reader.bindMember path).Distinct :=
  ⟨distinct.root, List.forall_mem_cons.mpr ⟨trivial, distinct.frames⟩⟩

theorem openPath (repeated : Bool) (path : List String) :
    Yields Distinct ((reader.root.openPath repeated path).map fun root =>
      { reader with root, header := path, expected := .lineEnd }) :=
  yields_map fun root opened =>
    ⟨Members.keeps_openPath repeated path reader.root distinct.root root opened, distinct.frames⟩

theorem keyEnd (place : KeyPlace) (path : List String) (token : Token) :
    Yields Distinct (reader.keyEnd place path token) := by
  unfold Reader.keyEnd
  split
  · exact yields_some (distinct.expecting _)
  · exact yields_some ⟨distinct.root, List.forall_mem_singleton.mpr trivial⟩
  · exact yields_some (distinct.bindMember path)
  · exact yields_some (distinct.expecting _)
  · exact yields_some (distinct.expecting _)
  · exact distinct.openPath false path
  · exact yields_some (distinct.expecting _)
  · exact yields_none

theorem value (token : Token) : Yields Distinct (reader.value token) := by
  have items : (Frame.array []).Distinct := List.forall_mem_nil _
  have members : (Frame.inline []).Distinct := Members.distinct_nil
  unfold Reader.value
  split
  · exact distinct.deliver (.string _) distinct.frames
  · exact distinct.push items _
  · exact distinct.push members _
  · exact yields_some (distinct.expecting _)
  · exact yields_some (distinct.expecting _)
  · exact yields_none

theorem beforeValue : Yields Distinct reader.beforeValue := by
  unfold Reader.beforeValue
  split
  · exact yields_some distinct
  · exact yields_none

theorem close (token : Token) : Yields Distinct (reader.close token) := by
  unfold Reader.close
  split
  · rename_i items frames opened
    have each := distinct.frames
    rw [opened, List.forall_mem_cons] at each
    exact distinct.deliver (.array fun item listed => each.1 item (List.mem_reverse.mp listed)) each.2
  · rename_i members frames opened
    have each := distinct.frames
    rw [opened, List.forall_mem_cons] at each
    exact distinct.deliver (Members.distinct_finish_iff.mpr each.1) each.2
  · exact yields_none

theorem afterValue (token : Token) : Yields Distinct (reader.afterValue token) := by
  unfold Reader.afterValue
  split
  · exact yields_some distinct
  · exact yields_some distinct
  · exact yields_some (distinct.expecting _)
  · exact yields_some distinct
  · split
    · exact yields_some (distinct.expecting _)
    · exact yields_some (distinct.expecting _)
    · exact yields_none
  · exact distinct.close _
  · exact yields_none

theorem afterScalar (text : List Char) (token : Token) :
    Yields Distinct (reader.afterScalar text token) :=
  yields_bind fun next delivered => (distinct.deliverScalar text next delivered).afterValue token

theorem step (token : Token) : Yields Distinct (reader.step token) := by
  unfold Reader.step
  split
  all_goals first
    -- most tokens change at most what is expected
    | exact yields_some distinct
    | exact yields_some (distinct.expecting _)
    | exact yields_some (distinct.bindMember _)
    | exact yields_none
    | exact distinct.keyPart _ _ _
    | exact distinct.keyEnd _ _ _
    | exact distinct.openPath _ _
    | exact distinct.beforeValue
    | exact distinct.value _
    | exact distinct.close _
    | exact distinct.afterScalar _ _
    | exact distinct.afterValue _

theorem run (tokens : List Token) : Yields Distinct (tokens.foldlM Reader.step reader) := by
  induction tokens generalizing reader with
  | nil => exact yields_some distinct
  | cons token rest ih =>
      rw [List.foldlM_cons]
      exact yields_bind fun next stepped => ih (distinct.step token next stepped)

end Distinct

end Reader

/-- A text is read as a table in which, as in every table inside it, no name stands twice. -/
theorem ofText?_distinct (text : String) :
    Yields (fun document => (Toml.table document).Distinct) (ofText? text) := by
  unfold ofText?
  refine yields_bind fun tokens _ => yields_bind fun reader read => ?_
  split
  · exact yields_some (Members.distinct_finish_iff.mpr
      (Reader.start_distinct.run _ reader read).root)
  · exact yields_none

end QueryMenu.Toml
