import Mathlib.Logic.Relation
import QueryMenu.DataSource.Wire
import QueryMenu.Proofs.Decode.Record

namespace QueryMenu

/-! Requests and providers, written and read back.

What is read of an object is read by name, so neither the order of the members nor members
of other names count.  A request needs all of its fields.  In a provider each list may be
left out where it is empty, since an absent list reads as the empty one.
-/

open Json (Delivery)

namespace Json

variable {α : Type} {read : Json → Except Misfit α}

theorem list_map (write : α → Json) (reads : ∀ value, read (write value) = .ok value)
    (values : List α) : list read (.array (values.map write)) = .ok values := by
  rw [list]
  induction values with
  | nil => rfl
  | cons value rest ih =>
      rw [List.map_cons, List.mapM_cons, reads, ih]
      rfl

theorem list_replace {item fresh : Json} (alike : read fresh = read item)
    (before after : List Json) :
    list read (.array (before ++ fresh :: after)) =
      list read (.array (before ++ item :: after)) := by
  simp only [list, List.mapM_append, List.mapM_cons, alike]

end Json

namespace MarketDataRequest

def Variant.name : Variant → String
  | .live => "live"
  | .snapshot => "snapshot"
  | .latestHistorical => "latestHistorical"
  | .fixedHistorical => "fixedHistorical"

theorem Variant.ofJson_name (variant : Variant) : ofJson (.string variant.name) = .ok variant := by
  cases variant <;> rfl

def variant : MarketDataRequest → Variant
  | .live _ => .live
  | .snapshot _ => .snapshot
  | .latestHistorical _ => .latestHistorical
  | .fixedHistorical _ _ => .fixedHistorical

def texts : MarketDataRequest → List String
  | .live source => [source]
  | .snapshot snapshotId => [snapshotId]
  | .latestHistorical resolverKey => [resolverKey]
  | .fixedHistorical date resolverKey => [date, resolverKey]

def members (request : MarketDataRequest) : List (String × Json) :=
  (tag, .string request.variant.name) ::
    (request.variant.fields.zip request.texts).map fun (name, text) => (name, .string text)

theorem toJson_eq (request : MarketDataRequest) : request.toJson = .object request.members := by
  cases request <;> rfl

/-- What is looked at first, to find the variant. -/
def tagRecord : Record Json :=
  ⟨[Record.field tag Variant.ofJson], false⟩

theorem ofJson_object (members : List (String × Json)) :
    ofJson (.object members) = (tagRecord.check [] members).bind fun _ =>
      (Record.required members tag Variant.ofJson).bind fun variant =>
        (variant.record.check [] members).bind fun _ =>
          variant.build fun _ name => Record.required members name Json.text := rfl

theorem tagRecord_accepts (request : MarketDataRequest) : tagRecord.Accepts request.members :=
  Record.check_eq_ok_iff.mp (by cases request <;> rfl)

theorem variant_accepts (request : MarketDataRequest) :
    request.variant.record.Accepts request.members :=
  Record.check_eq_ok_iff.mp (by cases request <;> rfl)

theorem build_variant {request : MarketDataRequest} {read : Nat → String → Except Misfit String}
    (reads : ∀ field ∈ request.variant.fields.zip request.texts, ∀ place,
      read place field.1 = .ok field.2) :
    request.variant.build read = .ok request := by
  cases request <;> simp_all [variant, Variant.fields, texts, Variant.build, Except.map, bind,
    Except.bind, pure, Except.pure]

theorem ofJson_of_perm {request : MarketDataRequest} {extra shuffled : List (String × Json)}
    (foreign : ∀ member ∈ extra, member.1 ≠ tag ∧ member.1 ∉ request.variant.fields)
    (same : shuffled.Perm (request.members ++ extra)) :
    ofJson (.object shuffled) = .ok request := by
  have present : ∀ member ∈ request.members, member ∈ shuffled :=
    fun member listed => same.mem_iff.mpr (List.mem_append_left _ listed)
  have tagged : tagRecord.Accepts shuffled := by
    refine (request.tagRecord_accepts.append_unknown rfl fun member listed => ?_).perm same.symm
    simpa [tagRecord, Record.names, Record.field] using (foreign member listed).1
  have fielded : request.variant.record.Accepts shuffled := by
    refine (request.variant_accepts.append_unknown rfl fun member listed => ?_).perm same.symm
    simpa [Variant.record, Record.names, Record.field, Function.comp_def] using
      (foreign member listed).2
  have chosen : Record.required shuffled tag Variant.ofJson = .ok request.variant := by
    rw [tagged.required_eq (by simp [tagRecord, Record.names, Record.field])
      (present _ List.mem_cons_self), Variant.ofJson_name]
  have reads : ∀ field ∈ request.variant.fields.zip request.texts,
      Record.required shuffled field.1 Json.text = .ok field.2 := by
    intro field listed
    have named : field.1 ∈ request.variant.record.names := by
      simpa [Variant.record, Record.names, Record.field, Function.comp_def] using
        (List.of_mem_zip listed).1
    have written : (field.1, Json.string field.2) ∈ request.members :=
      List.mem_cons_of_mem _ (List.mem_map.mpr ⟨field, listed, rfl⟩)
    rw [fielded.required_eq named (present _ written)]
    rfl
  rw [ofJson_object, Record.check_eq_ok_iff.mpr tagged, chosen]
  simp only [Except.bind, Record.check_eq_ok_iff.mpr fielded]
  exact build_variant fun field listed _ => reads field listed

theorem ofJson_toJson (request : MarketDataRequest) : ofJson request.toJson = .ok request := by
  rw [toJson_eq]
  exact ofJson_of_perm (List.forall_mem_nil _) (.of_eq (List.append_nil _).symm)

end MarketDataRequest

namespace Provider

variable {delivery : Delivery} {members : List (String × Json)} {names : List String}
  {provider : Provider}

/-- One list that is empty is left out: one of the provider's own, or that of a listing. -/
inductive Trims : Json → Json → Prop
  | member (before after : List (String × Json)) (name : String) :
      name ∈ ["live", "snapshots", "resolver-config"] →
      Trims (.object (before ++ (name, .array []) :: after)) (.object (before ++ after))
  | listing (before after : List (String × Json)) (front back : List Json)
      (earlier later : List (String × Json)) :
      Trims
        (.object (before ++ ("snapshots",
          .array (front ++ .object (earlier ++ ("snapshots", .array []) :: later) :: back)) ::
          after))
        (.object (before ++ ("snapshots",
          .array (front ++ .object (earlier ++ later) :: back)) :: after))

def listingRecord (delivery : Delivery) : Record Json :=
  ⟨[Record.field "snapshots" (namesOfJson delivery)], false⟩

theorem listingOfJson_object_iff :
    listingOfJson delivery (.object members) = .ok names ↔
      (listingRecord delivery).Accepts members ∧
        Record.optional members "snapshots" (namesOfJson delivery) [] = .ok names := by
  have steps : listingOfJson delivery (.object members) =
      ((listingRecord delivery).check [] members).bind fun _ =>
        Record.optional members "snapshots" (namesOfJson delivery) [] := rfl
  rw [steps, Except.bind_eq_ok_iff, ← Record.check_eq_ok_iff]
  constructor
  · rintro ⟨_, checked, listed⟩
    exact ⟨checked, listed⟩
  · rintro ⟨checked, listed⟩
    exact ⟨(), checked, listed⟩

theorem ofJson_object_iff :
    ofJson delivery (.object members) = .ok provider ↔
      (record delivery).Accepts members ∧
        Record.optional members "live" (namesOfJson delivery) [] = .ok provider.live ∧
        Record.optional members "snapshots" (Json.list (listingOfJson delivery)) [] =
          .ok provider.snapshots ∧
        Record.optional members "resolver-config" (Json.list Json.text) [] =
          .ok provider.resolverConfig := by
  have steps : ofJson delivery (.object members) =
      ((record delivery).check [] members).bind fun _ =>
        (Record.optional members "live" (namesOfJson delivery) []).bind fun live =>
          (Record.optional members "snapshots" (Json.list (listingOfJson delivery)) []).bind
            fun snapshots =>
              (Record.optional members "resolver-config" (Json.list Json.text) []).bind
                fun resolverConfig => .ok ⟨live, snapshots, resolverConfig⟩ := rfl
  rw [steps]
  simp only [Except.bind_eq_ok_iff, ← Record.check_eq_ok_iff, Except.ok.injEq]
  constructor
  · rintro ⟨_, checked, live, first, snapshots, second, resolverConfig, third, rfl⟩
    exact ⟨checked, first, second, third⟩
  · rintro ⟨checked, first, second, third⟩
    exact ⟨(), checked, _, first, _, second, _, third, rfl⟩

/-! Whole forms. -/

theorem names_read (delivery : Delivery) (names : List String) :
    namesOfJson delivery (.array (names.map nameToJson)) = .ok names :=
  Json.list_map nameToJson (fun _ => rfl) names

theorem listing_reads (delivery : Delivery) (names : List String) :
    listingOfJson delivery (listingToJson names) = .ok names := by
  have read := names_read delivery names
  refine listingOfJson_object_iff.mpr ⟨?_, read⟩
  rw [← Record.check_eq_ok_iff]
  simp [Record.check, listingRecord, Record.field, read, Except.map, Except.bind]

theorem ofJson_toJson (delivery : Delivery) (provider : Provider) :
    ofJson delivery provider.toJson = .ok provider := by
  have live := names_read delivery provider.live
  have snapshots := Json.list_map listingToJson (listing_reads delivery) provider.snapshots
  have resolverConfig : Json.list Json.text (Json.ofTexts provider.resolverConfig) =
      .ok provider.resolverConfig :=
    Json.list_map Json.string (fun _ => rfl) provider.resolverConfig
  refine ofJson_object_iff.mpr ⟨?_, live, snapshots, resolverConfig⟩
  rw [← Record.check_eq_ok_iff]
  simp [Record.check, record, Record.field, live, snapshots, resolverConfig, Except.map, Except.bind]

/-! Forms with lists left out. -/

theorem listing_trims {earlier later : List (String × Json)}
    (read : listingOfJson delivery (.object (earlier ++ ("snapshots", .array []) :: later)) =
      .ok names) :
    listingOfJson delivery (.object (earlier ++ later)) = .ok names := by
  obtain ⟨accepts, listed⟩ := listingOfJson_object_iff.mp read
  have named : "snapshots" ∈ (listingRecord delivery).names := List.mem_cons_self
  refine listingOfJson_object_iff.mpr ⟨accepts.sublist ?_, ?_⟩
  · exact (List.sublist_cons_self _ _).append_left earlier
  · exact (accepts.optional_omit named (by intro _; rfl)).trans listed

theorem ofJson_trims {whole left : Json} (trims : Trims whole left)
    (read : ofJson delivery whole = .ok provider) : ofJson delivery left = .ok provider := by
  cases trims with
  | member before after name known =>
      obtain ⟨accepts, live, snapshots, resolverConfig⟩ := ofJson_object_iff.mp read
      have named : name ∈ (record delivery).names := known
      refine ofJson_object_iff.mpr ⟨accepts.sublist ?_, ?_, ?_, ?_⟩
      · exact (List.sublist_cons_self _ _).append_left before
      · exact (accepts.optional_omit named (by intro _; rfl)).trans live
      · exact (accepts.optional_omit named (by intro _; rfl)).trans snapshots
      · exact (accepts.optional_omit named (by intro _; rfl)).trans resolverConfig
  | listing before after front back earlier later =>
      obtain ⟨accepts, live, snapshots, resolverConfig⟩ := ofJson_object_iff.mp read
      have named : "snapshots" ∈ (record delivery).names := .tail _ (.head _)
      have listings := snapshots
      rw [accepts.optional_eq named (List.mem_append_right _ List.mem_cons_self)] at listings
      obtain ⟨names, listing⟩ := Except.exists_of_mapM_eq_ok listings
        (List.mem_append_right front List.mem_cons_self)
      have alike := Json.list_replace ((listing_trims listing).trans listing.symm) front back
      refine ofJson_object_iff.mpr ⟨accepts.replace ?_, ?_, ?_, ?_⟩
      · intro field found
        obtain rfl : Record.field "snapshots" (Json.list (listingOfJson delivery)) = field :=
          Option.some.inj found
        exact congrArg (Except.map fun _ => ()) alike
      · exact (Record.optional_replace fun same => absurd same (by decide)).trans live
      · exact (Record.optional_replace fun _ => alike).trans snapshots
      · exact (Record.optional_replace fun same => absurd same (by decide)).trans resolverConfig

end Provider

/-- A written request is read back whatever the order of its members and whatever else the
object holds, so no two requests are written alike; a written provider is read back whichever
of its empty lists are left out. -/
theorem wire_round_trip :
    (∀ request : MarketDataRequest,
      MarketDataRequest.ofJson request.toJson = .ok request ∧
      ∃ members, request.toJson = .object members ∧
        ∀ extra shuffled : List (String × Json),
          (∀ member ∈ extra,
            member.1 ≠ MarketDataRequest.tag ∧ member.1 ∉ request.variant.fields) →
          shuffled.Perm (members ++ extra) →
          MarketDataRequest.ofJson (.object shuffled) = .ok request) ∧
    (∀ request other : MarketDataRequest, request.toJson = other.toJson → request = other) ∧
    ∀ (provider : Provider) (delivery : Delivery),
      Provider.ofJson delivery provider.toJson = .ok provider ∧
      ∀ json, Relation.ReflTransGen Provider.Trims provider.toJson json →
        Provider.ofJson delivery json = .ok provider := by
  refine ⟨fun request => ⟨request.ofJson_toJson, request.members, request.toJson_eq, ?_⟩, ?_, ?_⟩
  · exact fun extra shuffled foreign same => MarketDataRequest.ofJson_of_perm foreign same
  · intro request other same
    have read := request.ofJson_toJson
    rw [same, other.ofJson_toJson] at read
    exact (Except.ok.inj read).symm
  · intro provider delivery
    refine ⟨Provider.ofJson_toJson delivery provider, fun json trimmed => ?_⟩
    induction trimmed with
    | refl => exact Provider.ofJson_toJson delivery provider
    | tail _ trims read => exact Provider.ofJson_trims trims read

/-- A request among members that another variant would need, last member first; and a provider
without live sources whose first listing is empty. -/
theorem wire_round_trip_rearranged :
    let request : MarketDataRequest := .latestHistorical "DEFAULT"
    let extra : List (String × Json) := [("date", .null), ("source", .string "X"), ("date", .null)]
    let shuffled : List (String × Json) :=
      [("date", .null), ("source", .string "X"), ("date", .null),
        ("resolverKey", .string "DEFAULT"), ("marketDataType", .string "latestHistorical")]
    let provider : Provider := { snapshots := [[], ["EOD"]], resolverConfig := ["A|KEY"] }
    let trimmed : Json := .object
      [("snapshots", .array [.object [],
          .object [("snapshots", .array [.object [("name", .string "EOD")]])]]),
        ("resolver-config", .array [.string "A|KEY"])]
    (∀ member ∈ extra, member.1 ≠ MarketDataRequest.tag ∧ member.1 ∉ request.variant.fields) ∧
      shuffled.Perm (request.members ++ extra) ∧
      MarketDataRequest.ofJson (.object shuffled) = .ok request ∧
      Relation.ReflTransGen Provider.Trims provider.toJson trimmed ∧
      Provider.ofJson .streamed trimmed = .ok provider := by
  intro request extra shuffled provider trimmed
  have foreign : ∀ member ∈ extra,
      member.1 ≠ MarketDataRequest.tag ∧ member.1 ∉ request.variant.fields := by
    simp [extra, request, MarketDataRequest.tag, MarketDataRequest.variant,
      MarketDataRequest.Variant.fields]
  have backwards : shuffled.Perm (request.members ++ extra) :=
    List.reverse_perm (request.members ++ extra)
  obtain ⟨requests, -, providers⟩ := wire_round_trip
  obtain ⟨-, members, written, rearranged⟩ := requests request
  rw [request.toJson_eq, Json.object.injEq] at written
  have whole : Provider.Trims provider.toJson _ := .member [] _ "live" (by decide)
  have listing : Provider.Trims _ trimmed := .listing [] _ [] _ [] []
  have trims := (Relation.ReflTransGen.single whole).tail listing
  exact ⟨foreign, backwards, rearranged extra shuffled foreign (written ▸ backwards), trims,
    (providers provider .streamed).2 trimmed trims⟩

end QueryMenu
