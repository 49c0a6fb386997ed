import QueryMenu.DataSource.Fetch
import QueryMenu.Json.Decode

namespace QueryMenu

/-! The JSON forms of source kinds, requests and providers. -/

open Json (Delivery)

namespace SourceKind

def toJson (kind : SourceKind) : Json :=
  .string kind.name

def ofJson (delivery : Delivery) : Json → Except Misfit SourceKind :=
  Json.variant delivery (all.map fun kind => (kind.name, kind))

end SourceKind

namespace MarketDataRequest

/-- The member that names the variant of a request. -/
def tag : String := "marketDataType"

/-- A request is an object of its tag and its fields. -/
def toJson : MarketDataRequest → Json
  | .live source => .object [(tag, .string "live"), ("source", .string source)]
  | .snapshot snapshotId =>
    .object [(tag, .string "snapshot"), ("snapshotId", .string snapshotId)]
  | .latestHistorical resolverKey =>
    .object [(tag, .string "latestHistorical"), ("resolverKey", .string resolverKey)]
  | .fixedHistorical date resolverKey =>
    .object
      [(tag, .string "fixedHistorical"), ("date", .string date),
        ("resolverKey", .string resolverKey)]

inductive Variant where
  | live
  | snapshot
  | latestHistorical
  | fixedHistorical
deriving DecidableEq, Repr

namespace Variant

def variants : List (String × Variant) :=
  [("live", .live), ("snapshot", .snapshot), ("latestHistorical", .latestHistorical),
    ("fixedHistorical", .fixedHistorical)]

def ofJson : Json → Except Misfit Variant
  | .string name => Json.namedVariant variants name
  | value => value.refuse "variant identifier"

def fields : Variant → List String
  | .live => ["source"]
  | .snapshot => ["snapshotId"]
  | .latestHistorical => ["resolverKey"]
  | .fixedHistorical => ["date", "resolverKey"]

def record (variant : Variant) : Record Json :=
  ⟨variant.fields.map fun name => Record.field name Json.text, false⟩

/-- What a complete array of a variant would be. -/
def wholeArray : Variant → String
  | .live => "struct variant MarketDataRequest::Live with 1 element"
  | .snapshot => "struct variant MarketDataRequest::Snapshot with 1 element"
  | .latestHistorical => "struct variant MarketDataRequest::LatestHistorical with 1 element"
  | .fixedHistorical => "struct variant MarketDataRequest::FixedHistorical with 2 elements"

/-- Builds the request of a variant from a reader of its fields by place and name. -/
def build (variant : Variant) (read : Nat → String → Except Misfit String) :
    Except Misfit MarketDataRequest :=
  match variant with
  | .live => (read 0 "source").map .live
  | .snapshot => (read 0 "snapshotId").map .snapshot
  | .latestHistorical => (read 0 "resolverKey").map .latestHistorical
  | .fixedHistorical => do
    let date ← read 0 "date"
    let resolverKey ← read 1 "resolverKey"
    return .fixedHistorical date resolverKey

def ofMembers (variant : Variant) (members : List (String × Json)) :
    Except Misfit MarketDataRequest := do
  variant.record.check [] members
  variant.build fun _ name => Record.required members name Json.text

def ofItems (variant : Variant) (items : List Json) : Except Misfit MarketDataRequest := do
  let request ← variant.build fun place _ =>
    Json.requiredItem items place variant.wholeArray Json.text
  let count := variant.fields.length
  if items.length ≤ count then return request
  else .error (.wrongLength items.length
    (toString count ++ (if count = 1 then " element" else " elements") ++ " in sequence"))

end Variant

/-- Reads a request: an object in which the members may stand in any order and other
members are skipped, or an array of the tag and the fields. -/
def ofJson : Json → Except Misfit MarketDataRequest
  | .object members => do
    Record.check ⟨[Record.field tag Variant.ofJson], false⟩ [] members
    let variant ← Record.required members tag Variant.ofJson
    variant.ofMembers members
  | .array [] => .error (.missingField tag)
  | .array (name :: items) => do
    let variant ← Variant.ofJson name
    variant.ofItems items
  | value => value.refuse "internally tagged enum MarketDataRequest"

end MarketDataRequest

namespace Provider

/-- A named option is an object of its name. -/
def nameToJson (name : String) : Json :=
  .object [("name", .string name)]

def listingToJson (names : List String) : Json :=
  .object [("snapshots", .array (names.map nameToJson))]

def toJson (provider : Provider) : Json :=
  .object
    [("live", .array (provider.live.map nameToJson)),
      ("snapshots", .array (provider.snapshots.map listingToJson)),
      ("resolver-config", Json.ofTexts provider.resolverConfig)]

def nameOfJson (delivery : Delivery) : Json → Except Misfit String
  | .object members => do
    Record.check ⟨[Record.field "name" Json.text], false⟩ [] members
    Record.required members "name" Json.text
  | .array items => do
    let name ← Json.requiredItem items 0 "struct NamedSource with 1 element" Json.text
    Json.noFurtherItems delivery items 1
    return name
  | value => value.refuse "struct NamedSource"

def namesOfJson (delivery : Delivery) : Json → Except Misfit (List String) :=
  Json.list (nameOfJson delivery)

def listingOfJson (delivery : Delivery) : Json → Except Misfit (List String)
  | .object members => do
    Record.check ⟨[Record.field "snapshots" (namesOfJson delivery)], false⟩ [] members
    Record.optional members "snapshots" (namesOfJson delivery) []
  | .array items => do
    let names ← Json.optionalItem items 0 (namesOfJson delivery) []
    Json.noFurtherItems delivery items 1
    return names
  | value => value.refuse "struct SnapshotListing"

/-- The members of a provider, each of which may be absent. -/
def record (delivery : Delivery) : Record Json :=
  ⟨[Record.field "live" (namesOfJson delivery),
    Record.field "snapshots" (Json.list (listingOfJson delivery)),
    Record.field "resolver-config" (Json.list Json.text)], false⟩

def ofJson (delivery : Delivery) : Json → Except Misfit Provider
  | .object members => do
    (record delivery).check [] members
    return {
      live := ← Record.optional members "live" (namesOfJson delivery) []
      snapshots := ← Record.optional members "snapshots" (Json.list (listingOfJson delivery)) []
      resolverConfig := ← Record.optional members "resolver-config" (Json.list Json.text) [] }
  | .array items => do
    let provider : Provider := {
      live := ← Json.optionalItem items 0 (namesOfJson delivery) []
      snapshots := ← Json.optionalItem items 1 (Json.list (listingOfJson delivery)) []
      resolverConfig := ← Json.optionalItem items 2 (Json.list Json.text) [] }
    Json.noFurtherItems delivery items 3
    return provider
  | value => value.refuse "struct StaticSourceProvider"

end Provider

end QueryMenu
