import QueryMenu.DataSource.Wire
import QueryMenu.Json.Reader

namespace QueryMenu.Replay

/-! Scripts of user interactions with both menus. -/

open Json (Delivery)

inductive MenuName where
  | aggregation
  | dataSources
deriving DecidableEq, Repr

def MenuName.variants : List (String × MenuName) :=
  [("aggregation", .aggregation), ("datasources", .dataSources)]

inductive ActionKind where
  | toggle
  | addRow
  | deleteRow
  | choose
  | require
  | chooseKind
  | chooseSource
  | enterDate
  | useLatestDate
deriving DecidableEq, Repr

namespace ActionKind

def variants : List (String × ActionKind) :=
  [("toggle", .toggle), ("add-row", .addRow), ("delete-row", .deleteRow), ("select", .choose),
    ("required", .require), ("select-type", .chooseKind), ("select-source", .chooseSource),
    ("custom-date", .enterDate), ("latest-date", .useLatestDate)]

def title : ActionKind → String
  | .toggle => "Toggle"
  | .addRow => "AddRow"
  | .deleteRow => "DeleteRow"
  | .choose => "Select"
  | .require => "Required"
  | .chooseKind => "SelectType"
  | .chooseSource => "SelectSource"
  | .enterDate => "CustomDate"
  | .useLatestDate => "LatestDate"

end ActionKind

/-- One interaction.  Rows are addressed by their position at the time. -/
structure Step where
  menu : MenuName
  action : ActionKind
  position : Option Nat := none
  value : Option String := none
  checked : Option Bool := none
deriving DecidableEq, Repr

structure Script where
  /-- The aggregators that the aggregation menu offers. -/
  aggregators : List String := []
  /-- The data behind the source selectors. -/
  provider : Provider := {}
  /-- Whether the resolver keys are fetched before the first step. -/
  prefetchResolverKeys : Bool := false
  steps : List Step
deriving DecidableEq, Repr

namespace Step

def menuOfJson : Json → Except Misfit MenuName :=
  Json.variant .streamed MenuName.variants

def actionOfJson : Json → Except Misfit ActionKind :=
  Json.variant .streamed ActionKind.variants

def record : Record Json :=
  ⟨[Record.field "menu" menuOfJson, Record.field "control" actionOfJson,
    Record.field "position" (Json.orNull Json.index), Record.field "value" (Json.orNull Json.text),
    Record.field "checked" (Json.orNull Json.flag)], true⟩

/-- What a complete array of a step would be. -/
def wholeArray : String := "struct Step with 5 elements"

def ofJson : Json → Except Misfit Step
  | .object members => do
    record.check [] members
    return {
      menu := ← Record.required members "menu" menuOfJson
      action := ← Record.required members "control" actionOfJson
      position := ← Record.optional members "position" (Json.orNull Json.index) none
      value := ← Record.optional members "value" (Json.orNull Json.text) none
      checked := ← Record.optional members "checked" (Json.orNull Json.flag) none }
  | .array items => do
    let step : Step := {
      menu := ← Json.requiredItem items 0 wholeArray menuOfJson
      action := ← Json.requiredItem items 1 wholeArray actionOfJson
      position := ← Json.optionalItem items 2 (Json.orNull Json.index) none
      value := ← Json.optionalItem items 3 (Json.orNull Json.text) none
      checked := ← Json.optionalItem items 4 (Json.orNull Json.flag) none }
    Json.noFurtherItems .streamed items 5
    return step
  | value => value.refuse "struct Step"

end Step

inductive ScriptError where
  | malformed
  | misfit (misfit : Misfit)
deriving DecidableEq, Repr

namespace Script

def providerOfJson : Json → Except Misfit Provider :=
  Provider.ofJson .streamed

def record : Record Json :=
  ⟨[Record.field "aggregators" (Json.list Json.text), Record.field "provider" providerOfJson,
    Record.field "prefetch-resolver-keys" Json.flag,
    Record.field "steps" (Json.list Step.ofJson)], true⟩

def ofJson : Json → Except Misfit Script
  | .object members => do
    record.check [] members
    return {
      aggregators := ← Record.optional members "aggregators" (Json.list Json.text) []
      provider := ← Record.optional members "provider" providerOfJson {}
      prefetchResolverKeys := ← Record.optional members "prefetch-resolver-keys" Json.flag false
      steps := ← Record.required members "steps" (Json.list Step.ofJson) }
  | .array items => do
    let script : Script := {
      aggregators := ← Json.optionalItem items 0 (Json.list Json.text) []
      provider := ← Json.optionalItem items 1 providerOfJson {}
      prefetchResolverKeys := ← Json.optionalItem items 2 Json.flag false
      steps := ← Json.requiredItem items 3 "struct Script with 4 elements"
        (Json.list Step.ofJson) }
    Json.noFurtherItems .streamed items 4
    return script
  | value => value.refuse "struct Script"

/-- Reads the text of a script.  An unreadable part is a fault of the text, unless the
script skips it. -/
def parse (text : String) : Except ScriptError Script :=
  match Json.skim? text with
  | none => .error .malformed
  | some value =>
    (ofJson value).mapError fun misfit =>
      if value.isReadable then .misfit misfit else .malformed

end Script

end QueryMenu.Replay
