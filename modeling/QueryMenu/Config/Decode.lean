import QueryMenu.Labels
import QueryMenu.Toml.Document
import QueryMenu.Toml.Readable

namespace QueryMenu

/-! Labels from a configuration document.

Every label may be left out and then keeps its stock text.  A section is a table of its
labels by name, or an array of its labels in order, of which any further items are
skipped.  Faults are looked for in the order of the names.
-/

namespace Section

/-- Members in the order of their names. -/
def byName (members : TomlTable) : TomlTable :=
  members.mergeSort fun left right => left.1 ≤ right.1

/-- A section's labels are texts, and it has no other members. -/
def record (names : List String) : Record Toml :=
  ⟨names.map fun name => Record.field name Toml.text, true⟩

/-- The labels that a section gives, under their names. -/
def members (title : String) (names : List String) : Toml → Except Misfit TomlTable
  | .table members => do
    (record names).check [] (byName members)
    return members
  | .array items => do
    let members := names.zip items
    (record names).check [] members
    return members
  | .datetime => .error (.unknownField Toml.datetimeName names)
  | value => value.refuse ("struct " ++ title)

end Section

namespace AggregationLabels

def names : List String :=
  ["prefix", "infix", "placeholder"]

def ofToml (value : Toml) : Except Misfit AggregationLabels := do
  let members ← Section.members "AggregationLabels" names value
  let stock : AggregationLabels := {}
  return {
    leadIn := ← Record.optional members "prefix" Toml.text stock.leadIn
    joiner := ← Record.optional members "infix" Toml.text stock.joiner
    placeholder := ← Record.optional members "placeholder" Toml.text stock.placeholder }

end AggregationLabels

namespace DataSourceLabels

def names : List String :=
  ["infix", "type-placeholder", "source-placeholder", "custom-label", "date-format"]

def ofToml (value : Toml) : Except Misfit DataSourceLabels := do
  let members ← Section.members "DataSourceLabels" names value
  let stock : DataSourceLabels := {}
  return {
    joiner := ← Record.optional members "infix" Toml.text stock.joiner
    typePlaceholder := ← Record.optional members "type-placeholder" Toml.text
      stock.typePlaceholder
    sourcePlaceholder := ← Record.optional members "source-placeholder" Toml.text
      stock.sourcePlaceholder
    customLabel := ← Record.optional members "custom-label" Toml.text stock.customLabel
    dateFormat := ← Record.optional members "date-format" Toml.text stock.dateFormat }

end DataSourceLabels

inductive ConfigError where
  | malformed
  | misfit (misfit : Misfit)
deriving DecidableEq, Repr

namespace Labels

def record : Record Toml :=
  ⟨[Record.field "aggregation" AggregationLabels.ofToml,
    Record.field "datasources" DataSourceLabels.ofToml], true⟩

def ofToml (document : TomlTable) : Except Misfit Labels := do
  record.check [] (Section.byName document)
  return {
    aggregation := ← Record.optional document "aggregation" AggregationLabels.ofToml {}
    dataSources := ← Record.optional document "datasources" DataSourceLabels.ofToml {} }

/-- The labels that a configuration text gives.  A number or a date without a meaning is a
fault of the text, unless the document fits all the same. -/
def parse (text : String) : Except ConfigError Labels :=
  match Toml.ofText? text with
  | none => .error .malformed
  | some document =>
    (ofToml document).mapError fun misfit =>
      if Toml.haveReadable document then .misfit misfit else .malformed

end Labels

end QueryMenu
