namespace QueryMenu

/-! The texts that the menus show and compare against. -/

structure AggregationLabels where
  /-- Stands before the rendered query on the menu's button. -/
  leadIn : String := "Aggregated by"
  /-- The word between consecutive aggregators. -/
  joiner : String := "then"
  /-- The selector text that means "no aggregator chosen". -/
  placeholder : String := "select aggregation type..."
deriving DecidableEq, Repr

structure DataSourceLabels where
  joiner : String := "then"
  typePlaceholder : String := "select type..."
  sourcePlaceholder : String := "select data source..."
  /-- The text of a custom-date button without a date. -/
  customLabel : String := "Custom"
  /-- The pattern by which version dates are read. -/
  dateFormat : String := "%Y-%m-%d"
deriving DecidableEq, Repr

structure Labels where
  aggregation : AggregationLabels := {}
  dataSources : DataSourceLabels := {}
deriving DecidableEq, Repr

/-! The value of a selector: its placeholder, which means "nothing chosen yet", or a
real value. -/

inductive Choice (α : Type) where
  | placeholder
  | value (chosen : α)
deriving DecidableEq, Repr

namespace Choice

/-- Reads a control's raw text.  The empty text and the placeholder's own text both
mean that nothing is chosen. -/
def ofControl (text placeholder : String) : Choice String :=
  if text = placeholder ∨ text = "" then .placeholder else .value text

def ofOption {α : Type} : Option α → Choice α
  | none => .placeholder
  | some chosen => .value chosen

def toOption {α : Type} : Choice α → Option α
  | .placeholder => none
  | .value chosen => some chosen

def isPlaceholder {α : Type} : Choice α → Bool
  | .placeholder => true
  | .value _ => false

def map {α β : Type} (f : α → β) : Choice α → Choice β
  | .placeholder => .placeholder
  | .value chosen => .value (f chosen)

end Choice

end QueryMenu
