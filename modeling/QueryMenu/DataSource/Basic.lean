import QueryMenu.Calendar.Date
import QueryMenu.Entries.Basic
import QueryMenu.Text.Basic

namespace QueryMenu

/-! The families of market-data sources, and the texts that name them. -/

inductive SourceKind where
  | live
  | snapshot
  | historical
deriving DecidableEq, Repr

namespace SourceKind

def all : List SourceKind :=
  [.live, .snapshot, .historical]

def name : SourceKind → String
  | .live => "live"
  | .snapshot => "snapshot"
  | .historical => "historical"

/-- Reads a kind from a selector's text: white space around the name does not count,
and neither does the case of its ASCII letters. -/
def ofText? (text : String) : Option SourceKind :=
  let word := (Text.trim text.toList).map Char.toLower
  all.find? fun kind => kind.name.toList = word

def unknownMessage (text : String) : String :=
  "unknown source type '" ++ text ++ "'"

end SourceKind

/-! What a data-source row has chosen: a source, and possibly a date for it. -/

/-- The date of an entry.  Plain and correction dates are kept as they were entered. -/
inductive SourceDate where
  | plain (text : String)
  | version (date : Calendar.Date)
  | correction (text : String)
deriving DecidableEq

structure DataSource where
  kind : SourceKind
  source : String
  date : Option SourceDate := none
deriving DecidableEq

namespace DataSource

def label (chosen : DataSource) : String :=
  chosen.kind.name ++ ":" ++ chosen.source

def plainDate? (chosen : DataSource) : Option String :=
  match chosen.date with
  | some (.plain text) => some text
  | _ => none

def versionDate? (chosen : DataSource) : Option Calendar.Date :=
  match chosen.date with
  | some (.version date) => some date
  | _ => none

def correctionDate? (chosen : DataSource) : Option String :=
  match chosen.date with
  | some (.correction text) => some text
  | _ => none

/-- Choosing a source replaces the old one together with its date. -/
instance : Payload DataSource where
  label := label
  revise _ fresh := fresh

end DataSource

/-! What the menu asks the backend for. -/

inductive MarketDataRequest where
  | live (source : String)
  | snapshot (snapshotId : String)
  | latestHistorical (resolverKey : String)
  | fixedHistorical (date resolverKey : String)
deriving DecidableEq, Repr

/-- The request for a chosen source.  Of the dates only a plain one that is not empty
counts, and only for a historical source. -/
def MarketDataRequest.ofDataSource (chosen : DataSource) : MarketDataRequest :=
  match chosen.kind with
  | .live => .live chosen.source
  | .snapshot => .snapshot chosen.source
  | .historical =>
    match chosen.plainDate? with
    | some date =>
      if date = "" then .latestHistorical chosen.source else .fixedHistorical date chosen.source
    | none => .latestHistorical chosen.source

end QueryMenu
