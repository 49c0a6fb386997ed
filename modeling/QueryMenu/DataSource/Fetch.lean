import QueryMenu.DataSource.Basic
import QueryMenu.Rows

namespace QueryMenu

/-! Where the options of a source selector come from.

The menu fetches nothing itself: choosing a kind queues a ticket, and the host later
delivers the options, or the failure, for it.
-/

inductive BackendError where
  | unavailable (reason : String)
  /-- There is no snapshot listing to take the options from. -/
  | emptySnapshotListing
deriving DecidableEq, Repr

def BackendError.message : BackendError → String
  | .unavailable reason => "source list unavailable: " ++ reason
  | .emptySnapshotListing => "snapshot listing is empty"

/-- An awaited fetch for a row.  The generation tells apart the kinds chosen one after
the other on that row. -/
structure Ticket where
  row : RowId
  kind : SourceKind
  generation : Nat
deriving DecidableEq, Repr

/-- What a backend offers, held in memory. -/
structure Provider where
  live : List String := []
  /-- Snapshot listings, each a list of names. -/
  snapshots : List (List String) := []
  /-- Rating configurations, whose second field is a resolver key. -/
  resolverConfig : List String := []
deriving DecidableEq, Repr

/-- The resolver key of a rating configuration: the field after its first bar. -/
def resolverKey? (config : String) : Option String :=
  (Text.fields '|' config.toList)[1]?.map String.ofList

/-- The resolver keys of the configurations that have one. -/
def resolverKeys (configs : List String) : List String :=
  configs.filterMap resolverKey?

/-- The answers of a backend's three endpoints. -/
structure Endpoints where
  live : Except BackendError (List String)
  snapshots : Except BackendError (List (List String))
  resolverConfig : Except BackendError (List String)

namespace Endpoints

def ofProvider (provider : Provider) : Endpoints :=
  ⟨.ok provider.live, .ok provider.snapshots, .ok provider.resolverConfig⟩

def failing (error : BackendError) : Endpoints :=
  ⟨.error error, .error error, .error error⟩

/-- The options for a kind: live names, the names of the first snapshot listing, or
resolver keys. -/
def options (endpoints : Endpoints) : SourceKind → Except BackendError (List String)
  | .live => endpoints.live
  | .snapshot =>
    endpoints.snapshots.bind fun listings =>
      match listings with
      | [] => .error .emptySnapshotListing
      | listing :: _ => .ok listing
  | .historical => endpoints.resolverConfig.map resolverKeys

end Endpoints

end QueryMenu
