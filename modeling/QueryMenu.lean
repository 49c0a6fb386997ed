import QueryMenu.Main
import QueryMenu.Proofs.DataSource.Deliveries
import QueryMenu.Proofs.DataSource.Tickets
import QueryMenu.Proofs.Ending
import QueryMenu.Proofs.Entries.Canonical
import QueryMenu.Proofs.Entries.Column
import QueryMenu.Proofs.Entries.Renumbering
import QueryMenu.Proofs.Independence
import QueryMenu.Proofs.Lifecycle.Listeners
import QueryMenu.Proofs.Replay.Idle
import QueryMenu.Proofs.Replay.Interleaving
import QueryMenu.Proofs.Replay.Prefetching
import QueryMenu.Proofs.Replay.Stopping
import QueryMenu.Proofs.Clearing
import QueryMenu.Proofs.DataSource.Queues
import QueryMenu.Proofs.Aggregation.Renewal
import QueryMenu.Proofs.DataSource.Renewal
import QueryMenu.Proofs.DataSource.Reset
import QueryMenu.Proofs.Reset
import QueryMenu.Proofs.Entries.Rendering
import QueryMenu.Proofs.Rows.Runs
import QueryMenu.Proofs.DataSource.Wire
import QueryMenu.Proofs.DataSource.ResolverKeys
import QueryMenu.Proofs.DataSource.KindSelector
import QueryMenu.Proofs.Config.Sections
