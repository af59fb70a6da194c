import NoxIngestor.AtMostOnce
import NoxIngestor.Buffering
import NoxIngestor.Chain.Bisection
import NoxIngestor.Chain.Capped
import NoxIngestor.Cursor
import NoxIngestor.FaultFree
import NoxIngestor.Flushing
import NoxIngestor.Iterations
import NoxIngestor.Liveness
import NoxIngestor.Nats.PemBundle
import NoxIngestor.Overload
import NoxIngestor.Pausing
import NoxIngestor.Persistence.Durability
import NoxIngestor.Persistence.Host
import NoxIngestor.Persistence.Refinement
import NoxIngestor.Recovery
import NoxIngestor.Republication
import NoxIngestor.Resumption
import NoxIngestor.Shutdown
import NoxIngestor.StreamContents
import NoxIngestor.Translation
