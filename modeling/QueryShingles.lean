import QueryShingles.Main
import QueryShingles.Expanded.Reader
import QueryShingles.Expanded.Writer
import QueryShingles.Proofs.Pipeline
import QueryShingles.Proofs.Provenance
import QueryShingles.Proofs.UserShingles
import QueryShingles.Proofs.Handles
import QueryShingles.Proofs.Lasting
import QueryShingles.Proofs.ExpandedRoundTrip
import QueryShingles.Proofs.Segments
import QueryShingles.Proofs.Placement
import QueryShingles.Proofs.FirstFault
import QueryShingles.Proofs.LoadedSpots
import QueryShingles.Proofs.Recasting
import QueryShingles.Proofs.Routes
import QueryShingles.Proofs.Gating
import QueryShingles.Proofs.Idle
import QueryShingles.Proofs.PairCounts
import QueryShingles.Proofs.Words
import QueryShingles.Proofs.Readability
import QueryShingles.Proofs.Commuting
import QueryShingles.Proofs.LooseText
import QueryShingles.Proofs.StoredQuery
import QueryShingles.Proofs.Endings
import QueryShingles.Proofs.Levels
import QueryShingles.Proofs.CommandLine
import QueryShingles.Proofs.Settings
