import Discovery.Main
import Discovery.Json.Reader
import Discovery.Proofs.Membership
import Discovery.Proofs.Store.Merge
import Discovery.Proofs.Store.History
import Discovery.Proofs.Store.Replay
import Discovery.Proofs.Catalogue.Run
import Discovery.Proofs.Catalogue.Announcements
import Discovery.Proofs.Catalogue.Contents
import Discovery.Proofs.Decimal.Runs
import Discovery.Proofs.Net.Grammar
import Discovery.Proofs.Net.Announced
import Discovery.Proofs.Net.RoundTrip
import Discovery.Proofs.Mdns.Browses
import Discovery.Proofs.Mdns.Removals
import Discovery.Proofs.Mdns.OwnSession
import Discovery.Proofs.Mdns.Resolutions
import Discovery.Proofs.Clients.Order
import Discovery.Proofs.Catalogue.Keys
import Discovery.Proofs.Mdns.Wired
import Discovery.Proofs.Mdns.Mirror
import Discovery.Proofs.Clients.Schedule
import Discovery.Proofs.Service.Operations
import Discovery.Proofs.Catalogue.Locality
import Discovery.Proofs.Clients.Ending
import Discovery.Proofs.Clients.Shutdown
import Discovery.Proofs.Dispatcher.Lifecycle
import Discovery.Proofs.Service.AtRest
import Discovery.Proofs.Time.Advance
import Discovery.Proofs.Service.Maintenance
import Discovery.Proofs.Catalogue.Separation
import Discovery.Proofs.Subscribers.Reception
import Discovery.Proofs.Subscribers.Draining
import Discovery.Proofs.Clients.Resting
import Discovery.Proofs.Clients.Merging
import Discovery.Proofs.Clients.SerialScan
import Discovery.Proofs.Subscribers.Stream
import Discovery.Proofs.Json.Strings
import Discovery.Proofs.Fingerprint.Canonical
import Discovery.Proofs.Catalogue.Arrivals
import Discovery.Proofs.Clients.Reads
import Discovery.Proofs.Service.Requests
import Discovery.Proofs.Subscribers.EndOfStream
import Discovery.Proofs.Catalogue.Scans
import Discovery.Proofs.Time.Reach
import Discovery.Proofs.Catalogue.Overflow
import Discovery.Proofs.Time.Calendar
import Discovery.Proofs.Time.Written
import Discovery.Proofs.Json.Documents
import Discovery.Proofs.Record.RoundTrip
import Discovery.Proofs.Http.Frames
import Discovery.Proofs.Entries
import Discovery.Proofs.Backend.Construction
import Discovery.Proofs.Backend.Readiness
import Discovery.Proofs.Backend.Boards
import Discovery.Proofs.Config.Sections
import Discovery.Proofs.Toml.Distinct
import Discovery.Proofs.Config.Accepted
