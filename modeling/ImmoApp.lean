import ImmoApp.Offline.Arrivals
import ImmoApp.Offline.Coalescing
import ImmoApp.Offline.Corruption
import ImmoApp.Offline.Deletions
import ImmoApp.Offline.Overlay
import ImmoApp.Offline.References
import ImmoApp.Offline.Stranded
import ImmoApp.Idempotency.ClientCreate
import ImmoApp.Idempotency.Sanitizing
import ImmoApp.Idempotency.Tampering
import ImmoApp.Crm.AleRotation
import ImmoApp.Crm.Articles
import ImmoApp.Crm.Restores
import ImmoApp.Crm.SyncPages
import ImmoApp.Matching.CountWrites
import ImmoApp.Matching.Flush
import ImmoApp.Matching.OfferRebuilds
import ImmoApp.Matching.ReadResults
import ImmoApp.Matching.Rebuilds
import ImmoApp.Matching.RuntimeProfile
import ImmoApp.Matching.Scans
import ImmoApp.Matching.Scores
import ImmoApp.Matching.WilayaCounts
import ImmoApp.Imports.BundlePrepare
import ImmoApp.Imports.ConflictIsolation
import ImmoApp.Imports.FinalCounts
import ImmoApp.Imports.Leases
import ImmoApp.Imports.Loads
import ImmoApp.Imports.Messages
import ImmoApp.Imports.Payloads
import ImmoApp.Imports.ReviewApply
import ImmoApp.Imports.ReviewCounters
import ImmoApp.Imports.ReviewSubmit
import ImmoApp.Imports.ReviewTasks
import ImmoApp.Imports.ReviewTotals
import ImmoApp.Imports.TaskAttempts
import ImmoApp.Normalizers.Rows
import ImmoApp.Accounts.Deliveries
import ImmoApp.Accounts.Elevation
import ImmoApp.Accounts.Lockout
import ImmoApp.Accounts.Outbox
import ImmoApp.Accounts.TokenExclusivity
import ImmoApp.Api.HalfOpen
import ImmoApp.Api.Notifications
import ImmoApp.Api.ServerPages
import ImmoApp.Caching.Accounting
import ImmoApp.Caching.OwnWrites
import ImmoApp.Leases.RebuildLeases
import ImmoApp.Leases.Scheduler
import ImmoApp.Leases.StreamSlots
import ImmoApp.Storage.Buckets
import ImmoApp.Storage.Lifecycle
import ImmoApp.Storage.Quota
import ImmoApp.Throttling.PairedQuota
import ImmoApp.Throttling.TokenBucket
