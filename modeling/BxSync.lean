import BxSync.Theorems.CacheWalk
import BxSync.Theorems.Frame
import BxSync.Theorems.ContactPrune
import BxSync.Theorems.InvoicePrune
import BxSync.Theorems.Phases
import BxSync.Theorems.MissedLoad
import BxSync.Theorems.Drift
import BxSync.Theorems.Reconnect
import BxSync.Theorems.Resume
import BxSync.Theorems.CacheTable
import BxSync.Theorems.Positions
import BxSync.Theorems.Checksum
import BxSync.Theorems.RefreshOnce
import BxSync.Theorems.CacheRefines
import BxSync.Theorems.PruneAtomic
import BxSync.Theorems.WalkResume
import BxSync.Theorems.FaultFree
import BxSync.Theorems.QueueConserved
import BxSync.Theorems.GrantOrder
import BxSync.Theorems.RealPages
import BxSync.Theorems.Cascade
import BxSync.Theorems.GroupsComplete
import BxSync.Theorems.HtmlDecode
import BxSync.Theorems.Hydration
import BxSync.Theorems.Outage
import BxSync.Theorems.EnsureResult
import BxSync.Theorems.LockDiscipline
import BxSync.Theorems.FetchRetry
import BxSync.Theorems.Reload
import BxSync.Theorems.EmptyBody
import BxSync.Theorems.StandbyFollows
import BxSync.Theorems.Shutdown
import BxSync.Theorems.InvoiceIdempotence
import BxSync.Theorems.OAuthCalls
import BxSync.Theorems.ArchivedFlag
import BxSync.Theorems.CursorCodec
import BxSync.Theorems.ParameterNames
import BxSync.Theorems.UpsertAlignment
import BxSync.Theorems.CommentIdentity
import BxSync.Theorems.SectorSweep
import BxSync.Theorems.NumberReaders
import BxSync.Theorems.UuidPaths
import BxSync.Theorems.IntRuns
import BxSync.Theorems.RateLimitLine
import BxSync.Theorems.PacedSleep
import BxSync.Theorems.ConfOverlay
import BxSync.Theorems.PathTemplate
import BxSync.Theorems.UrlText
import BxSync.Theorems.PercentRound
import BxSync.Theorems.Rollover
import BxSync.Theorems.LogOrder
import BxSync.Theorems.QueryValue
import BxSync.Theorems.Strays
import BxSync.Theorems.Convergence
import BxSync.Theorems.FileConvergence
import BxSync.Theorems.ProjectConvergence
import BxSync.Theorems.QueryStatement
import BxSync.Theorems.QueryRows
import BxSync.Theorems.RowPrograms
import BxSync.Theorems.RecordsApart
import BxSync.Theorems.RecordsProgress
import BxSync.Theorems.LoginOutcome
import BxSync.Theorems.MirrorRows
