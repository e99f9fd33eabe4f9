import DemandPaging.Session.Run
import DemandPaging.Session.Stores
import DemandPaging.Proofs.Accounting
import DemandPaging.Proofs.FailedAttempts
import DemandPaging.Proofs.FailedInstalls
import DemandPaging.Proofs.FlatMaps
import DemandPaging.Proofs.FourLevelLaws
import DemandPaging.Proofs.FreeOrder
import DemandPaging.Proofs.InterruptedLoads
import DemandPaging.Proofs.KernelStores
import DemandPaging.Proofs.LifeCycles
import DemandPaging.Proofs.Logging
import DemandPaging.Proofs.PinCounts
import DemandPaging.Proofs.PinnedRanges
import DemandPaging.Proofs.Progress
import DemandPaging.Proofs.ReadBack
import DemandPaging.Proofs.Reclaiming
import DemandPaging.Proofs.Safety
import DemandPaging.Proofs.SegmentPages
import DemandPaging.Proofs.SlotOwners
import DemandPaging.Proofs.SwapSizing
import DemandPaging.Proofs.Unregistering
import DemandPaging.Proofs.UserCopies
import DemandPaging.Proofs.Verdicts
