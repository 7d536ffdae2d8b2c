import MasterOfFiles.TransitionSystem
import MasterOfFiles.LinkTable
import MasterOfFiles.StorageDisk
import MasterOfFiles.StorageOperations
import MasterOfFiles.StorageRequests
import MasterOfFiles.StorageFailedWrites
import MasterOfFiles.StorageAllocation
import MasterOfFiles.StorageDeduplication
import MasterOfFiles.StorageEffects
import MasterOfFiles.StorageCommitContents
import MasterOfFiles.StorageTagging
import MasterOfFiles.StorageImmutability
import MasterOfFiles.StorageConsistency
import MasterOfFiles.StorageFailedCommits
import MasterOfFiles.StorageBitmap
import MasterOfFiles.StorageRefinement
import MasterOfFiles.StorageReservations
import MasterOfFiles.StorageGrowth
import MasterOfFiles.StorageBitmapThreads
import MasterOfFiles.StorageWriteThreads
import MasterOfFiles.WorkerMemoryManager
import MasterOfFiles.WorkerPaging
import MasterOfFiles.WorkerPagingSteps
import MasterOfFiles.FlatStore
import MasterOfFiles.WorkerReplacement
import MasterOfFiles.CircularScan
import MasterOfFiles.WorkerClock
import MasterOfFiles.WorkerVictims
import MasterOfFiles.WorkerMemoryViews
import MasterOfFiles.MasterHandlers
import MasterOfFiles.WorkerThreads
import MasterOfFiles.WorkerAssignments
import MasterOfFiles.MasterTables
import MasterOfFiles.MasterEffects
import MasterOfFiles.Cluster
import MasterOfFiles.WorkerTokens
import MasterOfFiles.ClusterTokens
import MasterOfFiles.MasterMatching
import MasterOfFiles.MasterScheduling
import MasterOfFiles.MasterIdleWorkers
import MasterOfFiles.EventLog
import MasterOfFiles.MasterHistory
import MasterOfFiles.MasterReadyOrder
import MasterOfFiles.MasterRuns
import MasterOfFiles.MasterFailedDispatch
import MasterOfFiles.LockOrder
import MasterOfFiles.MasterLocks
import MasterOfFiles.MasterConnections
import MasterOfFiles.MasterSockets
import MasterOfFiles.MasterRecipients
import MasterOfFiles.MasterCommands
import MasterOfFiles.MasterHandshakes
import MasterOfFiles.MasterAcknowledgements
import MasterOfFiles.StorageErrorCharging
import MasterOfFiles.ClusterAnswers
import MasterOfFiles.ClusterPreemption
import MasterOfFiles.WorkerPreemption
import MasterOfFiles.WorkerInterpreter
import MasterOfFiles.WorkerFrames
import MasterOfFiles.WorkerSearches
import MasterOfFiles.WorkerMigration
import MasterOfFiles.ByteStrings
import MasterOfFiles.Serialization
import MasterOfFiles.SerializationRoundTrip
import MasterOfFiles.PackageReading
import MasterOfFiles.MessageFormats
import MasterOfFiles.MessageAgreement
import MasterOfFiles.StorageSoundIndex
import MasterOfFiles.WorkerLru
import MasterOfFiles.WorkerFailedInstructions
import MasterOfFiles.WorkerTruncation
import MasterOfFiles.MasterAging
import MasterOfFiles.BufferGrowth
import MasterOfFiles.BufferReading
import MasterOfFiles.WorkerFetching
import MasterOfFiles.DecimalText
import MasterOfFiles.WorkerDecoding
import MasterOfFiles.StorageMetadataFiles
import MasterOfFiles.StorageLocks
import MasterOfFiles.MessageWidths
import MasterOfFiles.ReadDelivery
import MasterOfFiles.WorkerStaleVictims
import MasterOfFiles.SharedStorageRuns
import MasterOfFiles.ClusterReadOrder
import MasterOfFiles.StorageSharing
import MasterOfFiles.WorkerStackDistance
import MasterOfFiles.WiredStorage
import MasterOfFiles.TicketQueue
import MasterOfFiles.MasterFifo
import MasterOfFiles.ClusterFifo
