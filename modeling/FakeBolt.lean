import FakeBolt.AwaitProgram
import FakeBolt.UniqueTable
import FakeBolt.GeoSet
import FakeBolt.GuardedRun
import FakeBolt.JsRuntime
import FakeBolt.UuidType
import FakeBolt.KafkaMessages
import FakeBolt.DriverService
import FakeBolt.AvailablePool
import FakeBolt.MatchingService
import FakeBolt.RideService
import FakeBolt.DriverMachine
import FakeBolt.DriverRequests
import FakeBolt.PoolRowInvariant
import FakeBolt.DriverOnRide
import FakeBolt.StatusChanges
import FakeBolt.HandlerRetries
import FakeBolt.InterruptedWrites
import FakeBolt.LateRedelivery
import FakeBolt.PoolSchedules
import FakeBolt.MatchingDelivery
import FakeBolt.Redelivery
import FakeBolt.ClaimedDrivers
import FakeBolt.RideRequests
import FakeBolt.RideHistory
import FakeBolt.RideFares
import FakeBolt.DispatchSystem
import FakeBolt.LiveAssignments
import FakeBolt.BusyDrivers
import FakeBolt.StatusNews
import FakeBolt.OnlineAssignments
import FakeBolt.AwaitTriples
import FakeBolt.MarkupTags
import FakeBolt.ReceiptMarkup
import FakeBolt.EmailService
import FakeBolt.ReceiptBookkeeping
import FakeBolt.AwaitInterleaving
import FakeBolt.ReceiptStages
import FakeBolt.ReceiptInterleaving
import FakeBolt.ProfileService
import FakeBolt.PhotoAttempts
import FakeBolt.AwaitFootprints
import FakeBolt.PhotoUploads
import FakeBolt.PhotoIsolation
import FakeBolt.PhotoIntegrity
import FakeBolt.PhotoConfirmation
import FakeBolt.PhotoFlagSync
import FakeBolt.DriverFaults
import FakeBolt.DriverIds
import FakeBolt.DriverSpellings
import FakeBolt.RideIds
import FakeBolt.DispatchSpellings
import FakeBolt.ReadThenWrite
import FakeBolt.DriverCalls
import FakeBolt.DriverRace
import FakeBolt.AssignmentRaces
import FakeBolt.PhotoRaces
import FakeBolt.PingViews
import FakeBolt.PingRaces
import FakeBolt.ReceiptRows
import FakeBolt.PartitionedLog
import FakeBolt.RideOrder
import FakeBolt.GatewayService
import FakeBolt.GatewayIdentity
import FakeBolt.IsoDates
import FakeBolt.JsonObjects
import FakeBolt.ReceiptHistory
import FakeBolt.RideToHistory
import FakeBolt.PercentEncoding
import FakeBolt.UrlPaths
import FakeBolt.DriverRoutes
import FakeBolt.DriverForwarding
import FakeBolt.DeclinedDrivers
import FakeBolt.ProjectedRuns
import FakeBolt.DriverIndependence
import FakeBolt.AwaitGuarantees
import FakeBolt.NotificationService
import FakeBolt.RideTraffic
import FakeBolt.RideSpellings
import FakeBolt.RideAudience
import FakeBolt.PoolRefusals
import FakeBolt.PolarPositions
import FakeBolt.Linearization
import FakeBolt.AtomicRegistry
import FakeBolt.AuthService
import FakeBolt.AccountRegistry
import FakeBolt.AccountRuns
import FakeBolt.Base64Url
import FakeBolt.JsonText
import FakeBolt.WebTokens
import FakeBolt.BearerTokens
import FakeBolt.AwaitEmbedding
import FakeBolt.RiderService
import FakeBolt.Seeding
import FakeBolt.SeededProfiles
import FakeBolt.NotificationSockets
import FakeBolt.AssignmentOrigins
import FakeBolt.RideNotices
import FakeBolt.ReceiptRecipients
import FakeBolt.DriverEvents
import FakeBolt.AwaitCredits
import FakeBolt.PoolEntries
import FakeBolt.Unwinding
import FakeBolt.GatewayPhotos
import FakeBolt.RideOutcomes
import FakeBolt.RemainingWork
import FakeBolt.SettledRides
import FakeBolt.AwaitTwoRuns
import FakeBolt.AuthEndpoints
import FakeBolt.PasswordSecrecy
