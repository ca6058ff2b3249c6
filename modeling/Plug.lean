import Plug.SubscriptionRelease
import Plug.DisabledTools
import Plug.AccessWatches
import Plug.BreakerInterleaving
import Plug.ContinuationUse
import Plug.ConsentBounds
import Plug.RegistrationRate
import Plug.OauthRevocation
import Plug.OauthAtomicity
import Plug.OauthReplay
import Plug.TaskTermination
import Plug.TaskOwners
import Plug.TaskIsolation
import Plug.SseRetention
import Plug.Quotas
import Plug.KeySpellings
import Plug.LegacyRequests
import Plug.WatchChanges
import Plug.EventReopening
import Plug.MetadataBudget
import Plug.WatchUnsubscribe
import Plug.SecretRotation
import Plug.SlackIngestion
import Plug.SlackIdentity
import Plug.SerialUpdates
import Plug.ServersOff
import Plug.TaskGenerations
import Plug.ListingOrder
import Plug.HealthMachine
import Plug.StickyAuth
import Plug.CarriedListings
import Plug.EnvExpansion
import Plug.ImportDuplicates
import Plug.WorkingSets
import Plug.RuleRenaming
import Plug.ChunkAssembly
import Plug.IpcRoundTrip
import Plug.MuxOrder
import Plug.SharedOnce
import Plug.ReplayAgreement
import Plug.RegistryAgreement
import Plug.SanitizedNames
import Plug.SecretFile
import Plug.StoredKeys
import Plug.LegacySseDelivery
import Plug.MirroredHeaders
import Plug.SessionWiring
import Plug.SessionLeftovers
import Plug.ActivityPolling
import Plug.GracePeriod
import Plug.ConfigWatcher
import Plug.FanOutRuns
import Plug.HttpCalls
import Plug.ClientLinks
import Plug.DaemonRuns
import Plug.OpenApiNames
import Plug.ResourceTemplates
import Plug.SkillUris
import Plug.SpilledAttachments
import Plug.CredentialCalls
import Plug.TomlUnlinking
import Plug.Supervision
import Plug.OauthDisk
