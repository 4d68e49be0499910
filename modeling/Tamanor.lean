import Tamanor.Ai.CustomerProjectionProperties
import Tamanor.Db.CheckoutAttemptsProperties
import Tamanor.Db.ContactErasure
import Tamanor.Db.MetaIdentityDeletionProperties
import Tamanor.Db.OutboxBudget
import Tamanor.Db.OutboxTerminality
import Tamanor.Db.UsageSettlementProperties
import Tamanor.Sync.CredentialCutoverProperties
import Tamanor.Sync.HideBudgetProperties
import Tamanor.Sync.HideHistoryProperties
import Tamanor.Sync.HideRaceProperties
import Tamanor.Sync.HideConfiguration
import Tamanor.Sync.LeaseFencingProperties
import Tamanor.Sync.ReconnectRace
import Tamanor.Web.ActionQueueProperties
import Tamanor.Web.MobileOAuthProperties
import Tamanor.Web.ProposalsProperties
import Tamanor.Db.AuthTokensProperties
import Tamanor.Web.SafetySignalGatewayProperties
import Tamanor.Db.IntegrationAnswersProperties
import Tamanor.Db.IntegrationKeysProperties
import Tamanor.Db.CyberbullyingCaseProperties
import Tamanor.Db.SecurityDetectionProperties
import Tamanor.Sdk.SafetyClientProperties
import Tamanor.Db.FamilyIncidentVisibilityProperties
import Tamanor.Db.ExportManifestProperties
import Tamanor.Db.ComplianceChainProperties
import Tamanor.Db.RedactionControlProperties
import Tamanor.Web.StripeMapping
import Tamanor.Sync.MetaDispatch
import Tamanor.Db.ChildSafetyPolicyProperties
import Tamanor.Db.CriticalResponseProperties
import Tamanor.Db.BillingRepoProperties
import Tamanor.Ai.LexiconReach
import Tamanor.Core.MonitoringCaps
import Tamanor.Core.PolicyFingerprint
import Tamanor.Core.Csv
import Tamanor.Sync.LeadgenEnvelope
import Tamanor.Sync.LeadIdentity
import Tamanor.Web.QueueListing
import Tamanor.Sync.MeteredReplays
import Tamanor.Sync.FuseRuns
import Tamanor.Sync.SelfHeal
import Tamanor.Sync.RunTruth
import Tamanor.Core.RedactionInfluence
import Tamanor.Db.OutboxDedupe
import Tamanor.Sync.HeartbeatTolerance
import Tamanor.Core.RateLimiter
import Tamanor.Db.ChildSafetyEvidence
import Tamanor.Core.SafetySignalEnvelope
import Tamanor.Core.SignalEnvelope
import Tamanor.Core.RedactDeep
import Tamanor.Mobile.OAuthState
