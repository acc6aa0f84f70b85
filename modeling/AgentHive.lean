import AgentHive.Llm.ReservationBound
import AgentHive.Llm.ChatSettlement
import AgentHive.Llm.StreamSettlement
import AgentHive.Llm.ProviderBlame
import AgentHive.Llm.UsageRecords
import AgentHive.Llm.BudgetConcurrency
import AgentHive.Llm.RouterPlan
import AgentHive.Services.BudgetAdmin
import AgentHive.Services.AdminSafety
import AgentHive.Services.PrimaryDepartments
import AgentHive.Services.Escalation
import AgentHive.Services.TokenRights
import AgentHive.Llm.ThresholdAlerts
import AgentHive.Services.ModuleOperations
import AgentHive.Services.DocumentCount
import AgentHive.Services.StuckDocuments
import AgentHive.Services.DeletedDocuments
import AgentHive.Services.McpService
import AgentHive.Rag.Router
import AgentHive.Rag.CacheTransparency
import AgentHive.Rag.Embeddings
import AgentHive.Services.ChatContents
import AgentHive.Services.AgentContext
import AgentHive.Services.AgentConcurrency
import AgentHive.Services.LicenseRecords
import AgentHive.Services.Departments
import AgentHive.Services.LoginThrottle
import AgentHive.Services.ArchivedOutputs
import AgentHive.Services.MediaCostCenters
import AgentHive.Services.PollMarkers
import AgentHive.Services.OutputDownload
import AgentHive.Services.WidgetPoll
import AgentHive.Services.WidgetSignatures
import AgentHive.Services.LicenseIssuance
import AgentHive.Llm.PolicyMonotone
import AgentHive.Services.RateLimit
import AgentHive.Services.ConversationKeys
import AgentHive.Services.SecretRotation
import AgentHive.Services.EventStream
import AgentHive.Services.InstallIdentity
import AgentHive.Llm.AcceptedTarget
import AgentHive.Services.MemoryDocuments
import AgentHive.Services.ConsoleRuns
import AgentHive.Services.ChannelSecrets
import AgentHive.Llm.StreamedText
import AgentHive.Llm.ConnectionRelease
import AgentHive.Llm.PriceOverrides
import AgentHive.Knowledge.ChunkText
import AgentHive.Knowledge.FullTextSearch
import AgentHive.Services.VectorRetrieval
import AgentHive.Media.ProviderResults
import AgentHive.Services.CustomerServiceGraph
import AgentHive.Services.SettlementRuns
import AgentHive.Services.UsageTotals
import AgentHive.Services.ChatExport
import AgentHive.Services.ChannelTokens
import AgentHive.Media.Planning
import AgentHive.Services.KnowledgeTenants
