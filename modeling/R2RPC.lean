import R2RPC.AccessToken.MonthlyUsage
import R2RPC.AccessToken.Quota
import R2RPC.AppAudit.Contract
import R2RPC.AppAudit.JavaScriptSnapshots
import R2RPC.AppAudit.KotlinSnapshots
import R2RPC.Audit.Address
import R2RPC.Audit.Columns
import R2RPC.Audit.Interceptor
import R2RPC.Cache.Finality
import R2RPC.Devices.Rows
import R2RPC.Gateway.Capacity
import R2RPC.Gateway.Fragmentation
import R2RPC.Gateway.Heartbeats
import R2RPC.Gateway.Isolation
import R2RPC.Gateway.Reconnect
import R2RPC.Gateway.ResultFrames
import R2RPC.Gateway.ScopeChange
import R2RPC.Gateway.Selection
import R2RPC.Gateway.SlotLeak
import R2RPC.JavaScriptDevice.Jobs
import R2RPC.JavaScriptDevice.Lifecycle
import R2RPC.KotlinDevice.AuthenticationClose
import R2RPC.KotlinDevice.Jobs
import R2RPC.KotlinDevice.Offline
import R2RPC.Lists.Queries
import R2RPC.Metrics.Accounting
import R2RPC.Metrics.ConcurrentRebuild
import R2RPC.Metrics.Projection
import R2RPC.Metrics.Retention
import R2RPC.Metrics.Trend
import R2RPC.Metrics.Trimming
import R2RPC.Metrics.Windows
import R2RPC.NulBytes.Requests
import R2RPC.Rbac.Escalation
import R2RPC.Rbac.Invalidation
import R2RPC.Reconnect.JavaScript
import R2RPC.RequestLog.PayloadState
import R2RPC.Rpc.Answers
import R2RPC.Rpc.CallLog
import R2RPC.Rpc.Timeouts
import R2RPC.TokenScope.Replacement
import R2RPC.Ws.RelayDelivery
import R2RPC.Callers.Handshake
import R2RPC.Library.JsonHops
import R2RPC.Lists.Options
import R2RPC.Rbac.Login
import R2RPC.Rpc.Transport
import R2RPC.Rpc.TypedJobs
import R2RPC.Search.Documents
import R2RPC.Search.Schema
