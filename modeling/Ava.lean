import Ava.Core.Prelude
import Ava.Core.Json
import Ava.Core.StrictJson
import Ava.Session.Entry
import Ava.Session.AssistantOutput
import Ava.Session.Classify
import Ava.Session.AppendGuard
import Ava.Session.Record
import Ava.Lib.Framing
import Ava.Session.Read
import Ava.Session.Append
import Ava.Lib.Chunked
import Ava.Session.Recovery
import Ava.Lib.LineScan
import Ava.Session.Target
import Ava.Session.Latch
import Ava.Session.History
import Ava.Session.Reopen
import Ava.Session.Scripts
import Ava.Session.Coherence
import Ava.Session.CompareAndSwap
import Ava.Agent.ActiveContext
import Ava.Agent.Promotion
import Ava.Agent.SubagentCoordinator
import Ava.Agent.SubagentInspector
import Ava.App.RunController
import Ava.App.AppendTickets
import Ava.App.RunOutcomes
import Ava.App.InteractiveQueue
import Ava.Agent.SubagentResult
import Ava.App.SubagentDelivery
import Ava.App.DeliveryOnce
import Ava.Agent.SchedulerEpoch
import Ava.Agent.SchedulerEnds
import Ava.Agent.SchedulerRefines
import Ava.Command.Intent
import Ava.Command.Plan
import Ava.Command.Policy
import Ava.Command.Fingerprint
import Ava.Permissions.CommandDecision
import Ava.Core.Path
import Ava.Permissions.Rule
import Ava.Permissions.RuleMatching
import Ava.Permissions.CommandAuthority
import Ava.Permissions.RecipeKey
import Ava.Permissions.CommandClassifier
import Ava.Lib.LineFeed
import Ava.Provider.SseBuffer
import Ava.Lib.Table
import Ava.Provider.OpenAIStream
import Ava.Agent.AssistantTurn
import Ava.Provider.OpenAIResponse
import Ava.Provider.SseRecords
import Ava.Agent.StreamedMessage
import Ava.Agent.StreamedReasoning
import Ava.Agent.StreamedCall
import Ava.Agent.StreamedResponse
import Ava.Agent.BufferedResponse
import Ava.Agent.TurnEquivalence
import Ava.Lib.ParentForest
import Ava.Session.SessionTree
import Ava.Session.CommittedTurns
import Ava.App.RpcQueue
import Ava.Tools.Glob
