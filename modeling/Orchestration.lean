import Orchestration.Agent
import Orchestration.AgentProfile
import Orchestration.Call
import Orchestration.CallContext
import Orchestration.CallContext.Description
import Orchestration.Capability
import Orchestration.Capability.Analysis
import Orchestration.Capability.Calculator
import Orchestration.Capability.Catalogue
import Orchestration.Capability.ClassPath
import Orchestration.Capability.Clock
import Orchestration.Capability.Registry
import Orchestration.Capability.Scripted
import Orchestration.Capability.Transformation
import Orchestration.Chat
import Orchestration.Conversation
import Orchestration.Conversation.Overview
import Orchestration.Decimal.Binary
import Orchestration.Decimal.Fixed
import Orchestration.Decimal.Layout
import Orchestration.Decimal.Shortest
import Orchestration.Engine.AgentStore
import Orchestration.Engine.Agents
import Orchestration.Engine.Batch
import Orchestration.Engine.Boot
import Orchestration.Engine.Conversations
import Orchestration.Engine.Correspondence
import Orchestration.Engine.Execution
import Orchestration.Engine.Requests
import Orchestration.Engine.Status
import Orchestration.Engine.TaskStore
import Orchestration.Engine.Workflow
import Orchestration.Engine.World
import Orchestration.Fault
import Orchestration.Fault.Description
import Orchestration.Identifier
import Orchestration.Inference
import Orchestration.Inference.Adapter
import Orchestration.Inference.Choice
import Orchestration.Inference.Provider
import Orchestration.Inference.Scripted
import Orchestration.Inference.Scripted.Description
import Orchestration.Inspection
import Orchestration.Live
import Orchestration.Log.Message
import Orchestration.Log.Record
import Orchestration.Log.Scope
import Orchestration.Log.Sink
import Orchestration.Log.Size
import Orchestration.Moment
import Orchestration.Moment.Calendar
import Orchestration.Moment.Description
import Orchestration.Moment.Iso
import Orchestration.Moment.Part
import Orchestration.Moment.Pattern
import Orchestration.Moment.Reader
import Orchestration.Numeral
import Orchestration.Proofs.Run
import Orchestration.Reflection
import Orchestration.Routing
import Orchestration.Schema
import Orchestration.Schema.Issue
import Orchestration.Settings
import Orchestration.Settings.Dotenv
import Orchestration.Statistics
import Orchestration.Surroundings
import Orchestration.Sync.ReadWriteLock
import Orchestration.SystemStatus
import Orchestration.Table
import Orchestration.Task
import Orchestration.Template
import Orchestration.Text.Blank
import Orchestration.Text.Case
import Orchestration.Text.CaseTable
import Orchestration.Text.DecimalDigit
import Orchestration.Text.Path
import Orchestration.Text.Pieces
import Orchestration.Text.PrintableTable
import Orchestration.Text.Quoted
import Orchestration.Text.Ranges
import Orchestration.Text.Runs
import Orchestration.Text.Search
import Orchestration.Time
import Orchestration.Value
import Orchestration.Value.Access
import Orchestration.Value.Display
import Orchestration.Value.Json
import Orchestration.Value.JsonReader
import Orchestration.Workflow
import Orchestration.Proofs.Execution
import Orchestration.Proofs.Batch.Concurrent
import Orchestration.Proofs.Batch.Sequential
import Orchestration.Proofs.Identifier
import Orchestration.Proofs.Inference.Clients
import Orchestration.Proofs.Conversation.Sending
import Orchestration.Proofs.Conversation.Opening
import Orchestration.Proofs.Consistency
import Orchestration.Proofs.Operations
import Orchestration.Proofs.Session
import Orchestration.Proofs.Conversation.Lifecycle
import Orchestration.Proofs.Conversation.Correspondence
import Orchestration.Proofs.Conversation.Delegation
import Orchestration.Proofs.Outcome
import Orchestration.Proofs.Sync.Exclusion
import Orchestration.Proofs.Sync.Wakeup
import Orchestration.Proofs.Refusal
import Orchestration.Proofs.TaskRecord
import Orchestration.Proofs.Tasks.Law
import Orchestration.Proofs.Chronicle
import Orchestration.Proofs.Workflow.Steps
import Orchestration.Proofs.Workflow.Placeholders
import Orchestration.Proofs.Workflow.Routing
import Orchestration.Proofs.Registration
import Orchestration.Proofs.Work
import Orchestration.Proofs.Interaction
import Orchestration.Proofs.Conversation.Recollection
import Orchestration.Proofs.Cancellation.Onward
import Orchestration.Proofs.Cancellation.Gate
import Orchestration.Proofs.Cancellation.Drivers
import Orchestration.Proofs.Ground
import Orchestration.Proofs.Journal
import Orchestration.Proofs.Batch.Agreement
import Orchestration.Proofs.Inference.Streams
import Orchestration.Proofs.Impartial
import Orchestration.Proofs.Batch.OrderIndependence
import Orchestration.Proofs.Tasks.Ownership
import Orchestration.Proofs.Tasks.Statistics
import Orchestration.Proofs.Tasks.Conservation
import Orchestration.Proofs.Tasks.Listing
import Orchestration.Proofs.Tasks.Attribution
import Orchestration.Proofs.Inference.Failures
import Orchestration.Proofs.Inference.Containment
import Orchestration.Proofs.Collections
import Orchestration.Proofs.Conversation.Proceedings
import Orchestration.Proofs.Conversation.Figures
import Orchestration.Proofs.Conversation.Participation
import Orchestration.Proofs.ContextWindow
import Orchestration.Proofs.Memory
import Orchestration.Proofs.Scope
import Orchestration.Proofs.Conversation.Identity
import Orchestration.Proofs.Batch.Response
import Orchestration.Proofs.Inference.Calls
import Orchestration.Proofs.Template
import Orchestration.Proofs.Inference.Likeness
import Orchestration.Proofs.Inference.Results
import Orchestration.Proofs.Text.Search
import Orchestration.Proofs.Text.Letters
import Orchestration.Proofs.Text.Blank
import Orchestration.Proofs.Decimal.Digits
import Orchestration.Proofs.Routing.Selection
import Orchestration.Proofs.Routing.Reach
import Orchestration.Proofs.Log.Size
import Orchestration.Proofs.Value.Json
import Orchestration.Proofs.Log.Record
import Orchestration.Proofs.Log.Setup
import Orchestration.Proofs.Capability.Calculator
import Orchestration.Proofs.Capability.Keywords
import Orchestration.Proofs.Capability.ClassPath
import Orchestration.Proofs.Settings
