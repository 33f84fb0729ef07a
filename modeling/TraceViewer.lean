import TraceViewer.DirectSession
import TraceViewer.Sample
import TraceViewer.Simulation.Log
import TraceViewer.Simulation.Storm
import TraceViewer.Snapshot
import TraceViewer.Wire.Event
import TraceViewer.Proofs.Wire.RoundTrip
import TraceViewer.Proofs.Paging.Accounting
import TraceViewer.Proofs.Paging.WindowRequests
import TraceViewer.Proofs.Paging.AlignedHistory
import TraceViewer.Proofs.Paging.ExactAccounts
import TraceViewer.Proofs.Paging.LogMerges
import TraceViewer.Proofs.Paging.Exchange
import TraceViewer.Proofs.Paging.StrayAnswers
import TraceViewer.Proofs.Paging.ShortAnswers
import TraceViewer.Proofs.Paging.Promises
import TraceViewer.Proofs.Paging.ViewGeometry
import TraceViewer.Proofs.Simulation.Queue
import TraceViewer.Proofs.Simulation.Schedule
import TraceViewer.Proofs.Session.TimelineSteps
import TraceViewer.Proofs.Session.Marks
import TraceViewer.Proofs.Session.UserEvents
import TraceViewer.Proofs.Session.ScopeSteps
import TraceViewer.Proofs.Session.ScopeMarks
import TraceViewer.Proofs.Session.ReplyMarks
import TraceViewer.Proofs.Session.Settling
import TraceViewer.Proofs.Session.Backing
import TraceViewer.Proofs.Session.Geometry
import TraceViewer.Proofs.Simulation.ArchiveReplies
import TraceViewer.Proofs.Simulation.Backing
import TraceViewer.Proofs.Session.TimelinePromises
import TraceViewer.Proofs.Session.ScopePromises
import TraceViewer.Proofs.Session.Promises
import TraceViewer.Proofs.Session.Holdings
import TraceViewer.Proofs.Session.Coherence
import TraceViewer.Proofs.Session.CoherentReplies
import TraceViewer.Proofs.Session.CoherentEvents
import TraceViewer.Proofs.Simulation.Coherence
import TraceViewer.Proofs.Simulation.LostSlots
import TraceViewer.Proofs.Session.Refusals
import TraceViewer.Proofs.Session.TimelineEffort
import TraceViewer.Proofs.Session.ScopeEffort
import TraceViewer.Proofs.Session.Effort
import TraceViewer.Proofs.Simulation.Effort
import TraceViewer.Proofs.Simulation.Exhaustion
import TraceViewer.Proofs.Session.Assurance
import TraceViewer.Proofs.Session.Touching
import TraceViewer.Proofs.Session.Filling
import TraceViewer.Proofs.Simulation.Draining
import TraceViewer.Proofs.DirectSession.Mirror
import TraceViewer.Proofs.DirectSession.Rest
import TraceViewer.Proofs.Session.OriginRecord
import TraceViewer.Proofs.Simulation.Healing
import TraceViewer.Proofs.Session.Acceptance
import TraceViewer.Proofs.Session.InStep
import TraceViewer.Proofs.Simulation.Rejections
import TraceViewer.Proofs.Session.PageDemands
import TraceViewer.Proofs.Session.PageOrders
import TraceViewer.Proofs.Session.Selections
import TraceViewer.Proofs.Session.SequenceHistories
import TraceViewer.Proofs.Session.Wants
import TraceViewer.Proofs.Session.Commutation
import TraceViewer.Proofs.Paging.RepeatedBatches
import TraceViewer.Proofs.Session.RepeatedReplies
import TraceViewer.Proofs.Session.Redelivery
import TraceViewer.Proofs.Session.NamedData
import TraceViewer.Proofs.Session.Pursuit
import TraceViewer.Proofs.Session.AskedOnce
import TraceViewer.Proofs.Session.Responses
import TraceViewer.Proofs.Session.Tending
import TraceViewer.Proofs.Session.StickyLine
import TraceViewer.Proofs.Simulation.Dialogue
import TraceViewer.Proofs.Session.NearestInputs
import TraceViewer.Proofs.Session.FocusedInputs
import TraceViewer.Proofs.Session.AlertRecords
import TraceViewer.Proofs.Session.AlertJumps
import TraceViewer.Proofs.Session.PageStages
import TraceViewer.Proofs.Session.LateFailures
import TraceViewer.Proofs.Paging.BatchChecks
import TraceViewer.Proofs.Paging.PageTiling
import TraceViewer.Proofs.Session.FileContents
import TraceViewer.Proofs.Session.InactiveSessions
