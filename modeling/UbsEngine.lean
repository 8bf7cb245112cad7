import UbsEngine.Library.Run
import UbsEngine.Library.Assoc
import UbsEngine.Debt.Index
import UbsEngine.Election.SplitBrain
import UbsEngine.Election.NodeEvents
import UbsEngine.Election.Term
import UbsEngine.Election.Cluster
import UbsEngine.Election.Vote
import UbsEngine.Scheduler.Overdraw
import UbsEngine.Scheduler.Classify
import UbsEngine.Scheduler.Fill
import UbsEngine.Scheduler.Radius
import UbsEngine.Scheduler.Registration
import UbsEngine.Serde.RoundTrip
import UbsEngine.Serde.Safety
import UbsEngine.Mem.Wire
import UbsEngine.Ipc.Accounting
import UbsEngine.Ipc.Responses
import UbsEngine.Ledger.DoubleEntry
import UbsEngine.Ledger.AgentDiff
import UbsEngine.Ledger.ExportCallback
import UbsEngine.Ledger.Invalidate
import UbsEngine.Ledger.Join
import UbsEngine.Fault.Apart
import UbsEngine.Fault.Leftover
import UbsEngine.Fault.Orphans
import UbsEngine.Fault.Release
import UbsEngine.ProcessMem.Quota
import UbsEngine.ProcessMem.Rebalance
import UbsEngine.ProcessMem.Amounts
import UbsEngine.ProcessMem.Pending
import UbsEngine.ProcessMem.Mirror
import UbsEngine.ProcessMem.Rearrange
import UbsEngine.PreOnline.Handles
import UbsEngine.PreOnline.Task
import UbsEngine.OverCommit.Optimal
import UbsEngine.Share.Accounting
import UbsEngine.Convert.LenderRequest
import UbsEngine.Convert.Agreement
import UbsEngine.Escape.ReturnMem
import UbsEngine.Ucache.Rollback
import UbsEngine.Fragment.BorrowExecute
import UbsEngine.Fragment.MultiBorrow
import UbsEngine.Fragment.Cover
import UbsEngine.Fault.Capacity
import UbsEngine.FaultWire.Store
import UbsEngine.FaultNode.GroupProcess
import UbsEngine.FaultNode.Allocate
import UbsEngine.FaultNode.Regroup
import UbsEngine.FaultNode.PidFaultRun
import UbsEngine.FaultNode.Reservation
import UbsEngine.Migrate.Rollback
import UbsEngine.FaultMemId.Adjust
import UbsEngine.FaultMemId.Marks
import UbsEngine.BatchBorrow.Coverage
import UbsEngine.Context.Lifecycle
import UbsEngine.Event.Drain
import UbsEngine.Ucache.Executable
import UbsEngine.Ucache.Apart
import UbsEngine.OverCommit.SingleNuma
import UbsEngine.OverCommit.Rebalance
import UbsEngine.Executor.Service
import UbsEngine.Log.Written
