import RpcBoundary.Call.Handler
import RpcBoundary.Call.Stack
import RpcBoundary.Main
import RpcBoundary.Proofs.Activity
import RpcBoundary.Proofs.Attaching
import RpcBoundary.Proofs.BareText
import RpcBoundary.Proofs.CallHandler
import RpcBoundary.Proofs.CallLog
import RpcBoundary.Proofs.CallTrace
import RpcBoundary.Proofs.Context
import RpcBoundary.Proofs.Diagnosis
import RpcBoundary.Proofs.Disclosure
import RpcBoundary.Proofs.Documents
import RpcBoundary.Proofs.Erasure
import RpcBoundary.Proofs.FirstLink
import RpcBoundary.Proofs.FullText
import RpcBoundary.Proofs.Ground
import RpcBoundary.Proofs.Horizon
import RpcBoundary.Proofs.Installation
import RpcBoundary.Proofs.Joining
import RpcBoundary.Proofs.LogFrame
import RpcBoundary.Proofs.MilestoneSet
import RpcBoundary.Proofs.Naming
import RpcBoundary.Proofs.Nesting
import RpcBoundary.Proofs.OkCode
import RpcBoundary.Proofs.Passthrough
import RpcBoundary.Proofs.Priority
import RpcBoundary.Proofs.RecordedCode
import RpcBoundary.Proofs.Report
import RpcBoundary.Proofs.RequestId
import RpcBoundary.Proofs.Selection
import RpcBoundary.Proofs.Stack
import RpcBoundary.Proofs.Switches
import RpcBoundary.Settings.Decode
