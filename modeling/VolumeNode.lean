import VolumeNode.Attributes
import VolumeNode.Command
import VolumeNode.CommandLine.Fault
import VolumeNode.CommandLine.Invocation
import VolumeNode.CommandLine.Outcome
import VolumeNode.CommandLine.Parameter
import VolumeNode.CommandLine.Parser
import VolumeNode.CommandLine.Seconds
import VolumeNode.Config
import VolumeNode.Connection.Exchange
import VolumeNode.Connection.Lines
import VolumeNode.Decimal.Binary64
import VolumeNode.Decimal.Shortest
import VolumeNode.Duration
import VolumeNode.Errno
import VolumeNode.Execution.Course
import VolumeNode.Execution.Kernel
import VolumeNode.Execution.Loader
import VolumeNode.Execution.Query
import VolumeNode.Execution.Runner
import VolumeNode.Execution.Signal
import VolumeNode.Execution.Supervision
import VolumeNode.FileError
import VolumeNode.FileMode
import VolumeNode.Host.Basic
import VolumeNode.Host.Instances
import VolumeNode.Host.Listener
import VolumeNode.Host.Mounts
import VolumeNode.Host.Path
import VolumeNode.Host.Step
import VolumeNode.Host.Tasks
import VolumeNode.Host.Tree
import VolumeNode.Json.Fault
import VolumeNode.Json.Number
import VolumeNode.Json.Printer
import VolumeNode.Json.Reader
import VolumeNode.Json.Record
import VolumeNode.Json.Structure
import VolumeNode.Json.Text
import VolumeNode.Json.Value
import VolumeNode.Main
import VolumeNode.Mount.Flags
import VolumeNode.Mount.Options
import VolumeNode.Mount.SystemCall
import VolumeNode.Node.Action
import VolumeNode.Node.Image
import VolumeNode.Node.Lifecycle
import VolumeNode.Node.Locks
import VolumeNode.Node.Target
import VolumeNode.Program
import VolumeNode.Proofs.Calls.Absence
import VolumeNode.Proofs.Calls.Failures
import VolumeNode.Proofs.Calls.Machine
import VolumeNode.Proofs.Calls.Procedure
import VolumeNode.Proofs.Calls.Publishing
import VolumeNode.Proofs.Calls.Questions
import VolumeNode.Proofs.Calls.Responses
import VolumeNode.Proofs.Calls.Transcript
import VolumeNode.Proofs.Calls.Unpublishing
import VolumeNode.Proofs.CommandLine.FileModes
import VolumeNode.Proofs.CommandLine.Levels
import VolumeNode.Proofs.Concurrent.Calls
import VolumeNode.Proofs.Concurrent.Contention
import VolumeNode.Proofs.Concurrent.Discipline
import VolumeNode.Proofs.Concurrent.Once
import VolumeNode.Proofs.Concurrent.Places
import VolumeNode.Proofs.Concurrent.Quiet
import VolumeNode.Proofs.Concurrent.Record
import VolumeNode.Proofs.Concurrent.Sequence
import VolumeNode.Proofs.Concurrent.Serial
import VolumeNode.Proofs.Concurrent.Stage
import VolumeNode.Proofs.Concurrent.Surroundings
import VolumeNode.Proofs.Concurrent.Turns
import VolumeNode.Proofs.Concurrent.Undisturbed
import VolumeNode.Proofs.Connection.Service
import VolumeNode.Proofs.Execution.Processes
import VolumeNode.Proofs.Execution.Verdicts
import VolumeNode.Proofs.Json.Locality
import VolumeNode.Proofs.Json.Meaning
import VolumeNode.Proofs.Json.Requests
import VolumeNode.Proofs.Json.Responses
import VolumeNode.Proofs.Locks.Exclusion
import VolumeNode.Proofs.Locks.Upkeep
import VolumeNode.Proofs.Mounts.Attempts
import VolumeNode.Proofs.Mounts.Binding
import VolumeNode.Proofs.Mounts.Cleanup
import VolumeNode.Proofs.Mounts.Conditions
import VolumeNode.Proofs.Mounts.FaultyHost
import VolumeNode.Proofs.Mounts.KernelCalls
import VolumeNode.Proofs.Mounts.Lifetime
import VolumeNode.Proofs.Mounts.Options
import VolumeNode.Proofs.Mounts.ReadOnly
import VolumeNode.Proofs.Mounts.Retry
import VolumeNode.Proofs.Mounts.Rollback
import VolumeNode.Proofs.Shell.Values
import VolumeNode.Proofs.Text.Encoding
import VolumeNode.Request
import VolumeNode.Request.Wire
import VolumeNode.Response
import VolumeNode.Response.Wire
import VolumeNode.Shell.Arithmetic
import VolumeNode.Shell.Builtin
import VolumeNode.Shell.Condition
import VolumeNode.Shell.Field
import VolumeNode.Shell.Interpreter
import VolumeNode.Shell.Pattern
import VolumeNode.Shell.Reader
import VolumeNode.Shell.Script
import VolumeNode.Shell.Session
import VolumeNode.Shell.State
import VolumeNode.Text.Blank
import VolumeNode.Text.Lowercase
import VolumeNode.Text.Octets
import VolumeNode.Text.Pieces
import VolumeNode.Text.Printable
import VolumeNode.Text.Quoted
import VolumeNode.Text.Utf8
import VolumeNode.Utility.Basic
import VolumeNode.Utility.Files
import VolumeNode.Utility.Format
import VolumeNode.Utility.Programs
import VolumeNode.Utility.Streams
import VolumeNode.VolumeError
