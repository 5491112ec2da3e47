import EventLog.Main
import EventLog.Trace.Subscriber
import EventLog.Proofs.Trace.Recording
import EventLog.Proofs.Command.Diagnostics
import EventLog.Proofs.Disk.Naming
import EventLog.Proofs.Disk.Opening
import EventLog.Proofs.Frame.Grammar
import EventLog.Proofs.Disk.Parents
import EventLog.Proofs.Disk.Soundness
import EventLog.Proofs.Connection.Reading
import EventLog.Proofs.Disk.Changes
import EventLog.Proofs.Connection.Opening
import EventLog.Proofs.Query
import EventLog.Proofs.Connection.Writing
import EventLog.Proofs.Connection.Failing
import EventLog.Proofs.FileLog.Binding
import EventLog.Proofs.Session
import EventLog.Proofs.Session.Reading
import EventLog.Proofs.Session.Lost
import EventLog.Proofs.Session.Writing
import EventLog.Proofs.FileLog.Failing
import EventLog.Proofs.Session.Refusing
import EventLog.Proofs.Codec.Compact
import EventLog.Proofs.Json.Syntax
import EventLog.Proofs.Json.Quoting
import EventLog.Proofs.Json.Scanning
import EventLog.Proofs.Session.Sharing
import EventLog.Proofs.Json.Assembly
import EventLog.Proofs.Json.Numbers
import EventLog.Proofs.Disk.Footprint
import EventLog.Proofs.FileLog.Footprint
import EventLog.Proofs.Session.Confinement
import EventLog.Proofs.Session.Answers
import EventLog.Proofs.Frame.Cutting
import EventLog.Proofs.Session.Survival
import EventLog.Proofs.Session.Recovery
import EventLog.Proofs.Session.Holding
import EventLog.Proofs.Codec.Layout
import EventLog.Proofs.Codec.Spelling
import EventLog.Proofs.Codec.Decoding
import EventLog.Proofs.Trace.Entry
import EventLog.Proofs.Event.Filling
import EventLog.Proofs.Command
import EventLog.Proofs.Connection.Framing
import EventLog.Proofs.Connection.Streaming
import EventLog.Proofs.Pool
import EventLog.Proofs.Pool.Answers
import EventLog.Proofs.Pool.Reuse
import EventLog.Proofs.Window
import EventLog.Proofs.Calendar.Reading
import EventLog.Proofs.Trace.Setup
import EventLog.Proofs.Trace.Installing
