import Passage.Clock
import Passage.Crypto.Base64
import Passage.Crypto.Hmac
import Passage.Crypto.Sha256
import Passage.Dialect
import Passage.Fault
import Passage.Flow.Device
import Passage.Flow.Line
import Passage.Flow.Pipe
import Passage.Flow.Talk
import Passage.Hop.Chain
import Passage.Hop.Custody
import Passage.Hop.JumpHost
import Passage.Hop.Plan
import Passage.Hop.Proxy
import Passage.Hop.Sharing
import Passage.Hop.Socks
import Passage.Hop.SocksCalls
import Passage.Hop.Ssh
import Passage.Hop.State
import Passage.Hop.Usage
import Passage.Json
import Passage.Json.Document
import Passage.Json.Value
import Passage.Listener
import Passage.Listener.Tokens
import Passage.Login.Connection
import Passage.Login.Driver
import Passage.Login.Exchange
import Passage.Login.Phase
import Passage.Login.Session
import Passage.Login.Transcript
import Passage.Negotiation.Connect
import Passage.Negotiation.Journal
import Passage.Negotiation.Request
import Passage.Negotiation.Settings
import Passage.Negotiation.Transit
import Passage.Net.Endpoint
import Passage.Net.IoFault
import Passage.Net.IpLiteral
import Passage.Number
import Passage.Number.Binary64
import Passage.Number.Shortest
import Passage.Proofs.Entry.Cancelling
import Passage.Proofs.Entry.FirstFailure
import Passage.Proofs.Entry.Generations
import Passage.Proofs.Entry.HangingUp
import Passage.Proofs.Entry.Leftovers
import Passage.Proofs.Entry.Record
import Passage.Proofs.Entry.Relaying
import Passage.Proofs.Entry.Sessions
import Passage.Proofs.Flow.Hearing
import Passage.Proofs.Flow.Sealing
import Passage.Proofs.Hop.Attribution
import Passage.Proofs.Hop.Counting
import Passage.Proofs.Hop.Histories
import Passage.Proofs.Hop.Holding
import Passage.Proofs.Hop.Mirroring
import Passage.Proofs.Hop.Outlining
import Passage.Proofs.Hop.Pacing
import Passage.Proofs.Hop.Registering
import Passage.Proofs.Hop.Releasing
import Passage.Proofs.Hop.Remembering
import Passage.Proofs.Hop.Returning
import Passage.Proofs.Hop.Service
import Passage.Proofs.Hop.Stopping
import Passage.Proofs.Hop.Threading
import Passage.Proofs.Hop.TurningAway
import Passage.Proofs.Hop.Verdicts
import Passage.Proofs.Login.Acceptance
import Passage.Proofs.Login.Authorities
import Passage.Proofs.Login.Certificates
import Passage.Proofs.Login.Conversations
import Passage.Proofs.Login.Counts
import Passage.Proofs.Login.Dismissal
import Passage.Proofs.Login.Messages
import Passage.Proofs.Login.Notices
import Passage.Proofs.Login.Objections
import Passage.Proofs.Login.Parameters
import Passage.Proofs.Login.Reads
import Passage.Proofs.Login.Speech
import Passage.Proofs.Login.Stalling
import Passage.Proofs.Login.Upgrade
import Passage.Proofs.Negotiation.Accounts
import Passage.Proofs.Negotiation.Attempt
import Passage.Proofs.Negotiation.Blame
import Passage.Proofs.Negotiation.Deadline
import Passage.Proofs.Negotiation.Endings
import Passage.Proofs.Negotiation.LastAttempt
import Passage.Proofs.Negotiation.Probing
import Passage.Proofs.Negotiation.Recording
import Passage.Proofs.Negotiation.Redirection
import Passage.Proofs.Negotiation.ReportedMode
import Passage.Proofs.Negotiation.Surfacing
import Passage.Proofs.Scram.Challenge
import Passage.Proofs.Scram.Escaping
import Passage.Proofs.Scram.Interop
import Passage.Proofs.Scram.Signature
import Passage.Proofs.Target.Agreeing
import Passage.Proofs.Target.Asking
import Passage.Proofs.Target.Composing
import Passage.Proofs.Target.Concealment
import Passage.Proofs.Target.Dialling
import Passage.Proofs.Target.Hiding
import Passage.Proofs.Target.Layout
import Passage.Proofs.Target.Moving
import Passage.Proofs.Target.Refusal
import Passage.Proofs.Target.Resolving
import Passage.Proofs.Target.Splicing
import Passage.Proofs.Text.Decoding
import Passage.Proofs.Text.Quoting
import Passage.Proofs.Wire.Bounds
import Passage.Proofs.Wire.Framing
import Passage.Proofs.Wire.Segmentation
import Passage.Proofs.Wire.Writing
import Passage.Rehearsal.Authority
import Passage.Rehearsal.Database
import Passage.Rehearsal.Dialogue
import Passage.Rehearsal.Echo
import Passage.Rehearsal.Entry
import Passage.Rehearsal.Network
import Passage.Rehearsal.Pair
import Passage.Rehearsal.Route
import Passage.Rehearsal.Script
import Passage.Rehearsal.SocksHop
import Passage.Rehearsal.SshServer
import Passage.Report.Log
import Passage.Report.Metric
import Passage.Scram.Client
import Passage.Scram.Messages
import Passage.Scram.Primitives
import Passage.Spelling
import Passage.SslMode
import Passage.Target.Options
import Passage.Target.Sanitized
import Passage.Target.Settings
import Passage.Target.Uri
import Passage.Text.Alphanumeric
import Passage.Text.Blank
import Passage.Text.Numeral
import Passage.Text.Quoted
import Passage.Text.Ranges
import Passage.Text.Split
import Passage.Text.Unprintable
import Passage.Text.Utf8
import Passage.Tls.Options
import Passage.Tls.Pem
import Passage.Tls.ServerName
import Passage.Tls.Settings
import Passage.Wire.Intake
import Passage.Wire.Packet
import Passage.Wire.Reply
