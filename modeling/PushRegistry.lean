import PushRegistry.Main
import PushRegistry.Proofs.Client.SingleExchange
import PushRegistry.Proofs.Registry.Registrations
import PushRegistry.Proofs.Url.Addressing
import PushRegistry.Proofs.Url.Authority
import PushRegistry.Proofs.Url.Interpolation
import PushRegistry.Session
import PushRegistry.Proofs.Registry.Changes
import PushRegistry.Proofs.Registry.History
import PushRegistry.Proofs.Json.Consumes
import PushRegistry.Proofs.Json.Strings
import PushRegistry.Proofs.Decimal.Digits
import PushRegistry.Proofs.Json.Integers
import PushRegistry.Proofs.Json.Lists
import PushRegistry.Proofs.Json.Documents
import PushRegistry.Proofs.Json.Members
import PushRegistry.Proofs.Json.Layout
import PushRegistry.Proofs.Json.Printers
import PushRegistry.Proofs.Json.Records
import PushRegistry.Proofs.Json.Skip
import PushRegistry.Proofs.Json.AnyOrder
import PushRegistry.Proofs.ErrorText
import PushRegistry.Proofs.Http.Encoding
import PushRegistry.Proofs.WireFormat
import PushRegistry.Proofs.Client.Answered
import PushRegistry.Proofs.Client.FailedResponse
import PushRegistry.Proofs.Registry.Routing
import PushRegistry.Proofs.Url.Base
import PushRegistry.Proofs.Registry.Directory
import PushRegistry.Proofs.Registry.Payload
import PushRegistry.Proofs.Registry.Keeping
import PushRegistry.Proofs.Registry.Replies
import PushRegistry.Proofs.Refinement
import PushRegistry.Proofs.Registry.Effects
import PushRegistry.Proofs.Registry.Counting
import PushRegistry.Proofs.Registry.Isolation
import PushRegistry.Proofs.Registry.Recipients
import PushRegistry.Proofs.Registry.Limits
import PushRegistry.Proofs.RoundTrip
import PushRegistry.Proofs.Replay
import PushRegistry.Proofs.Building
import PushRegistry.Proofs.Client.Classification
import PushRegistry.Proofs.Client.EventLog
import PushRegistry.Proofs.Json.Ensures
import PushRegistry.Proofs.Json.Returns
import PushRegistry.Proofs.CommandLine.Delegation
import PushRegistry.Proofs.CommandLine.OptionOrder
import PushRegistry.Proofs.Config.Fields
import PushRegistry.Proofs.Config.Assignments
import PushRegistry.Proofs.Config.Layering
import PushRegistry.Proofs.Config.TomlInteger
import PushRegistry.Proofs.Config.TomlString
import PushRegistry.Proofs.Config.HostText
import PushRegistry.Proofs.Config.Interruption
import PushRegistry.Proofs.Config.OneField
import PushRegistry.Proofs.Config.Ranges
import PushRegistry.Proofs.Decimal.Rounding
import PushRegistry.Proofs.Decimal.Numerals
import PushRegistry.Proofs.Text.Scan
import PushRegistry.Proofs.Json.Grammar
import PushRegistry.Proofs.Registry.Schema
import PushRegistry.Proofs.Json.Values
import PushRegistry.Proofs.DeviceText
import PushRegistry.Proofs.Json.Numerals
import PushRegistry.Proofs.Json.StringTexts
