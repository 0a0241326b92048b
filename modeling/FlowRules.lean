import FlowRules.Address.Ipv4
import FlowRules.Address.Mac
import FlowRules.Address.Prefix
import FlowRules.Condition.Basic
import FlowRules.Condition.Clause
import FlowRules.Condition.Lint
import FlowRules.Condition.Text
import FlowRules.ConfigError
import FlowRules.Crc32
import FlowRules.Encoding
import FlowRules.Eval.Context
import FlowRules.Eval.Matching
import FlowRules.FlowMatch.Basic
import FlowRules.FlowMatch.Digest
import FlowRules.FlowMatch.Key
import FlowRules.FlowMatch.OfPacket
import FlowRules.FlowSig
import FlowRules.Identifier
import FlowRules.Json.Basic
import FlowRules.Json.Parser
import FlowRules.Json.Printer
import FlowRules.Json.Stored
import FlowRules.Json.Token
import FlowRules.Layout.Basic
import FlowRules.Layout.Document
import FlowRules.Layout.Members
import FlowRules.Layout.Stored
import FlowRules.Log
import FlowRules.Packet
import FlowRules.Postcard.Stored
import FlowRules.Postcard.Varint
import FlowRules.Proofs.Address.Mac
import FlowRules.Proofs.Address.Number
import FlowRules.Proofs.Address.Prefix
import FlowRules.Proofs.Address.Reading
import FlowRules.Proofs.Address.Text
import FlowRules.Proofs.Condition.Respelling
import FlowRules.Proofs.Condition.Satisfiable
import FlowRules.Proofs.Condition.Signs
import FlowRules.Proofs.Condition.Unconditional
import FlowRules.Proofs.Condition.Wording
import FlowRules.Proofs.Crc32.Bursts
import FlowRules.Proofs.Eval.Calls
import FlowRules.Proofs.Eval.Direction
import FlowRules.Proofs.Eval.Egress
import FlowRules.Proofs.Eval.Failure
import FlowRules.Proofs.Eval.History
import FlowRules.Proofs.Eval.ReadModes
import FlowRules.Proofs.Eval.RuleOrder
import FlowRules.Proofs.Eval.Traffic
import FlowRules.Proofs.Eval.Verdict
import FlowRules.Proofs.FlowMatch.Checksum
import FlowRules.Proofs.FlowMatch.Complete
import FlowRules.Proofs.FlowMatch.Digest
import FlowRules.Proofs.FlowMatch.History
import FlowRules.Proofs.FlowMatch.Sharing
import FlowRules.Proofs.FlowMatch.Signature
import FlowRules.Proofs.Json.Lexing
import FlowRules.Proofs.Json.Parsing
import FlowRules.Proofs.Json.RoundTrip
import FlowRules.Proofs.Json.Spelling
import FlowRules.Proofs.Layout.Encodings
import FlowRules.Proofs.Layout.ReadWrite
import FlowRules.Proofs.Layout.Reordering
import FlowRules.Proofs.Layout.Sifting
import FlowRules.Proofs.Layout.Unchecked
import FlowRules.Proofs.Layout.WellFormed
import FlowRules.Proofs.Postcard.RoundTrip
import FlowRules.Proofs.Report.Columns
import FlowRules.Proofs.Report.Condition
import FlowRules.Proofs.Ron.Lexing
import FlowRules.Proofs.Ron.Parsing
import FlowRules.Proofs.Ron.RoundTrip
import FlowRules.Proofs.Rules.History
import FlowRules.Proofs.Rules.PrefixLengths
import FlowRules.Proofs.Table.Filling
import FlowRules.Proofs.Table.Ordered
import FlowRules.Proofs.Text.ByteOrder
import FlowRules.Proofs.Text.Identifier
import FlowRules.Proofs.Text.Numeral
import FlowRules.Proofs.Text.Pieces
import FlowRules.Proofs.Text.Written
import FlowRules.Proofs.Toml.Lines
import FlowRules.Proofs.Toml.Quoting
import FlowRules.Proofs.Toml.RoundTrip
import FlowRules.Proofs.Toml.Tables
import FlowRules.Proofs.Tracking.BothDirections
import FlowRules.Proofs.Tracking.Classification
import FlowRules.Proofs.Tracking.Expiry
import FlowRules.Proofs.Tracking.Key
import FlowRules.Proofs.Tracking.Lifetime
import FlowRules.Proofs.Tracking.Separation
import FlowRules.Proofs.Tracking.Serial
import FlowRules.Proofs.Tracking.Signature
import FlowRules.Proofs.Tracking.Sweeping
import FlowRules.Proofs.Tracking.Workers
import FlowRules.Protocol
import FlowRules.Report.Columns
import FlowRules.Report.Condition
import FlowRules.Report.FlowMatch
import FlowRules.Ron.Basic
import FlowRules.Ron.Parser
import FlowRules.Ron.Place
import FlowRules.Ron.Printer
import FlowRules.Ron.Stored
import FlowRules.Ron.Token
import FlowRules.Rules.Error
import FlowRules.Rules.RuleSet
import FlowRules.Rules.Store
import FlowRules.Table
import FlowRules.Text.CharSet
import FlowRules.Text.Numeral
import FlowRules.Text.Pieces
import FlowRules.Text.Printable
import FlowRules.Text.Steps
import FlowRules.Text.Utf8
import FlowRules.Text.Width
import FlowRules.Text.WordChar
import FlowRules.Toml.Basic
import FlowRules.Toml.Parser
import FlowRules.Toml.Printer
import FlowRules.Toml.Quoted
import FlowRules.Toml.Scalar
import FlowRules.Toml.Stored
import FlowRules.Toml.Tree
import FlowRules.Tracking.Cache
import FlowRules.Tracking.Doubles
import FlowRules.Tracking.ExpiringCache
import FlowRules.Tracking.Future
import FlowRules.Tracking.Lock
import FlowRules.Tracking.Time
import FlowRules.Word
