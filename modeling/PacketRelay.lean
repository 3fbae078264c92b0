import PacketRelay.Abi.Decoding
import PacketRelay.Abi.Encoding
import PacketRelay.Abi.Parameter
import PacketRelay.Abi.Signature
import PacketRelay.Abi.Type
import PacketRelay.Abi.TypeName
import PacketRelay.Account
import PacketRelay.Binary64
import PacketRelay.Bytes
import PacketRelay.Cancellation
import PacketRelay.Cancellation.Registry
import PacketRelay.Chain
import PacketRelay.Checksum
import PacketRelay.Command.Arguments
import PacketRelay.Command.Run
import PacketRelay.Config.Environment
import PacketRelay.Config.Error
import PacketRelay.Config.Load
import PacketRelay.Config.Reading
import PacketRelay.Config.Settings
import PacketRelay.Curve.Secp256k1
import PacketRelay.Decimal
import PacketRelay.Delivery.Error
import PacketRelay.Delivery.Pricing
import PacketRelay.Delivery.Replacement
import PacketRelay.Delivery.Submission
import PacketRelay.Digest.Keccak
import PacketRelay.Digest.Sha256
import PacketRelay.Discovery.Error
import PacketRelay.Discovery.Event
import PacketRelay.Discovery.Scan
import PacketRelay.Discovery.Window
import PacketRelay.Document
import PacketRelay.Document.Reader
import PacketRelay.Document.Records
import PacketRelay.Endpoint
import PacketRelay.Fee
import PacketRelay.FileTree
import PacketRelay.Hex
import PacketRelay.HostName
import PacketRelay.HostName.Punycode
import PacketRelay.HostName.Spelling
import PacketRelay.Json.Number
import PacketRelay.Json.Parser
import PacketRelay.Json.Printer
import PacketRelay.Node
import PacketRelay.Packet
import PacketRelay.Path
import PacketRelay.Revert.Artifact
import PacketRelay.Revert.Catalog
import PacketRelay.Revert.Definition
import PacketRelay.Revert.Rendering
import PacketRelay.Rlp
import PacketRelay.Scripted
import PacketRelay.Secret
import PacketRelay.Session
import PacketRelay.Storage.Backend
import PacketRelay.Storage.Checkpoint
import PacketRelay.Storage.Error
import PacketRelay.Text.Blank
import PacketRelay.Text.Utf8
import PacketRelay.Toml.Parser
import PacketRelay.Toml.Quoted
import PacketRelay.Toml.Scalar
import PacketRelay.Toml.Table
import PacketRelay.Transaction
import PacketRelay.Unicode.BidiClass
import PacketRelay.Unicode.Composition
import PacketRelay.Unicode.Joining
import PacketRelay.Unicode.Mark
import PacketRelay.Unicode.Table
import PacketRelay.Url
import PacketRelay.Main
import PacketRelay.Proofs.Files.Tree
import PacketRelay.Proofs.Files.Folder
import PacketRelay.Proofs.Files.Extension
import PacketRelay.Proofs.Files.Growth
import PacketRelay.Proofs.Storage.Writing
import PacketRelay.Proofs.Storage.Record
import PacketRelay.Proofs.Storage.Checkpoint
import PacketRelay.Proofs.Storage.Operations
import PacketRelay.Proofs.Storage.Stopped
import PacketRelay.Proofs.Storage.Restart
import PacketRelay.Proofs.Revert.Catalog
import PacketRelay.Proofs.Revert.Loading
import PacketRelay.Proofs.Revert.History
import PacketRelay.Proofs.Revert.Failure
import PacketRelay.Proofs.Discovery.Call
import PacketRelay.Proofs.Discovery.Logs
import PacketRelay.Proofs.Discovery.Search
import PacketRelay.Proofs.Discovery.Cursor
import PacketRelay.Proofs.Discovery.Run
import PacketRelay.Proofs.Discovery.Scripted
import PacketRelay.Proofs.Discovery.Sent
import PacketRelay.Proofs.Discovery.Received
import PacketRelay.Proofs.Fee
import PacketRelay.Proofs.Delivery.Floor
import PacketRelay.Proofs.Session.Guarded
import PacketRelay.Proofs.Session.Halting
import PacketRelay.Proofs.Delivery.Guarded
import PacketRelay.Proofs.Discovery.Guarded
import PacketRelay.Proofs.Halting
import PacketRelay.Proofs.Delivery.Sending
import PacketRelay.Proofs.Delivery.Watch
import PacketRelay.Proofs.Delivery.Foreign
import PacketRelay.Proofs.Delivery.Increment
import PacketRelay.Proofs.Delivery.Ordering
import PacketRelay.Proofs.Delivery.Bump
import PacketRelay.Proofs.Delivery.Polling
import PacketRelay.Proofs.Discovery.Interleaved
import PacketRelay.Proofs.Discovery.Joined
import PacketRelay.Proofs.Discovery.Windowing
import PacketRelay.Proofs.Delivery.Reverted
import PacketRelay.Proofs.Text.Spelling
import PacketRelay.Proofs.Text.Hexadecimal
import PacketRelay.Proofs.Storage.Maximum
import PacketRelay.Proofs.Binary64
import PacketRelay.Proofs.Json.Numeral
import PacketRelay.Proofs.Json.Reading
import PacketRelay.Proofs.Document.Reader
import PacketRelay.Proofs.Config.Rewritten
import PacketRelay.Proofs.Json.Exact
import PacketRelay.Proofs.Abi.TypeName
import PacketRelay.Proofs.Abi.Parameter
import PacketRelay.Proofs.Revert.Definition
import PacketRelay.Proofs.Revert.Order
import PacketRelay.Proofs.Bytes
import PacketRelay.Proofs.Document.Object
import PacketRelay.Proofs.Revert.Decoding
import PacketRelay.Proofs.Revert.Keys
import PacketRelay.Proofs.Revert.Rendering
import PacketRelay.Proofs.Text.Utf8
import PacketRelay.Proofs.Abi.Decoding
import PacketRelay.Proofs.Abi.Layout
import PacketRelay.Proofs.Abi.RoundTrip
import PacketRelay.Proofs.Revert.Faithful
import PacketRelay.Proofs.Files.Visit
import PacketRelay.Proofs.Revert.Walk
import PacketRelay.Proofs.Revert.Exhaustive
import PacketRelay.Proofs.Config.References
import PacketRelay.Proofs.Delivery.Sampling
import PacketRelay.Proofs.Discovery.Window
import PacketRelay.Proofs.Discovery.Commitment
