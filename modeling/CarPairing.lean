import CarPairing.Bytes
import CarPairing.Channel.Association
import CarPairing.Channel.Error
import CarPairing.Channel.Event
import CarPairing.Channel.Reconnect
import CarPairing.Channel.Script
import CarPairing.Channel.Secure
import CarPairing.Cipher.Aead
import CarPairing.Cipher.ChaCha20
import CarPairing.Cipher.Hmac
import CarPairing.Cipher.Poly1305
import CarPairing.Cipher.Sha256
import CarPairing.Cipher.X25519
import CarPairing.Command.Arguments
import CarPairing.Command.Console
import CarPairing.Command.Devices
import CarPairing.Command.Error
import CarPairing.Command.Pair
import CarPairing.Command.Program
import CarPairing.Companion
import CarPairing.DeviceMessage
import CarPairing.Entropy
import CarPairing.Entropy.Seeded
import CarPairing.Files.Disk
import CarPairing.Files.Path
import CarPairing.Files.Tree
import CarPairing.Handshake.Agreement
import CarPairing.Handshake.Message
import CarPairing.Handshake.Runner
import CarPairing.Handshake.Script
import CarPairing.Identity
import CarPairing.Json.Document
import CarPairing.Json.Numeral
import CarPairing.Json.Printer
import CarPairing.Json.Token
import CarPairing.Json.Value
import CarPairing.Key
import CarPairing.Link
import CarPairing.Main
import CarPairing.Proofs.Association.Acceptance
import CarPairing.Proofs.Association.Calls
import CarPairing.Proofs.Association.Custody
import CarPairing.Proofs.Association.Enrolment
import CarPairing.Proofs.Association.Exact
import CarPairing.Proofs.Association.Exposure
import CarPairing.Proofs.Association.Frames
import CarPairing.Proofs.Association.Inheritance
import CarPairing.Proofs.Association.Introduction
import CarPairing.Proofs.Association.Order
import CarPairing.Proofs.Association.Rollback
import CarPairing.Proofs.Association.Spoken
import CarPairing.Proofs.Association.Stages
import CarPairing.Proofs.Channel.Emissions
import CarPairing.Proofs.Channel.Inheritance
import CarPairing.Proofs.Channel.Intrusion
import CarPairing.Proofs.Channel.Settled
import CarPairing.Proofs.Channel.Steps
import CarPairing.Proofs.Channel.Turns
import CarPairing.Proofs.Command.LifeCycle
import CarPairing.Proofs.Command.Pairing
import CarPairing.Proofs.Command.Resuming
import CarPairing.Proofs.Command.Steps
import CarPairing.Proofs.Companion.Atomicity
import CarPairing.Proofs.Companion.Calls
import CarPairing.Proofs.Companion.Stages
import CarPairing.Proofs.Companion.Trust
import CarPairing.Proofs.Curve.Agreement
import CarPairing.Proofs.Curve.Montgomery
import CarPairing.Proofs.Curve.Prime
import CarPairing.Proofs.Disturbance
import CarPairing.Proofs.Files.Replacement
import CarPairing.Proofs.Handshake.Conversation
import CarPairing.Proofs.Handshake.MatchingCodes
import CarPairing.Proofs.Handshake.Misplaced
import CarPairing.Proofs.Handshake.Requests
import CarPairing.Proofs.Handshake.SingleUse
import CarPairing.Proofs.Handshake.Views
import CarPairing.Proofs.Identity
import CarPairing.Proofs.Json.Decimal
import CarPairing.Proofs.Json.Lexing
import CarPairing.Proofs.Json.Printing
import CarPairing.Proofs.Lifecycle
import CarPairing.Proofs.Link.Association
import CarPairing.Proofs.Link.Resumption
import CarPairing.Proofs.Link.Steps
import CarPairing.Proofs.Nonces
import CarPairing.Proofs.Pairing.Completion
import CarPairing.Proofs.Pairing.Exchange
import CarPairing.Proofs.Pairing.Phone
import CarPairing.Proofs.Pairing.Stages
import CarPairing.Proofs.Reconnect.Answers
import CarPairing.Proofs.Reconnect.Calls
import CarPairing.Proofs.Reconnect.Custody
import CarPairing.Proofs.Reconnect.Exact
import CarPairing.Proofs.Reconnect.Inheritance
import CarPairing.Proofs.Reconnect.Proof
import CarPairing.Proofs.Reconnect.Spoken
import CarPairing.Proofs.Reconnect.Stages
import CarPairing.Proofs.Resumption.Chain
import CarPairing.Proofs.Resumption.Interruption
import CarPairing.Proofs.Resumption.Line
import CarPairing.Proofs.Resumption.Phone
import CarPairing.Proofs.Resumption.Stages
import CarPairing.Proofs.Sealing
import CarPairing.Proofs.Secrets
import CarPairing.Proofs.Step
import CarPairing.Proofs.Store.Filing
import CarPairing.Proofs.Store.Format
import CarPairing.Proofs.Store.Keeping
import CarPairing.Proofs.Store.PerDevice
import CarPairing.Proofs.Store.Persistence
import CarPairing.Proofs.Store.Reloading
import CarPairing.Proofs.Store.Reopening
import CarPairing.Proofs.Table
import CarPairing.Proofs.Traffic.Delivery
import CarPairing.Proofs.Traffic.Grammar
import CarPairing.Proofs.Traffic.Outbound
import CarPairing.Proofs.Traffic.Speaking
import CarPairing.Proofs.Traffic.Spoken
import CarPairing.Session
import CarPairing.Settings.Environment
import CarPairing.Settings.Load
import CarPairing.Settings.Settings
import CarPairing.Store.Faulty
import CarPairing.Store.Format
import CarPairing.Store.KeyStore
import CarPairing.Store.Storage
import CarPairing.Table
import CarPairing.Text.Quoted
import CarPairing.Text.Unprintable
import CarPairing.Text.Utf8
import CarPairing.Uuid
import CarPairing.VerificationCode
import CarPairing.Proofs.Store.Listing
import CarPairing.Proofs.Store.History
import CarPairing.Proofs.Store.Vetting
import CarPairing.Proofs.Association.Vetting
import CarPairing.Proofs.Json.Merging
import CarPairing.Proofs.Settings.Fields
import CarPairing.Proofs.Settings.Precedence
import CarPairing.Proofs.Settings.Layering
import CarPairing.Proofs.VerificationCode.Display
import CarPairing.Proofs.VerificationCode.Numeric
