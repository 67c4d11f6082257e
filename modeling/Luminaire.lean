import Luminaire.App
import Luminaire.Bytes
import Luminaire.Cbor.Codec
import Luminaire.Cbor.Item
import Luminaire.Cbor.Reader
import Luminaire.Cbor.Record
import Luminaire.Cipher.Aead
import Luminaire.Cipher.ChaCha20
import Luminaire.Cipher.Poly1305
import Luminaire.Config.Basic
import Luminaire.Config.Document
import Luminaire.Connection.Authentication
import Luminaire.Connection.Basic
import Luminaire.Connection.Error
import Luminaire.Connection.GroupKeys
import Luminaire.Connection.Handler
import Luminaire.Connection.Liveness
import Luminaire.Connection.Recorder
import Luminaire.Connection.Station
import Luminaire.Connection.Subscription
import Luminaire.Connection.Venue
import Luminaire.CryptoError
import Luminaire.Curve.Ed25519
import Luminaire.Curve.Field
import Luminaire.Curve.X25519
import Luminaire.Digest.Hmac
import Luminaire.Digest.Sha2
import Luminaire.Directory
import Luminaire.Document.Basic
import Luminaire.Document.Fault
import Luminaire.Document.Payload
import Luminaire.Document.Value
import Luminaire.Entropy
import Luminaire.File
import Luminaire.File.Fault
import Luminaire.Framebuffer
import Luminaire.Group.Broadcast
import Luminaire.Group.Broadcaster
import Luminaire.Group.Cipher
import Luminaire.Group.KeyRing
import Luminaire.Handshake.Client
import Luminaire.Handshake.Confirmation
import Luminaire.Handshake.Cookie
import Luminaire.Handshake.Error
import Luminaire.Handshake.Message
import Luminaire.Handshake.Server
import Luminaire.Handshake.Transcript
import Luminaire.Identity
import Luminaire.Identity.Armour
import Luminaire.Identity.Der
import Luminaire.Identity.PrivateKey
import Luminaire.Json.Reader
import Luminaire.Json.Value
import Luminaire.Message.Payloads
import Luminaire.Message.Status
import Luminaire.Message.Uuid
import Luminaire.Net.Address
import Luminaire.Net.Link
import Luminaire.Net.Parse
import Luminaire.Observers
import Luminaire.Pixel
import Luminaire.Proofs.Bytes
import Luminaire.Proofs.Cbor.Cuts
import Luminaire.Proofs.Cbor.Printing
import Luminaire.Proofs.Cbor.Records
import Luminaire.Proofs.Cbor.Weight
import Luminaire.Proofs.Checked
import Luminaire.Proofs.Config.Preference
import Luminaire.Proofs.Connection.Acceptance
import Luminaire.Proofs.Connection.Authentication
import Luminaire.Proofs.Connection.Belongings
import Luminaire.Proofs.Connection.Bookings
import Luminaire.Proofs.Connection.Changes
import Luminaire.Proofs.Connection.Decoys
import Luminaire.Proofs.Connection.Effects
import Luminaire.Proofs.Connection.Sending
import Luminaire.Proofs.Connection.Standing
import Luminaire.Proofs.Connection.Strangers
import Luminaire.Proofs.Connection.Subscriptions
import Luminaire.Proofs.Connection.Tape
import Luminaire.Proofs.Directory
import Luminaire.Proofs.Framebuffer.Observation
import Luminaire.Proofs.Framebuffer.Painting
import Luminaire.Proofs.Group.Broadcasts
import Luminaire.Proofs.Group.KeyTable
import Luminaire.Proofs.Group.Loading
import Luminaire.Proofs.Group.Retention
import Luminaire.Proofs.Group.Rotation
import Luminaire.Proofs.Group.Trace
import Luminaire.Proofs.Handshake.Agreement
import Luminaire.Proofs.Handshake.Binding
import Luminaire.Proofs.Handshake.Confirmation
import Luminaire.Proofs.Handshake.Course
import Luminaire.Proofs.Handshake.Decision
import Luminaire.Proofs.Handshake.Encounter
import Luminaire.Proofs.Handshake.Finished
import Luminaire.Proofs.Handshake.HelloSize
import Luminaire.Proofs.Handshake.Meeting
import Luminaire.Proofs.Handshake.Messages
import Luminaire.Proofs.Message.Lossless
import Luminaire.Proofs.Message.Payloads
import Luminaire.Proofs.Message.Replies
import Luminaire.Proofs.Record.Marks
import Luminaire.Proofs.Record.Nonces
import Luminaire.Proofs.Record.Opening
import Luminaire.Proofs.Record.Sealing
import Luminaire.Proofs.Record.Window
import Luminaire.Proofs.Observers
import Luminaire.Proofs.Server.Accord
import Luminaire.Proofs.Server.Admission
import Luminaire.Proofs.Server.Amplification
import Luminaire.Proofs.Server.Attempts
import Luminaire.Proofs.Server.Bookkeeping
import Luminaire.Proofs.Server.Books
import Luminaire.Proofs.Server.Cards
import Luminaire.Proofs.Server.Carriage
import Luminaire.Proofs.Server.Claimants
import Luminaire.Proofs.Server.Closing
import Luminaire.Proofs.Server.Collection
import Luminaire.Proofs.Server.Concord
import Luminaire.Proofs.Server.Conduct
import Luminaire.Proofs.Server.Elsewhere
import Luminaire.Proofs.Server.Enrolment
import Luminaire.Proofs.Server.Hosting
import Luminaire.Proofs.Server.Keyed
import Luminaire.Proofs.Server.Ledger
import Luminaire.Proofs.Server.Locks
import Luminaire.Proofs.Server.Neighbours
import Luminaire.Proofs.Server.Notices
import Luminaire.Proofs.Server.Outlet
import Luminaire.Proofs.Server.Outlook
import Luminaire.Proofs.Server.Passages
import Luminaire.Proofs.Server.Peers
import Luminaire.Proofs.Server.PixelDelivery
import Luminaire.Proofs.Server.Reports
import Luminaire.Proofs.Server.Rosters
import Luminaire.Proofs.Server.Ruling
import Luminaire.Proofs.Server.Scene
import Luminaire.Proofs.Server.Service
import Luminaire.Proofs.Server.Shutdown
import Luminaire.Proofs.Server.Stages
import Luminaire.Proofs.Server.Strangers
import Luminaire.Proofs.Server.Tenure
import Luminaire.Proofs.Server.Termination
import Luminaire.Proofs.Server.Touches
import Luminaire.Proofs.Server.Uniform
import Luminaire.Proofs.Server.Welcome
import Luminaire.Proofs.Session.Delivery
import Luminaire.Proofs.Session.Departures
import Luminaire.Proofs.Session.Replay
import Luminaire.Proofs.Session.Sequence
import Luminaire.Proofs.Session.Traffic
import Luminaire.Proofs.Wire.Exactness
import Luminaire.Proofs.Wire.Framing
import Luminaire.Record.Keys
import Luminaire.Record.Protection
import Luminaire.Record.Suite
import Luminaire.Record.Window
import Luminaire.Rehearsal.Bench
import Luminaire.Rehearsal.Handshake
import Luminaire.Rehearsal.Machine
import Luminaire.Rehearsal.Pair
import Luminaire.Rehearsal.Script.Basic
import Luminaire.Rehearsal.Script.Connection
import Luminaire.Rehearsal.Script.Group
import Luminaire.Rehearsal.Script.Handshake
import Luminaire.Rehearsal.Script.Pair
import Luminaire.Rehearsal.Script.Site
import Luminaire.Rehearsal.Script.Stage
import Luminaire.Rehearsal.Script.Worker
import Luminaire.Rehearsal.Site
import Luminaire.Rehearsal.Stage
import Luminaire.Rehearsal.Worker
import Luminaire.Server.Lifecycle
import Luminaire.Server.Listener
import Luminaire.Server.Registry
import Luminaire.Server.Standard
import Luminaire.Server.Worker
import Luminaire.Session
import Luminaire.Started
import Luminaire.Text.Base64
import Luminaire.Text.Blank
import Luminaire.Text.Hex
import Luminaire.Text.Printable
import Luminaire.Text.Quoted
import Luminaire.Text.Utf8
import Luminaire.Wire.Endpoint
import Luminaire.Wire.Frame
