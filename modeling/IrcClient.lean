import IrcClient.Bus
import IrcClient.ClientCertificate
import IrcClient.Main
import IrcClient.Proofs.Store.Writes
import IrcClient.Proofs.Store.Updates
import IrcClient.Proofs.Store.Isolation
import IrcClient.Proofs.Outcome
import IrcClient.Proofs.Store.Mirror
import IrcClient.Proofs.Store.MirrorHandlers
import IrcClient.Proofs.Session
import IrcClient.Proofs.Store.MirrorRun
import IrcClient.Proofs.Client.Exclusivity
import IrcClient.Proofs.Negotiation.Dialogue
import IrcClient.Proofs.Negotiation.CapEnd
import IrcClient.Proofs.Text.Base64
import IrcClient.Proofs.Text.Numeral
import IrcClient.Proofs.Text.Split
import IrcClient.Proofs.Sasl.Attributes
import IrcClient.Proofs.Sasl.Exchange
import IrcClient.Proofs.Digest
import IrcClient.Proofs.Sasl.Server
import IrcClient.Proofs.Negotiation.Verification
import IrcClient.Proofs.Negotiation.Transport
import IrcClient.Proofs.Negotiation.Custody
import IrcClient.Proofs.Negotiation.Listing
import IrcClient.Proofs.Message.Parts
import IrcClient.Proofs.Text.Letter
import IrcClient.Proofs.Message.RoundTrip
import IrcClient.Proofs.Wire.Cutting
import IrcClient.Proofs.Bus.Delivery
import IrcClient.Proofs.Bus.Turns
import IrcClient.Proofs.Handling.Locality
import IrcClient.Proofs.Handling.Spelling
import IrcClient.Proofs.Handling.Buffers
import IrcClient.Proofs.Handling.Hearing
import IrcClient.Proofs.Handling.Queries
import IrcClient.Proofs.Handling.Modes
import IrcClient.Proofs.Handling.Roster
import IrcClient.Proofs.Handling.Everywhere
import IrcClient.Proofs.Handling.Frame
import IrcClient.Proofs.Network.Channels
import IrcClient.Proofs.Store.Resumption
import IrcClient.Proofs.Wire.Sending
import IrcClient.Proofs.Handling.Events
import IrcClient.Proofs.Handling.Change
import IrcClient.Proofs.Network.Naming
import IrcClient.Proofs.Network.Retries
import IrcClient.Proofs.Network.Prefixes
import IrcClient.Proofs.Network.Marks
import IrcClient.Proofs.Network.Presence
import IrcClient.Proofs.Client.Notices
import IrcClient.Proofs.Client.Alternation
import IrcClient.Proofs.Name
import IrcClient.Proofs.Handling.Replies
import IrcClient.Proofs.Session.Entering
import IrcClient.Proofs.Client.Storage
import IrcClient.Proofs.Client.Refusal
import IrcClient.Proofs.Support
import IrcClient.Proofs.Handling.Flags
import IrcClient.Proofs.Network.ModeForms
import IrcClient.Proofs.Handling.EventTypes
import IrcClient.Proofs.Handling.Inquiry
import IrcClient.Proofs.Network.Whois
import IrcClient.Proofs.Identity
import IrcClient.Proofs.Client.Fallback
import IrcClient.Proofs.World.Connecting
