import SerialRelay.Main
import SerialRelay.Port.Book
import SerialRelay.Port.Rack
import SerialRelay.Port.SettingsJson
import SerialRelay.Writer.Bench
import SerialRelay.Proofs.Relay.Calls
import SerialRelay.Proofs.Relay.Ledger
import SerialRelay.Proofs.Relay.Accounts
import SerialRelay.Proofs.Relay.Idle
import SerialRelay.Proofs.Relay.Progress
import SerialRelay.Proofs.Relay.Shutdown
import SerialRelay.Proofs.Relay.Endings
import SerialRelay.Proofs.Relay.Reopening
import SerialRelay.Proofs.Pump.Feed
import SerialRelay.Proofs.Pump.Translation
import SerialRelay.Proofs.Pump.Summary
import SerialRelay.Proofs.Payload.Hex
import SerialRelay.Proofs.Payload.Preview
import SerialRelay.Proofs.Payload.Escapes
import SerialRelay.Proofs.Port.WriteLoop
import SerialRelay.Proofs.Port.Delivery
import SerialRelay.Proofs.Port.Chunks
import SerialRelay.Proofs.Port.Journal
import SerialRelay.Proofs.Config.RoundTrip
import SerialRelay.Proofs.Config.Layers
import SerialRelay.Proofs.Config.Variables
import SerialRelay.Proofs.Config.Usable
import SerialRelay.Proofs.Config.Replaced
