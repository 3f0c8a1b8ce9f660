import BrokerClient.Client.Call
import BrokerClient.Config.Load
import BrokerClient.Config.Json
import BrokerClient.Proofs.ClientIds
import BrokerClient.Proofs.ClientIds.Outcome
import BrokerClient.Proofs.Consumers
import BrokerClient.Proofs.Delivery
import BrokerClient.Proofs.DurableSubscribers
import BrokerClient.Proofs.DurableSubscribers.Names
import BrokerClient.Proofs.Endings
import BrokerClient.Proofs.Failures
import BrokerClient.Proofs.Finality
import BrokerClient.Proofs.Independence
import BrokerClient.Proofs.Registration
import BrokerClient.Proofs.Teardown
import BrokerClient.Proofs.Waiting
import BrokerClient.Proofs.Payloads
import BrokerClient.Proofs.Shutdown.Down
import BrokerClient.Proofs.Shutdown.Hooks
import BrokerClient.Proofs.Shutdown
import BrokerClient.Proofs.Confluence.Closes
import BrokerClient.Proofs.Confluence
import BrokerClient.Proofs.Text.Decimal
import BrokerClient.Proofs.Text.Utf8
import BrokerClient.Proofs.Json.Literal
import BrokerClient.Proofs.Json.Numeral
import BrokerClient.Proofs.Json.RoundTrip
import BrokerClient.Proofs.Duration
import BrokerClient.Proofs.Json.Records
import BrokerClient.Proofs.Configurations
import BrokerClient.Proofs.Messages
import BrokerClient.Proofs.Shutdown.Reentry
import BrokerClient.Proofs.ClientIds.Competition
import BrokerClient.Proofs.Text.Blank
import BrokerClient.Proofs.Trust
import BrokerClient.Proofs.Transport
import BrokerClient.Proofs.Teardown.Notes
import BrokerClient.Proofs.Text.Percent
import BrokerClient.Proofs.Uri.Parts
import BrokerClient.Proofs.Addresses
import BrokerClient.Proofs.Errors
import BrokerClient.Proofs.Versions
import BrokerClient.Proofs.Teardown.Rounds
import BrokerClient.Proofs.Addresses.Acceptance
