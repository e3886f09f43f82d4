import HubAuth.Proofs.Certificate.Resolution
import HubAuth.Proofs.Config.Document
import HubAuth.Proofs.Credentials.Builder
import HubAuth.Proofs.Credentials.ForeignKey
import HubAuth.Proofs.Credentials.Login
import HubAuth.Proofs.Credentials.Provenance
import HubAuth.Proofs.Credentials.Provisioning
import HubAuth.Proofs.Credentials.Recovery
import HubAuth.Proofs.Credentials.Stuck
import HubAuth.Proofs.Mqtt.Description
import HubAuth.Proofs.Mqtt.Packet
import HubAuth.Proofs.Mqtt.Preflight
import HubAuth.Proofs.Token.Expiry
import HubAuth.Proofs.Token.Grammar
import HubAuth.Proofs.Token.Renewal
import HubAuth.Proofs.Token.Scope
