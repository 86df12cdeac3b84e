import PeerTrust.Certificate.Basic
import PeerTrust.Certificate.Name
import PeerTrust.Chain.Issuer
import PeerTrust.Chain.Path
import PeerTrust.Chain.Verify
import PeerTrust.ClientConfig
import PeerTrust.Endpoint.Resolve
import PeerTrust.Endpoint.Url
import PeerTrust.Handshake.CipherRequest
import PeerTrust.Handshake.Config
import PeerTrust.Handshake.Context
import PeerTrust.Handshake.Engine
import PeerTrust.Host
import PeerTrust.Identity.Matching
import PeerTrust.Identity.Set
import PeerTrust.Instant
import PeerTrust.IpAddress
import PeerTrust.Mode
import PeerTrust.Policy
import PeerTrust.Report
import PeerTrust.Report.Arguments
import PeerTrust.Session
import PeerTrust.TrustStore.Pem
import PeerTrust.Text.Basic
import PeerTrust.Text.Casing
import PeerTrust.Text.Lower
import PeerTrust.Text.Quoted
import PeerTrust.TrustSetup
import PeerTrust.TrustStore.Basic
import PeerTrust.TrustStore.Files
import PeerTrust.Validator
import PeerTrust.Value.Basic
import PeerTrust.Value.Floating
import PeerTrust.Proofs.Chain.Passes
import PeerTrust.Proofs.Chain.TrustedPath
import PeerTrust.Proofs.Chain.Commitment
import PeerTrust.Proofs.Stages
import PeerTrust.Proofs.Text.Cuts
import PeerTrust.Proofs.Text.Lower
import PeerTrust.Proofs.IpAddress.Characters
import PeerTrust.Proofs.Endpoint.Frame
import PeerTrust.Proofs.Endpoint.Recovery
import PeerTrust.Proofs.Chain.Refusals
import PeerTrust.Proofs.Handshake.Runs
import PeerTrust.Proofs.Extraction
import PeerTrust.Proofs.Text.Numeral
import PeerTrust.Proofs.IpAddress.RoundTrip
import PeerTrust.Proofs.IpAddress.Casing
import PeerTrust.Proofs.Host.Normal
import PeerTrust.Proofs.Identity.WildcardLabels
import PeerTrust.Proofs.Strictness
import PeerTrust.Proofs.TrustSetup
import PeerTrust.Proofs.Failures
import PeerTrust.Proofs.Text.Fold
import PeerTrust.Proofs.Host.Comparison
import PeerTrust.Proofs.IpAddress.Value
import PeerTrust.Proofs.Identity.Literals
import PeerTrust.Proofs.Chain.Surplus
import PeerTrust.Proofs.Chain.Rounds
import PeerTrust.Proofs.Identity.Breadth
import PeerTrust.Proofs.Endpoint.CleanHost
import PeerTrust.Proofs.Host.Loopback
import PeerTrust.Proofs.Identity.Candidates
import PeerTrust.Proofs.Identity.Blank
import PeerTrust.Proofs.Host.SecondLook
import PeerTrust.Proofs.Chain.Arrangement
import PeerTrust.Proofs.Instant
import PeerTrust.Proofs.Chain.Verdicts
import PeerTrust.Proofs.Handshake.Protocols
import PeerTrust.Proofs.Identity.Spelling
import PeerTrust.Proofs.Value.Display
import PeerTrust.Proofs.Endpoint.Hostless
import PeerTrust.Proofs.Mode
import PeerTrust.Proofs.NameList
import PeerTrust.Proofs.ClientConfig
import PeerTrust.Proofs.Handshake.Delivery
import PeerTrust.Proofs.Chain.Preference
import PeerTrust.Proofs.Handshake.Requests
import PeerTrust.Proofs.Handshake.Ciphers
