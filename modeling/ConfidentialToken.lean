import ConfidentialToken.Network.Play
import ConfidentialToken.Proofs.Assembly.Filtering
import ConfidentialToken.Proofs.Assembly.WellFormed
import ConfidentialToken.Proofs.Audit.Binding
import ConfidentialToken.Proofs.Audit.Nesting
import ConfidentialToken.Proofs.Audit.Refusals
import ConfidentialToken.Proofs.Audit.Storage
import ConfidentialToken.Proofs.Ledger.Conservation
import ConfidentialToken.Proofs.Ledger.Effect
import ConfidentialToken.Proofs.Ledger.Independence
import ConfidentialToken.Proofs.Ledger.Locks
import ConfidentialToken.Proofs.Ledger.Ownership
import ConfidentialToken.Proofs.Message
import ConfidentialToken.Proofs.Metadata.Composition
import ConfidentialToken.Proofs.Metadata.Reports
import ConfidentialToken.Proofs.Metadata.Secrecy
import ConfidentialToken.Proofs.Metadata.SpentIds
import ConfidentialToken.Proofs.Validation.Dependence
import ConfidentialToken.Proofs.Validation.Endorsements
import ConfidentialToken.Proofs.Validation.PlainSigners
import ConfidentialToken.Proofs.Validation.PreImages
import ConfidentialToken.Proofs.Validation.TimeLock
import ConfidentialToken.Proofs.Wire.Parameters
import ConfidentialToken.Proofs.Wire.Spellings
import ConfidentialToken.Proofs.ZeroKnowledge.Balance
import ConfidentialToken.Proofs.ZeroKnowledge.Extraction
import ConfidentialToken.Proofs.ZeroKnowledge.Linearity
import ConfidentialToken.Proofs.ZeroKnowledge.Provers
import ConfidentialToken.Proofs.ZeroKnowledge.Statements
import ConfidentialToken.Suite.Ristretto
