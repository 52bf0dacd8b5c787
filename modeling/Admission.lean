import Admission.Main
import Admission.Provider.Scripted
import Admission.Proofs.Session.FlatLog
import Admission.Proofs.Session.Capacity
import Admission.Proofs.Installation
import Admission.Proofs.Precedence
import Admission.Proofs.Announcement
import Admission.Proofs.Startup
import Admission.Proofs.Provider.Secrets
import Admission.Proofs.Session.Drawn
import Admission.Proofs.Session.Lookup
import Admission.Proofs.Event.Redaction
import Admission.Proofs.Secrecy
import Admission.Proofs.Erasure
import Admission.Proofs.Discarded
import Admission.Proofs.Session.Independence
import Admission.Proofs.Text.Decimal
import Admission.Proofs.Digest.Base64
import Admission.Proofs.Password.HashString
import Admission.Proofs.Password.Encoders
import Admission.Proofs.LastWord
import Admission.Proofs.Authorized
import Admission.Proofs.Session.Eviction
import Admission.Proofs.Provider.Enumeration
import Admission.Proofs.Directory.Coherence
import Admission.Proofs.Event.Delivery
import Admission.Proofs.Event.Reading
import Admission.Proofs.User.Builder
import Admission.Proofs.Token.Canonical
import Admission.Proofs.Provider.ContainerRoles
import Admission.Proofs.Session.Limit
