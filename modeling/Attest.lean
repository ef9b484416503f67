import Attest.Main
import Attest.Proofs.Catalog.Blame
import Attest.Proofs.Catalog.Registry
import Attest.Proofs.Cipher.Traffic
import Attest.Proofs.Inspect
import Attest.Proofs.Keys
import Attest.Proofs.ModuleImage.Delivery
import Attest.Proofs.Penalty.Overrides
import Attest.Proofs.Response.Truncation
import Attest.Proofs.Session.Answering
import Attest.Proofs.Session.Losses
import Attest.Proofs.Session.Penalties
import Attest.Proofs.Session.Secrecy
import Attest.Proofs.Session.Simultaneity
import Attest.Proofs.Session.Spending
import Attest.Proofs.Wire.Attempts
