import Attest.Fault
import Attest.Hash.Md5
import Attest.Keys

/-!
# The verification module

The module that clients load is a blob of bytes that the server announces and streams but never
looks into, together with what the two sides agreed on when it was built: the seed it is asked,
the answer that only it knows, and the keys that both sides change to afterwards.
-/

namespace Attest

namespace ModuleImage

/-- What was agreed when the module was built. -/
structure Secrets where
  /-- The seed that the module is asked. -/
  seed : Key
  /-- The inbound key after the answer. -/
  inbound : Key
  /-- The outbound key after the answer. -/
  outbound : Key
  /-- The answer of a genuine module. -/
  answer : Vector UInt8 20
  deriving DecidableEq

/-- The addresses of the client functions that the module may call. -/
structure Functions where
  /-- Access to archive files. -/
  files : Vector UInt32 4 := #v[0x002485F0, 0x002487F0, 0x00248460, 0x00248730]
  /-- Access to script texts. -/
  load : UInt32 := 0x00419D40
  /-- The tick counter. -/
  tick : UInt32 := 0x0046AE20
  deriving DecidableEq

end ModuleImage

/-- The module that clients load. -/
structure ModuleImage where
  blob : Bytes
  /-- The key that the client opens the blob with. -/
  key : Key
  secrets : ModuleImage.Secrets
  functions : ModuleImage.Functions
  blob_ne_nil : blob ≠ []
  length_lt : blob.length < UInt32.size

namespace ModuleImage

/-- A module of a blob that is not empty and whose size fits a word. -/
def ofBlob (blob : Bytes) (key : Key) (secrets : Secrets) (functions : Functions) :
    Except Fault ModuleImage :=
  if nonempty : blob = [] then .error (.image .emptyBlob)
  else if bounded : blob.length < UInt32.size then
    .ok ⟨blob, key, secrets, functions, nonempty, bounded⟩
  else .error (.image (.oversizedBlob blob.length))

/-- The digest under which clients keep the module. -/
def fingerprint (image : ModuleImage) : Vector UInt8 16 :=
  Md5.digest image.blob

end ModuleImage

end Attest
