import Admission.Digest.Sha256

/-!
# Keyed message authentication with SHA-256

The code of a message under a key is a hash of a hash, with the key mixed into each under a
different mask. A key longer than a block is replaced by its digest, a shorter one is filled up
with zero bytes.
-/

namespace Admission.Digest.Hmac

/-- The key as one block of 64 bytes. -/
def keyBlock (key : Bytes) : Bytes :=
  let key := if key.length > 64 then Sha256.hash key else key
  key ++ List.replicate (64 - key.length) 0

/-- The key block with every byte masked. -/
def masked (mask : UInt8) (key : Bytes) : Bytes :=
  (keyBlock key).map (· ^^^ mask)

/-- The authentication code of a message. -/
def sign (key message : Bytes) : Bytes :=
  Sha256.hash (masked 0x5c key ++ Sha256.hash (masked 0x36 key ++ message))

/-- A code has 32 bytes. -/
@[simp] theorem length_sign (key message : Bytes) : (sign key message).length = 32 :=
  Sha256.length_hash _

end Admission.Digest.Hmac
