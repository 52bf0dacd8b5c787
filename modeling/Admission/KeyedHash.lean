import Admission.Digest.Base64
import Admission.Digest.Hmac
import Admission.Error

/-!
# Keyed hashes

A server that trusts its own tokens signs a name with a secret key and recognises the signature
later. The signature is the padded Base64 form of the authentication code of the name.
-/

namespace Admission

/-- A secret key, never empty. -/
structure KeyedHash where
  key : String
  key_ne : key ≠ ""

namespace KeyedHash

/-- The keyed hash for a key, which must not be empty. -/
def ofKey (key : String) : Except ConfigError KeyedHash :=
  if h : key = "" then .error (.invalidSetting "key" "a non-empty key is required")
  else .ok ⟨key, h⟩

/-- The signature of a name. -/
def sign (k : KeyedHash) (name : String) : String :=
  String.ofList <| Digest.Base64.encodePadded <|
    Digest.Hmac.sign (Bytes.ofString k.key) (Bytes.ofString name)

/-- Whether a presented text is the signature of the name. -/
def verify (k : KeyedHash) (name presented : String) : Bool :=
  k.sign name == presented

/-- What a keyed hash shows of itself: not the key. -/
def display (_ : KeyedHash) : String :=
  "KeyedHash([PROTECTED])"

end KeyedHash

end Admission
