import Outbox.Bytes.Basic

/-!
# Fingerprints

The FNV-1a hash of 64 bits: a number that stands for a sequence of bytes where the sequence itself
is not kept.  Different sequences may share it.
-/

set_option autoImplicit false

namespace Outbox.Bytes

def fingerprintBasis : UInt64 := 0xcbf29ce484222325

def fingerprintPrime : UInt64 := 0x100000001b3

/-- The fingerprint of bytes: from the basis on, each byte is added without carry to the lowest
eight bits, and the sum is multiplied by the prime. -/
def fingerprint (bytes : Bytes) : UInt64 :=
  bytes.foldl (fun value byte => (value ^^^ byte.toUInt64) * fingerprintPrime) fingerprintBasis

end Outbox.Bytes
