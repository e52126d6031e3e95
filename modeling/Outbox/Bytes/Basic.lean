/-!
# Bytes

Payloads and wire texts are sequences of bytes.
-/

set_option autoImplicit false

namespace Outbox

abbrev Bytes := List UInt8

end Outbox
