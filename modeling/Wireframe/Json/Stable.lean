import Wireframe.Json.Writer
import Wireframe.Digest.Sha256

/-!
# Stable texts

* **Stable text** (`stable`): the compact text of the canonical form, which does not depend on the order of members.
* **Fingerprint** (`fingerprint`): the digest of the stable text.
-/

namespace Wireframe.Json

/-- The compact text with the members of every object in key order. -/
def stable (v : Json) : String := v.canon.compact

def fingerprint (v : Json) : String := Sha256.hex v.stable

end Wireframe.Json
