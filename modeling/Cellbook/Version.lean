/-!
# Version

The version that clients are told.
-/

namespace Cellbook

/-- The version of the service. -/
def version : String := "0.1.0"

end Cellbook
