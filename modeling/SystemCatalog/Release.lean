/-!
# Release
-/

namespace SystemCatalog

def release : String := "0.1.0"

end SystemCatalog
