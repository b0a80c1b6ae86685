/-!
# Version
-/

namespace OptionSchema

def version : String :=
  "0.1.0"

end OptionSchema
