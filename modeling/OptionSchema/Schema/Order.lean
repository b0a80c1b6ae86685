import OptionSchema.Schema.Node
import OptionSchema.Text.Utf8

/-!
# The canonical order of members

Members are listed with `enable` first, `package` second, and all others in ascending order of their
names. That is how `compareNames` has them.
-/

namespace OptionSchema

def comparePreferred (preferred first second : String) : Ordering :=
  match first == preferred, second == preferred with
  | true, false => .lt
  | false, true => .gt
  | _, _ => .eq

/-- Compares two names: `enable` comes first, then `package`, and all others by their bytes. -/
def compareNames (first second : String) : Ordering :=
  (comparePreferred "enable" first second).then <|
    (comparePreferred "package" first second).then <|
      compareOfLessAndEq (Text.bytes first) (Text.bytes second)

/-- Puts the entries named `enable` and `package` in front of the others. -/
def canonicalOrder {α : Type} (entries : List (String × α)) : List (String × α) :=
  entries.filter (·.1 == "enable") ++ entries.filter (·.1 == "package") ++
    entries.filter fun entry => entry.1 != "enable" && entry.1 != "package"

def Module.sorted (module : Module) : List (String × Node) :=
  canonicalOrder module.members

end OptionSchema
