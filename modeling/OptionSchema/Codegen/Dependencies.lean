import OptionSchema.Dictionary
import OptionSchema.Text.Quoted

/-!
# Dependencies

The crates that generated code needs, each with the features it relies on. Requiring a crate again
adds to its features; the order of the requirements does not matter.
-/

namespace OptionSchema.Codegen

structure Dependencies where
  crates : NameMap NameSet
  deriving DecidableEq

namespace Dependencies

def empty : Dependencies :=
  ⟨.empty⟩

/-- The features of a crate; none if the crate is not required. -/
def features (dependencies : Dependencies) (crate : String) : NameSet :=
  (dependencies.crates.get? crate).getD .empty

def contains (dependencies : Dependencies) (crate : String) : Bool :=
  (dependencies.crates.get? crate).isSome

def list (dependencies : Dependencies) : List (String × List String) :=
  dependencies.crates.entries.map fun (crate, features) => (crate, features.names)

def require (dependencies : Dependencies) (crate : String) (features : List String) :
    Dependencies :=
  ⟨dependencies.crates.insert crate ((dependencies.features crate).union features)⟩

/-- The dependencies after several requirements, each of them a crate with features. -/
def requireAll (requirements : List (String × List String)) : Dependencies :=
  requirements.foldl (fun dependencies (crate, features) => dependencies.require crate features)
    empty

def manifestLine (crate : String) (features : List String) : String :=
  if features.isEmpty then s!"{crate} = \"1\""
  else
    let list := ", ".intercalate (features.map Text.quotedText)
    s!"{crate} = \x7b version = \"1\", features = [{list}] \x7d"

def manifest (dependencies : Dependencies) : String :=
  String.join (dependencies.list.map fun (crate, features) => manifestLine crate features ++ "\n")

end Dependencies

end OptionSchema.Codegen
