import OptionSchema.Json.Value
import OptionSchema.Schema.Tag

/-!
# Trees of options

A module is a dictionary of nodes. A node is a module again or an option: documentation and a kind.
The members of every module are in strictly ascending order of their names; `Module.insert` and
`Module.ofPairs` keep that order.
-/

namespace OptionSchema

/-- The documentation of an option. Each field has a zero value, which stands for its absence. -/
structure Doc where
  example? : Option Json.Value
  default? : Option Json.Value
  defaultText : String
  description : String
  descriptionClass : String
  visible : Bool
  internal : Bool
  readOnly : Bool

mutual

/-- A member of a module, or whatever stands in the place of an option. -/
inductive Node where
  | module (module : Module)
  | option (doc : Doc) (kind : Kind)

/-- The kind of an option and what belongs to the kind. A kind outside the vocabulary is kept as the
tree it was given by. -/
inductive Kind where
  | scalar (scalar : Scalar)
  | unspecified (source : Json.Tree)
  | enumeration (values : List String)
  | separatedString (separator : String)
  | wrapped (wrapper : Wrapper) (inner : Node)
  | either (alternatives : List Node)
  | submodule (contents : Module)

/-- Named nodes in strictly ascending order of their names. -/
structure Module where
  members : List (String × Node)

end

namespace Doc

def empty : Doc :=
  ⟨none, none, "", "", "", false, false, false⟩

def beq (first second : Doc) : Bool :=
  first.example? == second.example? && first.default? == second.default? &&
    first.defaultText == second.defaultText && first.description == second.description &&
    first.descriptionClass == second.descriptionClass && first.visible == second.visible &&
    first.internal == second.internal && first.readOnly == second.readOnly

instance : BEq Doc := ⟨beq⟩

end Doc

def Kind.tag : Kind → Tag
  | .scalar name => .scalar name
  | .unspecified _ => .unspecified
  | .enumeration _ => .enumeration
  | .separatedString _ => .separatedString
  | .wrapped wrapper _ => .wrapped wrapper
  | .either _ => .either
  | .submodule _ => .submodule

namespace Node

def tag? : Node → Option Tag
  | .module _ => none
  | .option _ kind => some kind.tag

/-- The documentation of an option; that of a module is empty. -/
def doc : Node → Doc
  | .module _ => .empty
  | .option doc _ => doc

def contents? : Node → Option Module
  | .module contents => some contents
  | .option _ (.submodule contents) => some contents
  | .option _ _ => none

def isScalar (scalar : Scalar) : Node → Bool
  | .option _ (.scalar found) => found == scalar
  | _ => false

end Node

/-- Whether alternatives are those of a number: an integer or else a floating point number. -/
def isNumber : List Node → Bool
  | [first, second] => first.isScalar .int && second.isScalar .float
  | _ => false

mutual

/-- Whether two nodes are equal, documentation by `Doc.beq` and kept trees by their text. -/
def Node.beq : Node → Node → Bool
  | .module first, .module second => first.beq second
  | .option doc kind, .option doc' kind' => doc == doc' && kind.beq kind'
  | _, _ => false

def Kind.beq : Kind → Kind → Bool
  | .scalar first, .scalar second => first == second
  | .unspecified first, .unspecified second => first == second
  | .enumeration first, .enumeration second => first == second
  | .separatedString first, .separatedString second => first == second
  | .wrapped wrapper first, .wrapped wrapper' second => wrapper == wrapper' && first.beq second
  | .either first, .either second => beqNodes first second
  | .submodule first, .submodule second => first.beq second
  | _, _ => false

def Module.beq : Module → Module → Bool
  | ⟨first⟩, ⟨second⟩ => beqMembers first second

def beqNodes : List Node → List Node → Bool
  | [], [] => true
  | first :: rest, second :: others => first.beq second && beqNodes rest others
  | _, _ => false

def beqMembers : List (String × Node) → List (String × Node) → Bool
  | [], [] => true
  | (name, first) :: rest, (name', second) :: others =>
      name == name' && first.beq second && beqMembers rest others
  | _, _ => false

end

instance : BEq Node := ⟨Node.beq⟩

instance : BEq Module := ⟨Module.beq⟩

namespace Module

def empty : Module :=
  ⟨[]⟩

instance : Inhabited Module := ⟨empty⟩

instance : Inhabited Node := ⟨.module empty⟩

def get? (module : Module) (name : String) : Option Node :=
  Dictionary.get? name module.members

def insert (module : Module) (name : String) (node : Node) : Module :=
  ⟨Dictionary.insert name node module.members⟩

def ofMap (members : NameMap Node) : Module :=
  ⟨members.entries⟩

/-- The module of named nodes; of several with one name the last one counts. -/
def ofPairs (pairs : List (String × Node)) : Module :=
  ofMap (.ofPairs pairs)

def names (module : Module) : List String :=
  Dictionary.keys module.members

def size (module : Module) : Nat :=
  module.members.length

end Module

end OptionSchema
