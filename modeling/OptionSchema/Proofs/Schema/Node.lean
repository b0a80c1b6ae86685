import OptionSchema.Proofs.Dictionary
import OptionSchema.Schema.Node

/-!
# The nodes of a tree of options

The nodes within a module are its members, the inner nodes and alternatives of options, the members
of submodules, and so on. The module itself and what a submodule option holds are no nodes, since
nothing but a module can stand there. `Module.Everywhere` states a property of all nodes within a
module; the conditions on documents that can be written and read again are of this kind.
-/

namespace OptionSchema

/-- Every tag is in the vocabulary under its name. -/
theorem Tag.ofName?_name (tag : Tag) : ofName? tag.name = some tag := by
  cases tag with
  | scalar scalar => cases scalar <;> rfl
  | wrapped wrapper => cases wrapper <;> rfl
  | _ => rfl

theorem Tag.isRegistered_name (tag : Tag) : isRegistered tag.name = true := by
  rw [isRegistered, ofName?_name]
  rfl

def Module.nodes (module : Module) : List Node :=
  module.members.map Prod.snd

def Kind.children : Kind → List Node
  | .wrapped _ inner => [inner]
  | .either alternatives => alternatives
  | .submodule contents => contents.nodes
  | _ => []

namespace Node

def children : Node → List Node
  | .module contents => contents.nodes
  | .option _ kind => kind.children

/-- The nodes right inside a module or a submodule option are those of the module that it holds. -/
theorem children_of_contents? {node : Node} {contents : Module}
    (holds : node.contents? = some contents) : node.children = contents.nodes := by
  unfold contents? at holds
  split at holds <;> cases holds <;> rfl

/-- What holds of a node whose children have it holds of every node. -/
@[elab_as_elim]
theorem induction {motive : Node → Prop}
    (step : ∀ node, (∀ child ∈ node.children, motive child) → motive node) (node : Node) :
    motive node := by
  refine @Node.rec motive (fun kind => ∀ child ∈ kind.children, motive child)
    (fun module => ∀ child ∈ module.nodes, motive child) (fun nodes => ∀ node ∈ nodes, motive node)
    (fun members => ∀ member ∈ members, motive member.2) (fun member => motive member.2)
    ?module ?option ?scalar ?unspecified ?enumeration ?separatedString ?wrapped ?either ?submodule
    ?contents ?noNode ?node ?noMember ?member ?pair node
  case module => exact fun contents holds => step _ holds
  case option => exact fun doc kind holds => step _ holds
  case scalar => exact fun _ _ member => nomatch member
  case unspecified => exact fun _ _ member => nomatch member
  case enumeration => exact fun _ _ member => nomatch member
  case separatedString => exact fun _ _ member => nomatch member
  case wrapped => exact fun _ inner holds => List.forall_mem_singleton.mpr holds
  case either => exact fun _ holds => holds
  case submodule => exact fun _ holds => holds
  case contents => exact fun _ holds => List.forall_mem_map.mpr holds
  case noNode => exact fun _ member => nomatch member
  case node => exact fun _ _ first others => List.forall_mem_cons.mpr ⟨first, others⟩
  case noMember => exact fun _ member => nomatch member
  case member => exact fun _ _ first others => List.forall_mem_cons.mpr ⟨first, others⟩
  case pair => exact fun _ _ holds => holds

/-- A node is a bare module, an option outside the vocabulary, or an option within it. -/
@[elab_as_elim]
theorem vocabularyCases {motive : Node → Prop} (module : ∀ contents, motive (.module contents))
    (outside : ∀ doc source, motive (.option doc (.unspecified source)))
    (known : ∀ doc kind, kind.tag ≠ .unspecified → motive (.option doc kind)) (node : Node) :
    motive node := by
  cases node with
  | module contents => exact module contents
  | option doc kind =>
      by_cases isOutside : kind.tag = .unspecified
      · cases kind with
        | unspecified source => exact outside doc source
        | _ => cases isOutside
      · exact known doc kind isOutside

/-- A node lies within another one, at any depth, or is that node. -/
inductive Within (part : Node) : Node → Prop where
  | self : Within part part
  | inside {node child : Node} : child ∈ node.children → Within part child → Within part node

def Everywhere (property : Node → Prop) (node : Node) : Prop :=
  ∀ part, Within part node → property part

theorem everywhere_iff {property : Node → Prop} {node : Node} :
    node.Everywhere property ↔
      property node ∧ ∀ child ∈ node.children, child.Everywhere property := by
  constructor
  · intro holds
    exact ⟨holds node .self, fun child member part within => holds part (.inside member within)⟩
  · rintro ⟨first, others⟩ part within
    cases within with
    | self => exact first
    | inside member within => exact others _ member part within

theorem everywhere_of_children_eq_nil {property : Node → Prop} {node : Node}
    (holds : property node) (leaf : node.children = []) : node.Everywhere property := by
  refine everywhere_iff.mpr ⟨holds, fun child member => ?_⟩
  rw [leaf] at member
  cases member

end Node

namespace Module

def Contains (module : Module) (part : Node) : Prop :=
  ∃ node ∈ module.nodes, Node.Within part node

def Everywhere (property : Node → Prop) (module : Module) : Prop :=
  ∀ part, module.Contains part → property part

theorem everywhere_iff {property : Node → Prop} {module : Module} :
    module.Everywhere property ↔ ∀ node ∈ module.nodes, node.Everywhere property := by
  constructor
  · intro holds node member part within
    exact holds part ⟨node, member, within⟩
  · rintro holds part ⟨node, member, within⟩
    exact holds node member part within

/-- A module with one node and nothing in it. -/
theorem everywhere_singleton {property : Node → Prop} {name : String} {node : Node}
    (holds : property node) (leaf : node.children = []) :
    Module.Everywhere property ⟨[(name, node)]⟩ := by
  refine everywhere_iff.mpr fun child member => ?_
  rw [List.mem_singleton.mp member]
  exact Node.everywhere_of_children_eq_nil holds leaf

end Module

/-! ## Positions of nodes

A position is a list of steps that lead from a node to one within it: to the members of a bare
module, to what a wrapper wraps, to an alternative, and to the members of a submodule. -/

inductive Step where
  | member (name : String)
  | inner
  | alternative (index : Nat)
  | content (name : String)

namespace Node

def child? : Node → Step → Option Node
  | .module contents, .member name => contents.get? name
  | .option _ (.wrapped _ inner), .inner => some inner
  | .option _ (.either nodes), .alternative index => nodes[index]?
  | .option _ (.submodule contents), .content name => contents.get? name
  | _, _ => none

def at? (node : Node) : List Step → Option Node
  | [] => some node
  | step :: rest => (node.child? step).bind fun child => child.at? rest

end Node

def Module.at? (module : Module) (name : String) (steps : List Step) : Option Node :=
  (module.get? name).bind fun node => node.at? steps

theorem Module.mem_nodes_of_get? {module : Module} {name : String} {node : Node}
    (found : module.get? name = some node) : node ∈ module.nodes :=
  List.mem_map_of_mem (Dictionary.mem_of_get? found)

/-- Steps lead to children. -/
theorem Node.mem_children_of_child? {node child : Node} {step : Step}
    (isChild : node.child? step = some child) : child ∈ node.children := by
  cases node with
  | module contents =>
      cases step with
      | member name => exact Module.mem_nodes_of_get? isChild
      | _ => cases isChild
  | option doc kind =>
      cases kind with
      | wrapped wrapper inner =>
          cases step with
          | inner =>
              cases isChild
              exact List.mem_singleton.mpr rfl
          | _ => cases isChild
      | either nodes =>
          cases step with
          | alternative index => exact List.mem_of_getElem? isChild
          | _ => cases isChild
      | submodule contents =>
          cases step with
          | content name => exact Module.mem_nodes_of_get? isChild
          | _ => cases isChild
      | _ => cases isChild

end OptionSchema
