import OptionSchema.Proofs.Json.Address
import OptionSchema.Proofs.Wire.RoundTrip

/-!
# Where nodes stand in their documents

`Node.writtenAt?` tells which node is written at an address of the tree of another one, and
`Node.keeps` at which addresses there is a tree that was kept as it is. Main statements: a node that
is written at an address stands there (`at_of_writtenAt?`), and a relation of trees that passes from
parts to the whole holds of what a node is written as in two layouts (`related_nodeTree`).
-/

namespace OptionSchema

open Json (Address Key Layout Places Tree Value)

/-- The node that is written at an address of the tree of a node. What a submodule option holds
counts as a bare module there. -/
def Node.writtenAt? : Node → Address → Option Node
  | node, [] => some node
  | .module contents, .member (some name) :: rest =>
      (contents.get? name).bind fun node => node.writtenAt? rest
  | .option _ (.wrapped wrapper inner), .member (some name) :: rest =>
      if name = wrapper.name then inner.writtenAt? rest else none
  | .option _ (.either alternatives), .member (some name) :: .item index :: rest =>
      if name = "either" then alternatives[index]?.bind fun node => node.writtenAt? rest else none
  | .option _ (.submodule contents), .member (some name) :: rest =>
      if name = "submodule" then (Node.module contents).writtenAt? rest else none
  | _, _ => none

/-- Whether a node is an option outside the vocabulary, which is written as the tree it keeps. -/
def Node.isUnspecified : Node → Bool
  | .option _ (.unspecified _) => true
  | _ => false

/-- The places at which trees are kept in the tree of a node. -/
def Node.keeps (node : Node) : Places :=
  fun address => (node.writtenAt? address).any Node.isUnspecified

namespace Wire

variable {layout layout' : Layout} {depth depth' : Nat} {doc : Doc} {kind : Kind} {name : String}
  {contents : Module} {node inner part : Node} {address : Address}

theorem writtenAt?_nil (node : Node) : node.writtenAt? [] = some node := by
  cases node <;> rfl

theorem writtenAt?_member (contents : Module) (name : String) (rest : Address) :
    (Node.module contents).writtenAt? (.member (some name) :: rest) =
      (contents.get? name).bind fun node => node.writtenAt? rest :=
  rfl

theorem writtenAt?_inner (doc : Doc) (wrapper : Wrapper) (inner : Node) (name : String)
    (rest : Address) :
    (Node.option doc (.wrapped wrapper inner)).writtenAt? (.member (some name) :: rest) =
      if name = wrapper.name then inner.writtenAt? rest else none :=
  rfl

theorem writtenAt?_alternative (doc : Doc) (nodes : List Node) (name : String) (index : Nat)
    (rest : Address) :
    (Node.option doc (.either nodes)).writtenAt? (.member (some name) :: .item index :: rest) =
      if name = "either" then nodes[index]?.bind fun node => node.writtenAt? rest else none :=
  rfl

theorem writtenAt?_submodule (doc : Doc) (contents : Module) (name : String) (rest : Address) :
    (Node.option doc (.submodule contents)).writtenAt? (.member (some name) :: rest) =
      if name = "submodule" then (Node.module contents).writtenAt? rest else none :=
  rfl

/-! ## Places below a node -/

theorem keeps_under_member (found : contents.get? name = some node) :
    (Node.module contents).keeps.under (.member (some name)) = node.keeps := by
  funext address
  simp only [Places.under, Node.keeps, writtenAt?_member, found, Option.bind_some]

theorem keeps_under_inner (wrapper : Wrapper) :
    (Node.option doc (.wrapped wrapper inner)).keeps.under (.member (some wrapper.name)) =
      inner.keeps := by
  funext address
  simp only [Places.under, Node.keeps, writtenAt?_inner, if_pos]

theorem keeps_under_alternative {nodes : List Node} {index : Nat}
    (isNode : nodes[index]? = some node) :
    ((Node.option doc (.either nodes)).keeps.under (.member (some "either"))).under (.item index) =
      node.keeps := by
  funext address
  simp only [Places.under, Node.keeps, writtenAt?_alternative, if_pos, isNode, Option.bind_some]

theorem keeps_under_submodule :
    (Node.option doc (.submodule contents)).keeps.under (.member (some "submodule")) =
      (Node.module contents).keeps := by
  funext address
  simp only [Places.under, Node.keeps, writtenAt?_submodule, if_pos]

/-- Nothing is kept in the fields of an option but in its payload field. -/
theorem keeps_under_other (other : payloadField? kind.tag ≠ some name) :
    (Node.option doc kind).keeps.under (.member (some name)) = fun _ => false := by
  funext address
  cases kind with
  | wrapped wrapper inner =>
      have apart : name ≠ wrapper.name := by
        rintro rfl
        exact other rfl
      simp [Places.under, Node.keeps, writtenAt?_inner, apart]
  | either nodes =>
      have apart : name ≠ "either" := by
        rintro rfl
        exact other rfl
      cases address with
      | nil => rfl
      | cons key rest =>
          cases key with
          | member name => rfl
          | item index => simp [Places.under, Node.keeps, writtenAt?_alternative, apart]
  | submodule contents =>
      have apart : name ≠ "submodule" := by
        rintro rfl
        exact other rfl
      simp [Places.under, Node.keeps, writtenAt?_submodule, apart]
  | _ => rfl

/-! ## Nodes at their addresses -/

/-- What stands in the payload field of an option. -/
theorem at_of_payload {tree part : Tree}
    (payload : payloadTrees layout (depth + 1) kind = [(name, tree)])
    (isAt : tree.At address part) :
    (nodeTree layout depth (.option doc kind)).At (.member (some name) :: address) part := by
  have known : kind.tag ≠ .unspecified := by
    cases kind with
    | unspecified => cases payload
    | _ => exact nofun
  have isEntry : (name, tree) ∈ optionEntries layout (depth + 1) doc kind :=
    Dictionary.mem_of_mem_ofPairs (Dictionary.mem_of_get? (get?_payload payload))
  rw [nodeTree_option known]
  exact Tree.at_object isEntry isAt

/-- A node that is written at an address stands there. -/
theorem at_of_writtenAt? (written : node.writtenAt? address = some part) (layout : Layout)
    (depth : Nat) :
    ∃ depth', (nodeTree layout depth node).At address (nodeTree layout depth' part) := by
  fun_induction Node.writtenAt? node address generalizing depth with
  | case1 node =>
      cases written
      exact ⟨depth, .here⟩
  | case2 contents name rest ih =>
      obtain ⟨node, found, written⟩ := Option.bind_eq_some_iff.mp written
      obtain ⟨depth', isAt⟩ := ih node written (depth + 1)
      refine ⟨depth', ?_⟩
      rw [nodeTree, moduleTree_eq]
      exact Tree.at_object (List.mem_map_of_mem (Dictionary.mem_of_get? found)) isAt
  | case3 doc wrapper inner rest ih =>
      obtain ⟨depth', isAt⟩ := ih written (depth + 1)
      exact ⟨depth', at_of_payload rfl isAt⟩
  | case5 doc nodes index rest ih =>
      obtain ⟨node, isNode, written⟩ := Option.bind_eq_some_iff.mp written
      obtain ⟨depth', isAt⟩ := ih node written (depth + 2)
      refine ⟨depth', at_of_payload rfl ?_⟩
      rw [alternativeTrees_eq_map]
      exact Tree.at_array (by rw [List.getElem?_map, isNode]; rfl) isAt
  | case7 doc contents rest ih =>
      obtain ⟨depth', isAt⟩ := ih written (depth + 1)
      exact ⟨depth', at_of_payload rfl isAt⟩
  | case4 | case6 | case8 | case9 => cases written

theorem exists_steps_of_member {contents : Module} {child : Node}
    (ascending : Dictionary.Ascending contents.members) (member : child ∈ contents.nodes) :
    ∃ name, ∀ rest, (Node.module contents).writtenAt? (.member (some name) :: rest) =
      child.writtenAt? rest := by
  obtain ⟨⟨name, node⟩, isMember, rfl⟩ := List.mem_map.mp member
  have found : contents.get? name = some node := ascending.get?_of_mem isMember
  refine ⟨name, fun rest => ?_⟩
  simp only [writtenAt?_member, found, Option.bind_some]

/-- A child of a node is written at an address of its own. -/
theorem exists_steps_of_child {child : Node} (ordered : node.IsOrdered)
    (isChild : child ∈ node.children) :
    ∃ steps, ∀ rest, node.writtenAt? (steps ++ rest) = child.writtenAt? rest := by
  cases node with
  | module contents =>
      obtain ⟨name, leads⟩ := exists_steps_of_member (ordered.ascending contents rfl) isChild
      exact ⟨[.member (some name)], leads⟩
  | option doc kind =>
      cases kind with
      | wrapped wrapper inner =>
          obtain rfl := List.mem_singleton.mp isChild
          refine ⟨[.member (some wrapper.name)], fun rest => ?_⟩
          simp only [List.singleton_append, writtenAt?_inner, if_pos]
      | either nodes =>
          obtain ⟨index, isNode⟩ : ∃ index : Nat, nodes[index]? = some child :=
            List.mem_iff_getElem?.mp isChild
          refine ⟨[.member (some "either"), .item index], fun rest => ?_⟩
          simp only [List.cons_append, List.nil_append, writtenAt?_alternative, if_pos, isNode,
            Option.bind_some]
      | submodule contents =>
          obtain ⟨name, leads⟩ := exists_steps_of_member (ordered.ascending contents rfl) isChild
          refine ⟨[.member (some "submodule"), .member (some name)], fun rest => ?_⟩
          simpa only [List.cons_append, List.nil_append, writtenAt?_submodule, if_pos] using leads rest
      | _ => cases isChild

/-- Every node within another one is written at some address. -/
theorem exists_writtenAt? (ordered : node.Everywhere Node.IsOrdered)
    (within : Node.Within part node) :
    ∃ address, node.writtenAt? address = some part := by
  induction within with
  | self => exact ⟨[], writtenAt?_nil _⟩
  | inside isChild _ ih =>
      obtain ⟨own, inside⟩ := Node.everywhere_iff.mp ordered
      obtain ⟨rest, written⟩ := ih (inside _ isChild)
      obtain ⟨steps, leads⟩ := exists_steps_of_child own isChild
      exact ⟨steps ++ rest, (leads rest).trans written⟩

/-! ## The order of the fields of an option -/

/-- The fields of an option but the envelope come after it. -/
theorem type_lt_of_mem_keys (isKey : name ∈ Dictionary.keys (Dictionary.ofPairs
    (docTrees layout depth doc ++ payloadTrees layout depth kind))) : "_type" < name := by
  obtain ⟨tree, member⟩ := Dictionary.mem_keys.mp (Dictionary.mem_keys_ofPairs.mp isKey)
  rcases List.mem_append.mp member with ofDoc | ofPayload
  · obtain ⟨field, -, mapped⟩ := List.mem_filterMap.mp ofDoc
    obtain ⟨_, -, same⟩ := Option.map_eq_some_iff.mp mapped
    cases same
    cases field <;> decide
  · have isField := payloadField?_of_mem ofPayload
    generalize kind.tag = tag at isField
    cases tag with
    | scalar => cases isField
    | unspecified => cases isField
    | wrapped wrapper => cases wrapper <;> cases isField <;> decide
    | _ =>
        cases isField
        decide

theorem ascending_optionEntries : Dictionary.Ascending (optionEntries layout depth doc kind) := by
  have first : "_option" < "_type" := by decide
  rw [optionEntries, Dictionary.ascending_cons, Dictionary.ascending_cons]
  refine ⟨fun name isKey => ?_, fun name isKey => type_lt_of_mem_keys isKey,
    Dictionary.ascending_ofPairs _⟩
  rcases List.mem_cons.mp isKey with rfl | isKey
  · exact first
  · exact String.lt_trans first (type_lt_of_mem_keys isKey)

/-! ## What passes from parts to the whole -/

/-- A relation of what is written in two layouts, given the places at which trees are kept, that
passes from the parts of arrays and objects to the whole. -/
structure IsCompositional (layout layout' : Layout) (related : Places → Tree → Tree → Prop) :
    Prop where
  kept {kept : Places} (source : Tree) : kept [] = true → related kept source source
  value (value : Value) (depth depth' : Nat) : value.Ordered →
    related (fun _ => false) (value.tree layout depth) (value.tree layout' depth')
  array {kept : Places} {nodes : List Node} {tree tree' : Node → Tree} (depth depth' : Nat) :
    kept [] = false →
    (∀ (index : Nat) (node : Node), nodes[index]? = some node →
      related (kept.under (.item index)) (tree node) (tree' node)) →
    related kept (layout.array depth (nodes.map tree)) (layout'.array depth' (nodes.map tree'))
  object {kept : Places} {members members' : List (String × Tree)} (depth depth' : Nat) :
    kept [] = false → Dictionary.Ascending members →
    List.Forall₂ (fun member member' => member.1 = member'.1 ∧
      related (kept.under (.member (some member.1))) member.2 member'.2) members members' →
    related kept (layout.object depth members) (layout'.object depth' members')

section

variable {related : Places → Tree → Tree → Prop}
  (compositional : IsCompositional layout layout' related)

include compositional

theorem related_moduleTree (ascending : Dictionary.Ascending contents.members)
    (each : ∀ node ∈ contents.nodes, ∀ depth depth',
      related node.keeps (nodeTree layout depth node) (nodeTree layout' depth' node))
    (depth depth' : Nat) :
    related (Node.module contents).keeps (moduleTree layout depth contents)
      (moduleTree layout' depth' contents) := by
  rw [moduleTree_eq, moduleTree_eq]
  refine compositional.object depth depth' rfl (ascending.of_keys_eq (by simp [Dictionary.keys])) ?_
  rw [List.forall₂_map_left_iff, List.forall₂_map_right_iff, List.forall₂_same]
  intro member isMember
  have found : contents.get? member.1 = some member.2 := ascending.get?_of_mem isMember
  rw [keeps_under_member found]
  exact ⟨rfl, each member.2 (List.mem_map_of_mem isMember) _ _⟩

/-- The fields at which an option and what is written for it in the other layout are related. -/
theorem related_docTrees (ordered : ∀ value ∈ doc.values, value.Ordered) (kind : Kind)
    (depth depth' : Nat) :
    List.Forall₂ (fun member member' => member.1 = member'.1 ∧
      related ((Node.option doc kind).keeps.under (.member (some member.1))) member.2 member'.2)
      (docTrees layout depth doc) (docTrees layout' depth' doc) := by
  rw [docTrees_eq_map, docTrees_eq_map, List.forall₂_map_left_iff, List.forall₂_map_right_iff,
    List.forall₂_same]
  intro entry isEntry
  obtain ⟨field, -, mapped⟩ := List.mem_filterMap.mp isEntry
  obtain ⟨value, written, rfl⟩ := Option.map_eq_some_iff.mp mapped
  refine ⟨rfl, ?_⟩
  rw [keeps_under_other (payloadField?_ne_docField kind.tag field)]
  exact compositional.value value depth depth' (DocField.ordered_written? ordered written)

theorem related_payloadTrees
    (ascending : ∀ contents, kind = .submodule contents → Dictionary.Ascending contents.members)
    (each : ∀ child ∈ kind.children, ∀ depth depth',
      related child.keeps (nodeTree layout depth child) (nodeTree layout' depth' child))
    (doc : Doc) (depth depth' : Nat) :
    List.Forall₂ (fun member member' => member.1 = member'.1 ∧
      related ((Node.option doc kind).keeps.under (.member (some member.1))) member.2 member'.2)
      (payloadTrees layout depth kind) (payloadTrees layout' depth' kind) := by
  cases kind with
  | scalar => exact .nil
  | unspecified => exact .nil
  | enumeration values =>
      have ordered : (Value.array (values.map .string)).Ordered := by
        refine Value.everywhere_iff.mpr ⟨trivial, List.forall_mem_map.mpr fun text _ => ?_⟩
        exact Value.ordered_string text
      have related := compositional.value _ depth depth' ordered
      rw [Value.tree, Value.tree, Value.itemTrees_eq_map, Value.itemTrees_eq_map, List.map_map,
        List.map_map] at related
      exact .cons ⟨rfl, related⟩ .nil
  | separatedString separator =>
      exact .cons ⟨rfl, compositional.value _ depth depth' (Value.ordered_string separator)⟩ .nil
  | wrapped wrapper inner =>
      refine .cons ⟨rfl, ?_⟩ .nil
      rw [keeps_under_inner]
      exact each inner (List.mem_singleton.mpr rfl) depth depth'
  | either nodes =>
      rw [payloadTrees, payloadTrees, alternativeTrees_eq_map, alternativeTrees_eq_map]
      refine .cons ⟨rfl, compositional.array depth depth' rfl fun index node isNode => ?_⟩ .nil
      rw [keeps_under_alternative isNode]
      exact each node (List.mem_of_getElem? isNode) _ _
  | submodule contents =>
      refine .cons ⟨rfl, ?_⟩ .nil
      rw [keeps_under_submodule]
      exact related_moduleTree compositional (ascending contents rfl) each depth depth'

/-- What a node is written as in two layouts is related. -/
theorem related_nodeTree {node : Node} (ordered : node.Everywhere Node.IsOrdered)
    (depth depth' : Nat) :
    related node.keeps (nodeTree layout depth node) (nodeTree layout' depth' node) := by
  induction node using Node.induction generalizing depth depth' with
  | step node ih =>
      obtain ⟨own, inside⟩ := Node.everywhere_iff.mp ordered
      have each (child : Node) (member : child ∈ node.children) (depth depth' : Nat) :
          related child.keeps (nodeTree layout depth child) (nodeTree layout' depth' child) :=
        ih child member (inside child member) depth depth'
      cases node using Node.vocabularyCases with
      | module contents =>
          exact related_moduleTree compositional (own.ascending contents rfl) each depth depth'
      | outside doc source => exact compositional.kept source rfl
      | known doc kind known =>
          rw [nodeTree_option known, nodeTree_option known]
          have notKept : (Node.option doc kind).keeps [] = false := by
            cases kind with
            | unspecified source => exact absurd rfl known
            | _ => rfl
          obtain ⟨neOption, neType⟩ := payloadField?_ne_envelope kind.tag
          refine compositional.object depth depth' notKept ascending_optionEntries
            (.cons ⟨rfl, ?_⟩ (.cons ⟨rfl, ?_⟩
              (Dictionary.forall₂_ofPairs (fun _ _ same => same.1) (List.rel_append ?_ ?_))))
          · rw [keeps_under_other neOption]
            exact compositional.value (.bool true) depth depth' (Value.ordered_bool true)
          · rw [keeps_under_other neType]
            exact compositional.value (.string kind.tag.name) depth depth' (Value.ordered_string _)
          · exact related_docTrees compositional own.values kind _ _
          · exact related_payloadTrees compositional own.ascending_submodule each doc _ _

end

end Wire

end OptionSchema
