import OptionSchema.Proofs.Json.Value
import OptionSchema.Proofs.Schema.Node

/-!
# Modules in order

A module and the modules and objects within it are dictionaries, whose order is a condition on the
lists that they are made of. `OrderedModule` is a module together with its order. The operations that
build modules of nodes in order keep it.
-/

namespace OptionSchema

open Json (Value)

def Doc.values (doc : Doc) : List Value :=
  doc.example?.toList ++ doc.default?.toList

theorem Doc.mem_values {doc : Doc} {value : Value} :
    value ∈ doc.values ↔ doc.example? = some value ∨ doc.default? = some value := by
  simp [Doc.values]

theorem Doc.forall_mem_values_iff {doc : Doc} {property : Value → Prop} :
    (∀ value ∈ doc.values, property value) ↔
      (∀ value ∈ doc.example?, property value) ∧ ∀ value ∈ doc.default?, property value := by
  simp only [mem_values, or_imp, forall_and, Option.mem_def]

/-- The names of the module that a node holds are in ascending order, and the objects in its
documentation are dictionaries. -/
structure Node.IsOrdered (node : Node) : Prop where
  ascending : ∀ contents, node.contents? = some contents → Dictionary.Ascending contents.members
  values : ∀ value ∈ node.doc.values, value.Ordered

theorem Node.IsOrdered.ascending_submodule {doc : Doc} {kind : Kind}
    (ordered : (Node.option doc kind).IsOrdered) :
    ∀ contents, kind = .submodule contents → Dictionary.Ascending contents.members := by
  rintro contents rfl
  exact ordered.ascending contents rfl

namespace Module

/-- The names in a module and in everything within it are in ascending order. -/
structure Ordered (module : Module) : Prop where
  ascending : Dictionary.Ascending module.members
  inside : module.Everywhere Node.IsOrdered

variable {module : Module}

/-- A module as a node has all that is in it in order. -/
theorem Ordered.everywhere_node (ordered : module.Ordered) :
    (Node.module module).Everywhere Node.IsOrdered := by
  refine Node.everywhere_iff.mpr ⟨⟨?_, nofun⟩, everywhere_iff.mp ordered.inside⟩
  rintro _ ⟨⟩
  exact ordered.ascending

theorem ordered_empty : Ordered empty :=
  ⟨Dictionary.ascending_nil, everywhere_iff.mpr (List.forall_mem_nil _)⟩

theorem Ordered.insert (ordered : module.Ordered) (name : String) {node : Node}
    (inside : node.Everywhere Node.IsOrdered) : (module.insert name node).Ordered := by
  refine ⟨ordered.ascending.insert name node, everywhere_iff.mpr (List.forall_mem_map.mpr ?_)⟩
  intro member isMember
  rcases Dictionary.mem_insert isMember with rfl | earlier
  · exact inside
  · exact everywhere_iff.mp ordered.inside member.2 (List.mem_map_of_mem earlier)

theorem ordered_ofPairs {pairs : List (String × Node)}
    (inside : ∀ pair ∈ pairs, pair.2.Everywhere Node.IsOrdered) : (ofPairs pairs).Ordered := by
  refine ⟨Dictionary.ascending_ofPairs pairs, everywhere_iff.mpr (List.forall_mem_map.mpr ?_)⟩
  exact fun member isMember => inside member (Dictionary.mem_of_mem_ofPairs isMember)

end Module

structure OrderedModule extends Module where
  ordered : toModule.Ordered

instance : Coe OrderedModule Module := ⟨OrderedModule.toModule⟩

end OptionSchema
