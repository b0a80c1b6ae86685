import OptionSchema.Proofs.Json.Blank
import OptionSchema.Proofs.Wire.Address
import OptionSchema.Proofs.Wire.Vocabulary

/-!
# The indented document without its blanks

Main statement: `withoutBlanks_encodePretty`. The two documents of a module differ only in blanks that
stand neither in a string nor in a tree that was kept as it is.
-/

namespace OptionSchema.Wire

open Json (Layout Marked Places Tree withoutBlanks)

/-- What a layout leaves of trees passes from parts to the whole. -/
theorem isCompositional_leavesTree (layout : Layout) :
    IsCompositional layout .compact Json.LeavesTree where
  kept _ isKept := Json.leavesTree_of_kept isKept
  value value depth depth' _ := Json.leavesTree_value value layout depth depth'
  array _ _ notKept each := Json.leavesTree_array notKept each
  object _ _ notKept _ each := Json.leavesTree_object notKept each

/-- The trees that a module keeps stand in its indented document. With the characters of these trees
marked, deleting all blanks outside them and outside strings leaves the compact document. -/
theorem withoutBlanks_encodePretty (module : OrderedModule)
    (kept : module.Everywhere KeepsWellFormed) :
    ∃ tree, Tree.ofBytes? (encodePretty module).toUTF8 = .ok tree ∧
      (∀ address doc source,
        (Node.module module).writtenAt? address = some (.option doc (.unspecified source)) →
        tree.At address source) ∧
      (tree.marked (Node.module module).keeps).text = (encodePretty module).toList ∧
      String.ofList (withoutBlanks .outside (tree.marked (Node.module module).keeps)) =
        encode module := by
  refine ⟨moduleTree .indented 0 module, ofBytes?_document (wellFormed_moduleTree kept .indented 0),
    fun address doc source written => ?_, ?_, ?_⟩
  · obtain ⟨_, isAt⟩ := at_of_writtenAt? written .indented 0
    exact isAt
  · rw [Tree.text_marked, encodePretty, document, String.toList_ofList]
  · have leaves : Json.LeavesTree (Node.module module).keeps (moduleTree .indented 0 module)
        (moduleTree .compact 0 module) :=
      related_nodeTree (isCompositional_leavesTree .indented) module.ordered.everywhere_node 0 0
    rw [leaves.eq]
    rfl

/-- The tree that the choice keeps has blanks of its own, which stay. -/
theorem withoutBlanks_capturedChoice :
    Module.Everywhere KeepsWellFormed ⟨[("choice", capturedChoice)]⟩ ∧
      ∃ tree, Tree.ofBytes? (encodePretty ⟨[("choice", capturedChoice)]⟩).toUTF8 = .ok tree ∧
        tree.At [.member (some "choice"), .member (some "either"), .item 1, .member (some "nullOr")]
          capturedTree ∧
        String.ofList (withoutBlanks .outside
          (tree.marked (Node.module ⟨[("choice", capturedChoice)]⟩).keeps)) =
          encode ⟨[("choice", capturedChoice)]⟩ := by
  have ordered : Module.Ordered ⟨[("choice", capturedChoice)]⟩ := by
    have leaf (kind : Kind) (notModule : (Node.option .empty kind).contents? = none) :
        (Node.option .empty kind).IsOrdered := by
      refine ⟨fun contents holds => ?_, List.forall_mem_nil _⟩
      rw [notModule] at holds
      cases holds
    have inside := everywhere_capturedChoice (leaf _ rfl) (leaf _ rfl) (leaf _ rfl) (leaf _ rfl)
    exact ⟨List.pairwise_singleton _ _,
      Module.everywhere_iff.mpr (List.forall_mem_singleton.mpr inside)⟩
  have kept : Module.Everywhere KeepsWellFormed ⟨[("choice", capturedChoice)]⟩ :=
    Module.everywhere_iff.mpr (List.forall_mem_singleton.mpr fun part within =>
      (keepsCaptured_capturedChoice part within).keepsWellFormed)
  obtain ⟨tree, scanned, stands, -, squeezed⟩ := withoutBlanks_encodePretty ⟨_, ordered⟩ kept
  exact ⟨kept, tree, scanned, stands _ .empty _ rfl, squeezed⟩

end OptionSchema.Wire
