import OptionSchema.Proofs.Codegen.Site

/-!
# References between declarations

Which site a declaration of a tree is introduced by (`mem_declarations_iff`), and that every type it
refers to by name is declared in the tree as well (`exists_declaration_of_reference`).
-/

namespace OptionSchema.Codegen

open Naming (Rules typeIdentifier)

/-- A site introduces its own declaration, and one with alternatives also the wrappers of those that
declare no type of their own. -/
inductive Introduces (rules : Rules) : Site → Declaration → Prop where
  | own {site : Site} {declaration : Declaration} :
      Declares rules site.name site.path site.node declaration → Introduces rules site declaration
  | wrapper {name : String} {path : List String} {doc : Doc} {alternatives : List Node}
      {node : Node} :
      isNumber alternatives = false → node ∈ alternatives → declaresType node = false →
        Introduces rules ⟨name, path, .option doc (.either alternatives)⟩
          (wrapperOf rules (typeIdentifier name) node)

variable {rules : Rules} {name identifier : String} {path : List String} {node : Node} {site : Site}
  {declaration : Declaration}

theorem mem_memberDeclarations {contents : Module} :
    declaration ∈ memberDeclarations rules path contents ↔
      ∃ member ∈ contents.members,
        declaration ∈ (nodeListing rules (rules.exported member.1) (path ++ [member.1])
          member.2).declarations := by
  simp [memberDeclarations, Module.sorted]

theorem mem_alternativeDeclarations {sum : String} {alternatives : List Node} :
    declaration ∈ alternativeDeclarations rules path sum alternatives ↔
      ∃ node ∈ alternatives,
        declaration ∈ (nodeListing rules (innerName rules sum node) path node).declarations ∨
          declaresType node = false ∧ declaration = wrapperOf rules sum node := by
  rw [alternativeDeclarations, List.mem_flatMap]
  refine exists_congr fun node => and_congr_right fun _ => ?_
  cases declaresType node <;> simp

theorem Introduces.mem_declarations (introduces : Introduces rules site declaration) :
    declaration ∈ (site.listing rules).declarations := by
  cases introduces with
  | own declares => exact declares.mem_declarations
  | wrapper several member noType =>
      rw [Site.listing, declarations_either several]
      exact List.mem_cons_of_mem _
        (mem_alternativeDeclarations.mpr ⟨_, member, .inr ⟨noType, rfl⟩⟩)

/-- Every declaration that a node is turned into is introduced at a site that is visited from it. -/
theorem exists_introduces (node : Node) : ∀ {name path declaration},
    declaration ∈ (nodeListing rules name path node).declarations →
      ∃ site, Visits rules ⟨name, path, node⟩ site ∧ Introduces rules site declaration := by
  induction node using Node.induction with
  | step node ih =>
      intro name path declaration member
      have module {contents : Module} (holds : node.contents? = some contents)
          (isChild : ∀ member ∈ contents.members, member.2 ∈ node.children) :
          ∃ site, Visits rules ⟨name, path, node⟩ site ∧ Introduces rules site declaration := by
        rw [declarations_of_contents holds, List.mem_cons, mem_memberDeclarations] at member
        rcases member with rfl | ⟨entry, isMember, member⟩
        · exact ⟨_, .refl, .own (.struct holds)⟩
        · obtain ⟨site, visits, introduces⟩ := ih entry.2 (isChild entry isMember) member
          exact ⟨site, visits.head (.member holds isMember), introduces⟩
      cases node with
      | module contents => exact module rfl fun entry isMember => List.mem_map_of_mem isMember
      | option doc kind =>
          cases kind with
          | scalar | unspecified | separatedString => cases member
          | enumeration values =>
              rw [declarations_enumeration, List.mem_singleton] at member
              exact ⟨_, .refl, .own (member ▸ .enumeration)⟩
          | submodule contents =>
              exact module rfl fun entry isMember => List.mem_map_of_mem isMember
          | wrapped wrapper inner =>
              rw [declarations_wrapped] at member
              obtain ⟨site, visits, introduces⟩ := ih inner (List.mem_singleton.mpr rfl) member
              exact ⟨site, visits.head .wrapped, introduces⟩
          | either alternatives =>
              cases several : isNumber alternatives with
              | true =>
                  rw [nodeListing, kindListing, several] at member
                  cases member
              | false =>
                  rw [declarations_either several, List.mem_cons,
                    mem_alternativeDeclarations] at member
                  rcases member with rfl | ⟨inner, isAlternative, member | ⟨noType, rfl⟩⟩
                  · exact ⟨_, .refl, .own (.sum several)⟩
                  · obtain ⟨site, visits, introduces⟩ := ih inner isAlternative member
                    exact ⟨site, visits.head (.alternative several isAlternative), introduces⟩
                  · exact ⟨_, .refl, .wrapper several isAlternative noType⟩

/-- The declarations of a site are those that the sites visited from it introduce. -/
theorem mem_declarations_iff :
    declaration ∈ (site.listing rules).declarations ↔
      ∃ next, Visits rules site next ∧ Introduces rules next declaration := by
  constructor
  · exact exists_introduces site.node
  · rintro ⟨next, visits, introduces⟩
    exact (part_of_visits visits).declarations.subset introduces.mem_declarations

/-! ## References -/

def TypeExpr.identifier? : TypeExpr → Option String
  | .builtin _ => none
  | .named identifier => some identifier
  | .optional inner => inner.identifier?
  | .list inner => inner.identifier?
  | .map inner => inner.identifier?

namespace Declaration

def types : Declaration → List TypeExpr
  | .struct _ _ fields => fields.map (·.type)
  | .enumeration _ _ _ => []
  | .sum _ _ variants => variants.map (·.payload)
  | .wrapper _ _ inner => [inner]

def references (declaration : Declaration) : List String :=
  declaration.types.filterMap (·.identifier?)

end Declaration

/-- The type of a node refers to what the node is turned into. -/
theorem exists_declaration_of_nodeType (node : Node) : ∀ {name path identifier},
    (nodeType name node).identifier? = some identifier →
      ∃ declaration ∈ (nodeListing rules name path node).declarations,
        declaration.identifier = identifier := by
  induction node using Node.induction with
  | step node ih =>
      intro name path identifier refers
      have own {declaration : Declaration} (declares : Declares rules name path node declaration)
          (same : nodeType name node = .named (typeIdentifier name)) :
          ∃ declaration ∈ (nodeListing rules name path node).declarations,
            declaration.identifier = identifier := by
        rw [same] at refers
        cases refers
        exact ⟨_, declares.mem_declarations, declares.identifier_eq⟩
      cases node with
      | module contents => exact own (.struct rfl) rfl
      | option doc kind =>
          cases kind with
          | scalar | unspecified | separatedString => cases refers
          | enumeration => exact own .enumeration rfl
          | submodule => exact own (.struct rfl) rfl
          | wrapped wrapper inner =>
              rw [declarations_wrapped]
              refine ih inner (List.mem_singleton.mpr rfl) ?_
              cases wrapper <;> exact refers
          | either alternatives =>
              cases several : isNumber alternatives with
              | true =>
                  rw [nodeType, kindType, several] at refers
                  cases refers
              | false =>
                  refine own (.sum several) ?_
                  rw [nodeType, kindType, several]
                  rfl

/-- The type of an alternative is declared among the declarations of the alternatives: by the
alternative, or else as its wrapper. -/
theorem exists_declaration_of_alternative (rules : Rules) (path : List String) (sum : String)
    {alternatives : List Node} (member : node ∈ alternatives) :
    ∃ declaration ∈ alternativeDeclarations rules path sum alternatives,
      declaration.identifier = typeIdentifier (alternativeName rules sum node) ∧
        if declaresType node then
          Declares rules (alternativeName rules sum node) path node declaration
        else declaration = wrapperOf rules sum node := by
  cases hasType : declaresType node with
  | true =>
      obtain ⟨declaration, declares⟩ :
          ∃ declaration, Declares rules (alternativeName rules sum node) path node declaration :=
        exists_declares_iff.mpr hasType
      refine ⟨declaration, ?_, declares.identifier_eq, declares⟩
      refine mem_alternativeDeclarations.mpr ⟨node, member, .inl ?_⟩
      rw [innerName, hasType]
      exact declares.mem_declarations
  | false =>
      exact ⟨_, mem_alternativeDeclarations.mpr ⟨node, member, .inr ⟨hasType, rfl⟩⟩, rfl, rfl⟩

/-- Whatever a declaration refers to by name is declared in the same tree. -/
theorem exists_declaration_of_reference
    (member : declaration ∈ (site.listing rules).declarations)
    (refers : identifier ∈ declaration.references) :
    ∃ declared ∈ (site.listing rules).declarations, declared.identifier = identifier := by
  obtain ⟨next, visits, introduces⟩ := mem_declarations_iff.mp member
  have inside := (part_of_visits visits).declarations.subset
  obtain ⟨type, isType, named⟩ := List.mem_filterMap.mp refers
  suffices ∃ declared ∈ (next.listing rules).declarations, declared.identifier = identifier by
    obtain ⟨declared, isDeclared, same⟩ := this
    exact ⟨declared, inside isDeclared, same⟩
  cases introduces with
  | wrapper several isAlternative noType =>
      rw [List.mem_singleton.mp isType] at named
      obtain ⟨declared, isDeclared, same⟩ := exists_declaration_of_nodeType _ named
      refine ⟨declared, ?_, same⟩
      rw [Site.listing, declarations_either several]
      exact List.mem_cons_of_mem _
        (mem_alternativeDeclarations.mpr ⟨_, isAlternative, .inl isDeclared⟩)
  | own declares =>
      obtain ⟨name, path, node⟩ := next
      rw [Site.listing]
      simp only at declares
      clear visits inside
      induction declares with
      | @struct node contents holds =>
          simp only [Declaration.types, structOf, List.map_map, List.mem_map,
            Function.comp_apply] at isType
          obtain ⟨entry, isMember, rfl⟩ := isType
          obtain ⟨declared, isDeclared, same⟩ := exists_declaration_of_nodeType entry.2 named
          refine ⟨declared, ?_, same⟩
          rw [declarations_of_contents holds]
          exact List.mem_cons_of_mem _
            (mem_memberDeclarations.mpr ⟨entry, mem_canonicalOrder.mp isMember, isDeclared⟩)
      | enumeration => cases isType
      | sum several =>
          simp only [Declaration.types, sumOf, List.map_map, List.mem_map,
            Function.comp_apply] at isType
          obtain ⟨inner, isAlternative, rfl⟩ := isType
          cases named
          obtain ⟨declared, isDeclared, same, -⟩ :=
            exists_declaration_of_alternative rules path (typeIdentifier name) isAlternative
          refine ⟨declared, ?_, same⟩
          rw [declarations_either several]
          exact List.mem_cons_of_mem _ isDeclared
      | unique _ ih =>
          rw [declarations_wrapped]
          exact ih member refers isType

end OptionSchema.Codegen
