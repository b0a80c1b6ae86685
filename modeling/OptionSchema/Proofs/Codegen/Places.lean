import OptionSchema.Proofs.Codegen.Collision
import OptionSchema.Proofs.Codegen.Reference

/-!
# The places of declarations

A place is reserved when the walk enters a module or a sum type and filled when it leaves again. In
between the walk appends filled places and touches no other, so that the declarations of a file are
those of the tree, in the order of the listing (`generate_places`).
-/

namespace OptionSchema.Codegen

open Naming (Rules typeIdentifier)

/-! ## Steps that append places -/

variable {α : Type}

/-- A step leaves the places that there are as they are and appends filled ones. -/
def Appends (step : Emit α) (declarations : List Declaration) : Prop :=
  ∀ emitter emitter' value, emitter.types.name = .types →
    step.run emitter = .ok (value, emitter') →
      emitter'.items.toList = emitter.items.toList ++ declarations.map some

/-- A step reserves the next place, gives its number and a value, and appends filled places behind
it. The place itself is still empty in the end. -/
def Opens (step : Emit (Nat × α)) (value : α) (inner : List Declaration) : Prop :=
  ∀ emitter emitter' place value', emitter.types.name = .types →
    step.run emitter = .ok ((place, value'), emitter') →
      place = emitter.items.size ∧ value' = value ∧
        emitter'.items.toList = emitter.items.toList ++ none :: inner.map some

variable {rules : Rules} {name : String} {path : List String} {emitter : Emitter}
  {taken : List Claim}

theorem Emitter.outcome_eq_ok_iff {listing : Listing} {value : α} {result : α × Emitter} :
    emitter.outcome taken listing value = .ok result ↔
      collision? taken listing.claims = none ∧ (value, emitter.after listing) = result := by
  rw [Emitter.outcome]
  cases collision? taken listing.claims with
  | some collision => simp
  | none => simp

theorem Emitter.toList_items_after (listing : Listing) :
    (emitter.after listing).items.toList =
      emitter.items.toList ++ listing.declarations.map some := by
  simp [Emitter.after]

theorem Emits.appends {step : Emit α} {listing : Listing} {value : α}
    (emits : Emits step listing value) : Appends step listing.declarations := by
  intro emitter emitter' value' name run
  rw [emits.run (.of_name name), Emitter.outcome_eq_ok_iff] at run
  obtain ⟨-, same⟩ := run
  cases same
  exact Emitter.toList_items_after listing

/-- What is done between entering a node and filling its place: `head` in front of the reservation,
`inside` behind it. -/
def enter (head : Emit Unit) (inside : Emit α) : Emit (Nat × α) := do
  head
  let place ← reserve
  let value ← inside
  return (place, value)

/-- The place that is reserved stays empty while the inside is emitted behind it. -/
theorem enter_opens {head : Emit Unit} {inside : Emit α} {first second : Listing} {value : α}
    (emits : Emits head first ()) (noDeclaration : first.declarations = [])
    (insideRun : ∀ {emitter : Emitter} {taken : List Claim}, emitter.Records taken →
      collision? taken first.claims = none →
        inside.run (emitter.after first).reserved =
          (emitter.after first).reserved.outcome (first.claims.reverse ++ taken) second value) :
    Opens (enter head inside) value second.declarations := by
  intro emitter emitter' place value' name run
  have records := Emitter.Records.of_name name
  rw [enter, StateT.run_bind, emits.run records] at run
  obtain ⟨_, headRun, run⟩ := Outcome.bind_eq_ok.mp run
  obtain ⟨free, rfl⟩ := Emitter.outcome_eq_ok_iff.mp headRun
  rw [StateT.run_bind, reserve_run, Outcome.ok_bind, StateT.run_bind, insideRun records free] at run
  obtain ⟨_, inside_run, run⟩ := Outcome.bind_eq_ok.mp run
  obtain ⟨-, rfl⟩ := Emitter.outcome_eq_ok_iff.mp inside_run
  cases run
  refine ⟨?_, rfl, ?_⟩
  · simp [Emitter.after, noDeclaration]
  · simp [Emitter.after, Emitter.reserved, noDeclaration]

def enterModule (rules : Rules) (name : String) (path : List String) (contents : Module) :
    Emit (Nat × List Field) :=
  enter (claimType (typeIdentifier name) (Path.display path))
    (emitFields (.start (.fields (typeIdentifier name)))
      (canonicalOrder (memberTasks rules path contents.members)))

def enterSum (rules : Rules) (name : String) (path : List String) (alternatives : List Node) :
    Emit (Nat × List Variant) :=
  enter (do
      claimType (typeIdentifier name) (Path.display path)
      requireCrate "serde_json" ["raw_value"])
    (emitAlternatives rules path (typeIdentifier name) alternatives)

theorem emitModule_eq (contents : Module) :
    emitModule rules name path contents = (do
      let (place, fields) ← enterModule rules name path contents
      fill place (.struct (typeIdentifier name) path fields)
      return .named (typeIdentifier name)) := by
  obtain ⟨members⟩ := contents
  rw [emitModule, enterModule, enter]
  simp only [bind_assoc, pure_bind]

theorem emitSum_eq {doc : Doc} {alternatives : List Node}
    (several : isNumber alternatives = false) :
    emitNode rules name path (.option doc (.either alternatives)) = (do
      let (place, variants) ← enterSum rules name path alternatives
      fill place (.sum (typeIdentifier name) path variants)
      return .named (typeIdentifier name)) := by
  rw [emitNode, if_pos (Tag.isRegistered_name _), emitKind, several, enterSum, enter]
  simp only [bind_assoc, pure_bind, Bool.false_eq_true, if_false]

/-- Up to where the place of a struct is filled, the members append what they introduce. -/
theorem enterModule_opens (contents : Module) :
    Opens (enterModule rules name path contents) (contents.sorted.map (memberField rules))
      (memberDeclarations rules path contents) := by
  rw [← declarations_memberListings (typeIdentifier name)]
  exact enter_opens (claimType_emits _ _) rfl fun records free =>
    emitMembers_run (fun node _ => emitNode_emits node) records free

/-- Up to where the place of a sum type is filled, the alternatives append what they introduce. -/
theorem enterSum_opens (alternatives : List Node) :
    Opens (enterSum rules name path alternatives)
      (alternatives.map (alternativeVariant rules (typeIdentifier name)))
      (alternativeDeclarations rules path (typeIdentifier name) alternatives) := by
  have emits : Emits (emitAlternatives rules path (typeIdentifier name) alternatives) _ _ :=
    emitAlternatives_emits fun node _ => emitNode_emits node
  have head : Emits (do
      claimType (typeIdentifier name) (Path.display path)
      requireCrate "serde_json" ["raw_value"])
        (typeClaim name (Path.display path) ++ .require "serde_json" ["raw_value"]) () :=
    (claimType_emits _ _).bind (requireCrate_emits _ _)
  rw [← declarations_alternativesListing]
  exact enter_opens head rfl fun records free =>
    emits.run (records.after head.owned).reserved

/-! ## Declarations in front of others -/

/-- The declaration of a site leads those that are introduced inside the site: that of a module
those of its members, that of a sum type those of its alternatives. -/
inductive Leads (rules : Rules) : Site → Declaration → List Declaration → Prop where
  | struct {name : String} {path : List String} {node : Node} {contents : Module} :
      node.contents? = some contents →
        Leads rules ⟨name, path, node⟩ (structOf rules name path contents)
          (memberDeclarations rules path contents)
  | enumeration {name : String} {path : List String} {doc : Doc} {values : List String} :
      Leads rules ⟨name, path, .option doc (.enumeration values)⟩
        (enumerationOf rules name path values) []
  | sum {name : String} {path : List String} {doc : Doc} {alternatives : List Node} :
      isNumber alternatives = false →
        Leads rules ⟨name, path, .option doc (.either alternatives)⟩
          (sumOf rules name path alternatives)
          (alternativeDeclarations rules path (typeIdentifier name) alternatives)

variable {site : Site} {head : Declaration} {inner : List Declaration}

theorem Leads.declarations_eq (leads : Leads rules site head inner) :
    (site.listing rules).declarations = head :: inner := by
  cases leads with
  | struct holds => exact declarations_of_contents holds
  | enumeration => exact declarations_enumeration
  | sum several => exact declarations_either several

theorem sublist_of_infix {declarations : List Declaration} (block : head :: inner <:+: declarations)
    {later : Declaration} (member : later ∈ inner) : [head, later].Sublist declarations :=
  ((List.singleton_sublist.mpr member).cons_cons head).trans block.sublist

/-! ## Files -/

variable {options : GenerateOptions} {module : Module} {file : SourceFile}

/-- A generated file is its header and the declarations of the listing. Each of them has been put
into one place and stays there. A struct or sum type stands in front of all that is introduced
inside it, and every type that is named is declared once. -/
theorem generate_places (generated : generate options rules module = .ok file) :
    -- The declarations are those of the listing, and the text is made of them.
    file.declarations = ((Site.root options module).listing rules).declarations ∧
    file.source = textOfLines (headerLines options.package file.imports ++
      file.declarations.flatMap fun declaration => "" :: declaration.lines) ∧
    -- Each place holds its declaration in the end.
    (∃ type emitter,
      (emitModule rules options.rootType [] module).run .start = .ok (type, emitter) ∧
      emitter.items.toList = file.declarations.map some) ∧
    -- On the way, wherever it is, the walk appends filled places behind those that there are, and a
    -- place that it has reserved is empty until it is filled.
    (∀ site : Site, Appends (emitNode rules site.name site.path site.node)
      (site.listing rules).declarations) ∧
    (∀ name path contents,
      emitModule rules name path contents = (do
        let (place, fields) ← enterModule rules name path contents
        fill place (.struct (typeIdentifier name) path fields)
        return .named (typeIdentifier name)) ∧
      Opens (enterModule rules name path contents) (contents.sorted.map (memberField rules))
        (memberDeclarations rules path contents)) ∧
    (∀ name path doc alternatives, isNumber alternatives = false →
      emitNode rules name path (.option doc (.either alternatives)) = (do
        let (place, variants) ← enterSum rules name path alternatives
        fill place (.sum (typeIdentifier name) path variants)
        return .named (typeIdentifier name)) ∧
      Opens (enterSum rules name path alternatives)
        (alternatives.map (alternativeVariant rules (typeIdentifier name)))
        (alternativeDeclarations rules path (typeIdentifier name) alternatives)) ∧
    -- A struct or sum type stands right in front of what is introduced inside it.
    (∀ site head inner, Visits rules (Site.root options module) site → Leads rules site head inner →
      head :: inner <:+: file.declarations ∧
        ∀ later ∈ inner, [head, later].Sublist file.declarations) ∧
    -- Nothing else is declared, and nothing twice.
    (∀ declaration, declaration ∈ file.declarations ↔
      ∃ site, Visits rules (Site.root options module) site ∧ Introduces rules site declaration) ∧
    (file.declarations.flatMap (·.names)).Nodup ∧
    -- The types of all nodes and all types in declarations are declared, once each.
    (∀ site identifier, Visits rules (Site.root options module) site →
      (nodeType site.name site.node).identifier? = some identifier →
        ∃ declared, declared.identifier = identifier ∧
          file.declarations.filter (fun other => identifier ∈ other.names) = [declared]) ∧
    ∀ declaration ∈ file.declarations, ∀ identifier ∈ declaration.references,
      ∃ declared, declared.identifier = identifier ∧
        file.declarations.filter (fun other => identifier ∈ other.names) = [declared] := by
  have declarations : file.declarations = ((Site.root options module).listing rules).declarations :=
    declarations_of_generate generated
  have names := (nodup_of_generate generated).1
  have declaredOnce {identifier : String}
      (found : ∃ declared ∈ file.declarations, declared.identifier = identifier) :
      ∃ declared, declared.identifier = identifier ∧
        file.declarations.filter (fun other => identifier ∈ other.names) = [declared] := by
    obtain ⟨declared, isDeclared, rfl⟩ := found
    exact ⟨declared, rfl,
      filter_names_eq_singleton names isDeclared declared.identifier_mem_names⟩
  refine ⟨declarations, ?text, ?places, fun site => (emitNode_emits _ _ _).appends,
    fun _ _ contents => ⟨emitModule_eq contents, enterModule_opens contents⟩,
    fun _ _ _ alternatives several => ⟨emitSum_eq several, enterSum_opens alternatives⟩, ?order,
    ?introduced, names, ?types, ?references⟩
  case text =>
    obtain ⟨-, rfl⟩ := generate_eq_ok_iff.mp generated
    rfl
  case places =>
    rw [generate] at generated
    obtain ⟨⟨type, emitter⟩, run, -⟩ := Outcome.bind_eq_ok.mp generated
    refine ⟨type, emitter, run, ?_⟩
    rw [declarations]
    exact (emitNode_emits (.module module) _ _).appends _ _ _ rfl run
  case order =>
    intro site head inner visits leads
    have block : head :: inner <:+: file.declarations := by
      rw [declarations, ← leads.declarations_eq]
      exact (part_of_visits visits).declarations
    exact ⟨block, fun later member => sublist_of_infix block member⟩
  case introduced =>
    intro declaration
    rw [declarations]
    exact mem_declarations_iff
  case types =>
    intro site identifier visits refers
    obtain ⟨declared, isDeclared, same⟩ := exists_declaration_of_nodeType site.node refers
    refine declaredOnce ⟨declared, ?_, same⟩
    rw [declarations]
    exact (part_of_visits visits).declarations.subset isDeclared
  case references =>
    intro declaration member identifier refers
    rw [declarations] at member
    refine declaredOnce ?_
    rw [declarations]
    exact exists_declaration_of_reference member refers

/-- The sum type of `service` and its wrappers, in their places. -/
theorem generate_places_service :
    ∃ file, generate .standard .plain service = .ok file ∧
      file.declarations.map (·.identifier) =
        ["Config", "Backend", "BackendStr", "BackendUnique", "BackendListOfItem", "BackendListOf"] ∧
      file.source = textOfLines (headerLines "config" file.imports ++
        file.declarations.flatMap fun declaration => "" :: declaration.lines) ∧
      ∃ type emitter, (emitModule .plain "Config" [] service).run .start = .ok (type, emitter) ∧
        emitter.items.toList = file.declarations.map some := by
  obtain ⟨file, generated, names⟩ := Outcome.map_eq_ok.mp generate_service
  obtain ⟨-, source, places, -⟩ := generate_places generated
  exact ⟨file, generated, names, source, places⟩

end OptionSchema.Codegen
