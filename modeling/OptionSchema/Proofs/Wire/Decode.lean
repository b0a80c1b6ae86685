import OptionSchema.Proofs.Wire.Field
import OptionSchema.Wire.Decode

/-!
# What a tree denotes

Main statements: `isNode_iff` and `isModule_iff`. What node or module a tree is read as is told from
the entries of the tree, without paths and errors: `Denotes` has one case for a module, one for an
option outside the vocabulary and one for an option within it. Where the tree stands in a document
does not matter (`readNode_iff_isNode`, `readModule_iff_isModule`).
-/

namespace OptionSchema.Wire

open Dictionary (Matched valuesOf)
open Json (ReadError Tree entries)

variable {path : List String} {tree : Tree} {members : Members} {found : List (String × Tree)}
  {gap : List Char}

theorem located_eq_ok {α : Type} {result : Except ReadError α} {a : α} :
    located path result = .ok a ↔ result = .ok a :=
  Outcome.mapError_eq_ok

/-! ## What the parts of a tree denote -/

def IsNode (tree : Tree) (node : Node) : Prop :=
  readNode [] tree = .ok node

def IsModule (tree : Tree) (contents : Module) : Prop :=
  readModule [] tree = .ok contents

def IsMembers (found : List (String × Tree)) (contents : Module) : Prop :=
  Matched IsNode (Dictionary.ofPairs found) contents.members

def IsAlternatives (tree : Tree) (nodes : List Node) : Prop :=
  ∃ gap items, tree = .array gap items ∧ List.Forall₂ IsNode (items.map Json.Padded.content) nodes

inductive IsPayload (tree : Tree) : Kind → Prop where
  | enumeration {values : List String} :
      tree.readTexts = .ok values → IsPayload tree (.enumeration values)
  | separatedString {separator : String} :
      tree.readText = .ok separator → IsPayload tree (.separatedString separator)
  | wrapped {wrapper : Wrapper} {inner : Node} :
      IsNode tree inner → IsPayload tree (.wrapped wrapper inner)
  | either {nodes : List Node} : IsAlternatives tree nodes → IsPayload tree (.either nodes)
  | submodule {contents : Module} : IsModule tree contents → IsPayload tree (.submodule contents)

/-- The kind of an option, told from its entries: the last payload field counts. -/
inductive IsKind (source : Tree) (found : List (String × Tree)) : Kind → Prop where
  | scalar (scalar : Scalar) : IsKind source found (.scalar scalar)
  | unspecified : IsKind source found (.unspecified source)
  | payload {kind : Kind} {field : String} {tree : Tree} : payloadField? kind.tag = some field →
      Dictionary.get? field (Dictionary.ofPairs found) = some tree → IsPayload tree kind →
      IsKind source found kind

/-- The documentation of an option outside the vocabulary, which is empty if it cannot be read. -/
def IsDocOrEmpty (found : List (String × Tree)) (doc : Doc) : Prop :=
  IsDoc found doc ∨ doc = .empty ∧ ∀ other, ¬ IsDoc found other

/-- What an object denotes, told from its entries. -/
inductive Denotes (source : Tree) (found : List (String × Tree)) : Node → Prop where
  | module {envelope : Envelope} {contents : Module} : IsEnvelope found envelope →
      envelope.isOption ≠ some true → IsMembers found contents →
      Denotes source found (.module contents)
  | unknown {envelope : Envelope} {doc : Doc} : IsEnvelope found envelope →
      envelope.isOption = some true → Tag.ofName? (envelope.tag.join.getD "") = none →
      IsDocOrEmpty found doc → Denotes source found (.option doc (.unspecified source))
  | known {envelope : Envelope} {doc : Doc} {kind : Kind} : IsEnvelope found envelope →
      envelope.isOption = some true → Tag.ofName? (envelope.tag.join.getD "") = some kind.tag →
      IsKind source found kind → IsDoc found doc → Denotes source found (.option doc kind)

/-! ## Where a tree stands does not matter -/

/-- A tree that denotes the same at every path. -/
structure Anywhere (tree : Tree) : Prop where
  node : ∀ path node, readNode path tree = .ok node ↔ IsNode tree node
  module : ∀ path contents, readModule path tree = .ok contents ↔ IsModule tree contents
  alternatives : ∀ path nodes, readAlternatives path tree = .ok nodes ↔ IsAlternatives tree nodes

theorem collect_eq_ok_iff {results : List (String × Except DecodeError Node)} {contents : Module} :
    collect results = .ok contents ↔
      Matched (fun result node => result = .ok node) results contents.members := by
  obtain ⟨listed⟩ := contents
  simp only [collect, Outcome.bind_eq_ok, Outcome.pure_eq_ok, Outcome.mapM_eq_ok,
    Outcome.map_eq_ok, Module.mk.injEq]
  constructor
  · rintro ⟨members, matched, rfl⟩
    refine List.Forall₂.imp (fun result member same => ?_) matched
    obtain ⟨node, read, rfl⟩ := same
    exact ⟨rfl, read⟩
  · intro matched
    refine ⟨listed, List.Forall₂.imp (fun result member same => ?_) matched, rfl⟩
    exact ⟨member.2, same.2, Prod.ext same.1 rfl⟩

theorem readItems_eq_ok_iff {items : List (Json.Padded Tree)} {nodes : List Node}
    (anywhere : ∀ item ∈ items, Anywhere item.content) (index : Nat) :
    readItems path index items = .ok nodes ↔
      List.Forall₂ IsNode (items.map Json.Padded.content) nodes := by
  induction items generalizing index nodes with
  | nil =>
      rw [readItems, List.map_nil, List.forall₂_nil_left_iff, Except.ok.injEq]
      exact eq_comm
  | cons item rest ih =>
      rw [List.forall_mem_cons] at anywhere
      simp only [readItems, Outcome.bind_eq_ok, Outcome.pure_eq_ok, ih anywhere.2,
        anywhere.1.node, List.map_cons, List.forall₂_cons_left_iff]
      constructor
      · rintro ⟨node, first, others, later, rfl⟩
        exact ⟨node, others, first, later, rfl⟩
      · rintro ⟨node, others, first, later, rfl⟩
        exact ⟨node, first, others, later, rfl⟩

/-- The members that are read are those of the dictionary of the entries. -/
theorem readMembers_of_entries (read : entries members = .ok found) :
    readMembers path members = (Dictionary.ofPairs found).map fun entry =>
      (entry.1, readNode (path ++ [entry.1]) entry.2) := by
  have looked : Dictionary.Ascending (readMembers path members) ∧
      ∀ name, Dictionary.get? name (readMembers path members) =
        (Dictionary.get? name (Dictionary.ofPairs found)).map (readNode (path ++ [name])) := by
    induction members generalizing found with
    | nil =>
        rw [Json.entries_nil.mp read]
        exact ⟨Dictionary.ascending_nil, fun _ => rfl⟩
    | cons member rest ih =>
        obtain ⟨key, value⟩ := member
        obtain ⟨name, others, readKey, readOthers, rfl⟩ := Json.entries_cons.mp read
        obtain ⟨ascending, looked⟩ := ih readOthers
        simp only [readMembers, readKey, Dictionary.get?_ofPairs_cons]
        split
        · next again =>
            refine ⟨ascending, fun other => ?_⟩
            rw [looked]
            by_cases same : name = other
            · subst same
              rw [Dictionary.contains, looked, Option.isSome_map] at again
              obtain ⟨tree, known⟩ := Option.isSome_iff_exists.mp again
              rw [known]
              rfl
            · rw [if_neg same, Option.or_none]
        · next fresh =>
            refine ⟨ascending.insert _ _, fun other => ?_⟩
            rw [Dictionary.get?_insert, looked]
            by_cases same : name = other
            · subst same
              rw [Dictionary.contains, looked, Option.isSome_map, Option.not_isSome_iff_eq_none]
                at fresh
              rw [if_pos rfl, if_pos rfl, fresh]
              rfl
            · rw [if_neg same, if_neg same, Option.or_none]
  refine looked.1.ext ?_ fun name => ?_
  · exact (Dictionary.ascending_ofPairs found).of_keys_eq (by simp [Dictionary.keys])
  · rw [looked.2, Dictionary.get?_map fun name tree => readNode (path ++ [name]) tree]

section

variable (anywhere : ∀ entry ∈ found, Anywhere entry.2)

include anywhere

theorem collect_readMembers (read : entries members = .ok found) {contents : Module} :
    collect (readMembers path members) = .ok contents ↔ IsMembers found contents := by
  rw [collect_eq_ok_iff, readMembers_of_entries read]
  unfold IsMembers Matched
  rw [List.forall₂_map_left_iff]
  refine Outcome.forall₂_congr fun entry isEntry member => and_congr_right fun _ => ?_
  exact (anywhere entry (Dictionary.mem_of_mem_ofPairs isEntry)).node _ _

end

def payloadKind? (path : List String) (tag : Tag) (tree : Tree) :
    Option (Except DecodeError Kind) :=
  match tag with
  | .scalar _ | .unspecified => none
  | .enumeration => some ((located path tree.readTexts).map .enumeration)
  | .separatedString => some ((located path tree.readText).map .separatedString)
  | .wrapped wrapper => some ((readNode path tree).map (.wrapped wrapper))
  | .either => some ((readAlternatives path tree).map .either)
  | .submodule => some ((readModule path tree).map .submodule)

theorem readKeys_eq (members : Members) : readKeys members = (entries members).map Dictionary.keys := by
  unfold readKeys entries
  induction members with
  | nil => rfl
  | cons member rest ih =>
      rw [List.mapM_cons, List.mapM_cons, ih]
      cases Json.readString member.1.content with
      | error => rfl
      | ok name =>
          generalize (rest.mapM fun member =>
            (Json.readString member.1.content).map (·, member.2.content)) = others
          cases others <;> rfl

def readKind (path : List String) (source : Tree) (members : Members) (tag : Tag) :
    Except DecodeError Kind :=
  match tag with
  | .scalar scalar => .ok (.scalar scalar)
  | .unspecified => .ok (.unspecified source)
  | tag =>
      match readPayload path tag members with
      | some result => result
      | none => .error (.missingField path tag ((payloadField? tag).getD ""))

/-- The kind that is read of a payload has the tag that it is read for. -/
theorem tag_of_payloadKind? {tag : Tag} {kind : Kind}
    (isPayload : payloadKind? path tag tree = some (.ok kind)) : kind.tag = tag := by
  cases tag with
  | scalar => cases isPayload
  | unspecified => cases isPayload
  | _ =>
      obtain ⟨_, -, rfl⟩ := Outcome.map_eq_ok.mp (Option.some.inj isPayload)
      rfl

theorem tag_of_readPayload {tag : Tag} {kind : Kind}
    (isPayload : readPayload path tag members = some (.ok kind)) : kind.tag = tag := by
  induction members with
  | nil => cases isPayload
  | cons member rest ih =>
      obtain ⟨key, value⟩ := member
      rw [readPayload] at isPayload
      cases others : readPayload path tag rest with
      | some result =>
          rw [others] at isPayload
          exact ih (others.trans isPayload)
      | none =>
          simp only [others] at isPayload
          split at isPayload
          · cases isPayload
          · exact tag_of_payloadKind? isPayload

/-- Every tag of the vocabulary is read as a kind with that tag. -/
theorem tag_of_readKind {source : Tree} {tag : Tag} {kind : Kind}
    (isKind : readKind path source members tag = .ok kind) : kind.tag = tag := by
  cases tag with
  | scalar =>
      cases isKind
      rfl
  | unspecified =>
      cases isKind
      rfl
  | _ =>
      dsimp only [readKind] at isKind
      split at isKind
      · next result isPayload =>
          subst isKind
          exact tag_of_readPayload isPayload
      · cases isKind

/-- The reading of an option within the vocabulary is that of its kind and of its documentation: the
kind that is read is never refused. -/
theorem readNode_eq (path : List String) (gap : List Char) (members : Members) :
    readNode path (.object gap members) = (do
      let envelope ← located path (readEnvelope members)
      if envelope.isOption = some true then
        match Tag.ofName? (envelope.tag.join.getD "") with
        | none =>
            return .option ((readDoc members).toOption.getD .empty)
              (.unspecified (.object gap members))
        | some tag => do
            let kind ← readKind path (.object gap members) members tag
            let doc ← located path (readDoc members)
            return .option doc kind
      else (collect (readMembers path members)).map .module) := by
  rw [readNode]
  refine congrArg (located path (readEnvelope members) >>= ·) (funext fun envelope => ?_)
  split
  · cases Tag.ofName? (envelope.tag.join.getD "") with
    | none => rfl
    | some tag =>
        have accepted (kind : Kind) (isKind : readKind path (.object gap members) members tag = .ok kind) :
            ¬ kind.tag.name ≠ tag.name := by
          rw [tag_of_readKind isKind]
          exact not_not.mpr rfl
        cases tag with
        | scalar => exact if_neg (accepted _ rfl)
        | unspecified => rfl
        | _ =>
            dsimp only [readKind] at accepted ⊢
            cases isPayload : readPayload path _ members with
            | none => rfl
            | some result =>
                rw [isPayload] at accepted
                cases result with
                | error => rfl
                | ok kind => exact if_neg (accepted kind rfl)
  · rfl

theorem payloadKind?_isSome {tag : Tag} {field : String} (payload : payloadField? tag = some field)
    (path : List String) (tree : Tree) : ∃ result, payloadKind? path tag tree = some result := by
  cases tag with
  | scalar => cases payload
  | unspecified => cases payload
  | _ => exact ⟨_, rfl⟩

/-- The payload field that is read is the last one. -/
theorem readPayload_of_entries (read : entries members = .ok found) (tag : Tag) :
    readPayload path tag members =
      (payloadField? tag).bind fun field =>
        (Dictionary.get? field (Dictionary.ofPairs found)).bind
          (payloadKind? (path ++ [field]) tag) := by
  induction members generalizing found with
  | nil =>
      rw [Json.entries_nil.mp read]
      cases payloadField? tag <;> rfl
  | cons member rest ih =>
      obtain ⟨key, value⟩ := member
      obtain ⟨name, others, readKey, readOthers, rfl⟩ := Json.entries_cons.mp read
      rw [readPayload, ih readOthers]
      cases payload : payloadField? tag with
      | none => simp
      | some field =>
          simp only [Option.bind_some, Dictionary.get?_ofPairs_cons]
          cases again : Dictionary.get? field (Dictionary.ofPairs others) with
          | some tree =>
              obtain ⟨result, isPayload⟩ := payloadKind?_isSome payload (path ++ [field]) tree
              simp [isPayload]
          | none =>
              by_cases same : name = field
              · subst same
                simp only [readKey, Except.toOption, Option.bind_none, reduceCtorEq, ne_eq,
                  not_true_eq_false, or_self, if_false, if_true, Option.none_or, Option.bind_some]
                rfl
              · simp [readKey, Except.toOption, same]

theorem payloadKind?_eq_ok_iff (anywhere : Anywhere tree) (path : List String) (tag : Tag)
    (kind : Kind) : payloadKind? path tag tree = some (.ok kind) ↔ kind.tag = tag ∧ IsPayload tree kind := by
  constructor
  · intro read
    cases tag with
    | scalar => cases read
    | unspecified => cases read
    | enumeration =>
        obtain ⟨values, readTexts, rfl⟩ := Outcome.map_eq_ok.mp (Option.some.inj read)
        exact ⟨rfl, .enumeration (located_eq_ok.mp readTexts)⟩
    | separatedString =>
        obtain ⟨separator, readText, rfl⟩ := Outcome.map_eq_ok.mp (Option.some.inj read)
        exact ⟨rfl, .separatedString (located_eq_ok.mp readText)⟩
    | wrapped wrapper =>
        obtain ⟨inner, readInner, rfl⟩ := Outcome.map_eq_ok.mp (Option.some.inj read)
        exact ⟨rfl, .wrapped ((anywhere.node _ _).mp readInner)⟩
    | either =>
        obtain ⟨nodes, readNodes, rfl⟩ := Outcome.map_eq_ok.mp (Option.some.inj read)
        exact ⟨rfl, .either ((anywhere.alternatives _ _).mp readNodes)⟩
    | submodule =>
        obtain ⟨contents, readContents, rfl⟩ := Outcome.map_eq_ok.mp (Option.some.inj read)
        exact ⟨rfl, .submodule ((anywhere.module _ _).mp readContents)⟩
  · rintro ⟨rfl, isPayload⟩
    cases isPayload with
    | enumeration readTexts =>
        exact congrArg some (Outcome.map_eq_ok.mpr ⟨_, located_eq_ok.mpr readTexts, rfl⟩)
    | separatedString readText =>
        exact congrArg some (Outcome.map_eq_ok.mpr ⟨_, located_eq_ok.mpr readText, rfl⟩)
    | wrapped isNode =>
        exact congrArg some (Outcome.map_eq_ok.mpr ⟨_, (anywhere.node _ _).mpr isNode, rfl⟩)
    | either isAlternatives =>
        exact congrArg some
          (Outcome.map_eq_ok.mpr ⟨_, (anywhere.alternatives _ _).mpr isAlternatives, rfl⟩)
    | submodule isModule =>
        exact congrArg some (Outcome.map_eq_ok.mpr ⟨_, (anywhere.module _ _).mpr isModule, rfl⟩)

/-- Of an object whose documentation cannot be read the empty one is taken. -/
theorem readDoc_getD_eq_iff (read : entries members = .ok found) {doc : Doc} :
    (readDoc members).toOption.getD .empty = doc ↔ IsDocOrEmpty found doc := by
  have isDoc_iff (other : Doc) : readDoc members = .ok other ↔ IsDoc found other := by
    rw [readDoc_eq_ok_iff, read]
    simp
  cases readMembers : readDoc members with
  | ok known =>
      have isDoc := (isDoc_iff known).mp readMembers
      constructor
      · rintro rfl
        exact .inl isDoc
      · rintro (other | ⟨-, never⟩)
        · have same := (isDoc_iff doc).mpr other
          rw [readMembers, Except.ok.injEq] at same
          exact same
        · exact absurd isDoc (never known)
  | error cause =>
      have never (other : Doc) : ¬ IsDoc found other := by
        rw [← isDoc_iff, readMembers]
        exact nofun
      constructor
      · rintro rfl
        exact .inr ⟨rfl, never⟩
      · rintro (isDoc | ⟨rfl, -⟩)
        · exact absurd isDoc (never doc)
        · rfl

section

variable (anywhere : ∀ entry ∈ found, Anywhere entry.2) (read : entries members = .ok found)

include anywhere read

/-- A payload that is there is read as the kind of its option. -/
theorem readPayload_eq_ok_iff {tag : Tag} {field : String} {source : Tree} {kind : Kind}
    (payload : payloadField? tag = some field) :
    (match readPayload path tag members with
      | some result => result
      | none => .error (.missingField path tag ((payloadField? tag).getD ""))) = .ok kind ↔
      kind.tag = tag ∧ IsKind source found kind := by
  rw [readPayload_of_entries read, payload, Option.bind_some]
  cases looked : Dictionary.get? field (Dictionary.ofPairs found) with
  | none =>
      constructor
      · exact nofun
      · rintro ⟨rfl, isKind⟩
        cases isKind with
        | scalar => cases payload
        | unspecified => cases payload
        | payload isField isLast =>
            rw [payload, Option.some.injEq] at isField
            subst isField
            rw [looked] at isLast
            cases isLast
  | some tree =>
      obtain ⟨result, isResult⟩ := payloadKind?_isSome payload (path ++ [field]) tree
      have anywhereTree : Anywhere tree :=
        anywhere (field, tree) (Dictionary.mem_of_mem_ofPairs (Dictionary.mem_of_get? looked))
      have isPayload := payloadKind?_eq_ok_iff anywhereTree (path ++ [field]) tag kind
      rw [isResult, Option.some.injEq] at isPayload
      rw [Option.bind_some, isResult]
      refine isPayload.trans (and_congr_right fun same => ?_)
      subst same
      constructor
      · exact .payload payload looked
      · intro isKind
        cases isKind with
        | scalar => cases payload
        | unspecified => cases payload
        | payload isField isLast content =>
            rw [payload, Option.some.injEq] at isField
            subst isField
            rw [looked, Option.some.injEq] at isLast
            subst isLast
            exact content

/-- What kind is read of an option with a tag of the vocabulary. -/
theorem readKind_eq_ok_iff {tag : Tag} {source : Tree} {kind : Kind} :
    readKind path source members tag = .ok kind ↔ kind.tag = tag ∧ IsKind source found kind := by
  cases tag with
  | scalar scalar =>
      constructor
      · intro same
        cases same
        exact ⟨rfl, .scalar scalar⟩
      · rintro ⟨same, isKind⟩
        cases isKind with
        | scalar =>
            cases same
            rfl
        | unspecified => cases same
        | payload isField =>
            rw [same] at isField
            cases isField
  | unspecified =>
      constructor
      · intro same
        cases same
        exact ⟨rfl, .unspecified⟩
      · rintro ⟨same, isKind⟩
        cases isKind with
        | scalar => cases same
        | unspecified => rfl
        | payload isField =>
            rw [same] at isField
            cases isField
  | enumeration => exact readPayload_eq_ok_iff anywhere read rfl
  | separatedString => exact readPayload_eq_ok_iff anywhere read rfl
  | wrapped wrapper => exact readPayload_eq_ok_iff anywhere read rfl
  | either => exact readPayload_eq_ok_iff anywhere read rfl
  | submodule => exact readPayload_eq_ok_iff anywhere read rfl

/-- An object whose entries denote the same anywhere denotes what its entries say. -/
theorem readNode_object {node : Node} :
    readNode path (.object gap members) = .ok node ↔ Denotes (.object gap members) found node := by
  have isEnvelope_iff (envelope : Envelope) :
      located path (readEnvelope members) = .ok envelope ↔ IsEnvelope found envelope := by
    rw [located_eq_ok, readEnvelope_eq_ok_iff, read]
    simp
  have isDoc_iff (doc : Doc) : located path (readDoc members) = .ok doc ↔ IsDoc found doc := by
    rw [located_eq_ok, readDoc_eq_ok_iff, read]
    simp
  rw [readNode_eq, Outcome.bind_eq_ok]
  constructor
  · rintro ⟨envelope, readEnvelope, result⟩
    have isEnvelope := (isEnvelope_iff envelope).mp readEnvelope
    split at result
    · next isOption =>
        split at result
        · next unknown =>
            cases result
            exact .unknown isEnvelope isOption unknown ((readDoc_getD_eq_iff read).mp rfl)
        · next tag known =>
            obtain ⟨kind, readKind, result⟩ := Outcome.bind_eq_ok.mp result
            obtain ⟨doc, readDoc, result⟩ := Outcome.bind_eq_ok.mp result
            cases result
            obtain ⟨rfl, isKind⟩ := (readKind_eq_ok_iff anywhere read).mp readKind
            exact .known isEnvelope isOption known isKind ((isDoc_iff doc).mp readDoc)
    · next notOption =>
        obtain ⟨contents, readContents, rfl⟩ := Outcome.map_eq_ok.mp result
        exact .module isEnvelope notOption ((collect_readMembers anywhere read).mp readContents)
  · intro denotes
    cases denotes with
    | module isEnvelope notOption isMembers =>
        refine ⟨_, (isEnvelope_iff _).mpr isEnvelope, ?_⟩
        rw [if_neg notOption]
        exact Outcome.map_eq_ok.mpr ⟨_, (collect_readMembers anywhere read).mpr isMembers, rfl⟩
    | unknown isEnvelope isOption unknown isDoc =>
        refine ⟨_, (isEnvelope_iff _).mpr isEnvelope, ?_⟩
        rw [if_pos isOption, unknown, (readDoc_getD_eq_iff read).mpr isDoc]
        rfl
    | known isEnvelope isOption known isKind isDoc =>
        refine ⟨_, (isEnvelope_iff _).mpr isEnvelope, ?_⟩
        rw [if_pos isOption, known]
        refine Outcome.bind_eq_ok.mpr
          ⟨_, (readKind_eq_ok_iff anywhere read).mpr ⟨rfl, isKind⟩, ?_⟩
        exact Outcome.bind_eq_ok.mpr ⟨_, (isDoc_iff _).mpr isDoc, rfl⟩

theorem readModule_object {contents : Module} :
    readModule path (.object gap members) = .ok contents ↔ IsMembers found contents := by
  rw [readModule, readKeys_eq, read]
  exact collect_readMembers anywhere read

end

/-- A tree that is no object is not read as a node or module. -/
theorem not_readNode (other : ∀ gap members, tree ≠ .object gap members) (path : List String)
    (node : Node) : readNode path tree ≠ .ok node := by
  cases tree with
  | object gap members => exact absurd rfl (other gap members)
  | _ => exact nofun

theorem not_readModule (other : ∀ gap members, tree ≠ .object gap members) (path : List String)
    (contents : Module) : readModule path tree ≠ .ok contents := by
  cases tree with
  | object gap members => exact absurd rfl (other gap members)
  | _ => exact nofun

/-- A tree that is no array is not read as a list of alternatives. -/
theorem not_readAlternatives (other : ∀ gap items, tree ≠ .array gap items) (path : List String)
    (nodes : List Node) : readAlternatives path tree ≠ .ok nodes := by
  cases tree with
  | array gap items => exact absurd rfl (other gap items)
  | _ => exact fun read => Tree.mismatch_ne_ok _ _ _ (located_eq_ok.mp read)

theorem readAlternatives_iff_of_no_array (noArray : ∀ gap items, tree ≠ .array gap items)
    (path : List String) (nodes : List Node) :
    readAlternatives path tree = .ok nodes ↔ IsAlternatives tree nodes := by
  refine iff_of_false (not_readAlternatives noArray path nodes) ?_
  rintro ⟨gap, items, same, -⟩
  exact noArray gap items same

/-- A tree that is read neither as a node nor as a module, at any path. -/
theorem anywhere_of_unread (noNode : ∀ path node, readNode path tree ≠ .ok node)
    (noModule : ∀ path contents, readModule path tree ≠ .ok contents)
    (alternatives : ∀ path nodes, readAlternatives path tree = .ok nodes ↔
      IsAlternatives tree nodes) : Anywhere tree where
  node path node := iff_of_false (noNode path node) (noNode [] node)
  module path contents := iff_of_false (noModule path contents) (noModule [] contents)
  alternatives := alternatives

theorem anywhere_of_leaf (noObject : ∀ gap members, tree ≠ .object gap members)
    (noArray : ∀ gap items, tree ≠ .array gap items) : Anywhere tree :=
  anywhere_of_unread (not_readNode noObject) (not_readModule noObject)
    (readAlternatives_iff_of_no_array noArray)

/-- Every tree denotes the same at every path. -/
theorem anywhere (tree : Tree) : Anywhere tree := by
  induction tree using Tree.induction with
  | null => exact anywhere_of_leaf nofun nofun
  | bool => exact anywhere_of_leaf nofun nofun
  | number => exact anywhere_of_leaf nofun nofun
  | string => exact anywhere_of_leaf nofun nofun
  | array gap items ih =>
      refine anywhere_of_unread (not_readNode nofun) (not_readModule nofun) fun path nodes => ?_
      rw [readAlternatives, readItems_eq_ok_iff ih]
      constructor
      · intro matched
        exact ⟨gap, items, rfl, matched⟩
      · rintro ⟨_, _, same, matched⟩
        cases same
        exact matched
  | object gap members ih =>
      cases read : entries members with
      | ok found =>
          have anywhere : ∀ entry ∈ found, Anywhere entry.2 := by
            intro entry isEntry
            obtain ⟨written, isWritten, -, same⟩ := Json.mem_of_entries read isEntry
            rw [← same]
            exact ih written isWritten
          constructor
          · intro path node
            unfold IsNode
            rw [readNode_object anywhere read, readNode_object anywhere read]
          · intro path contents
            unfold IsModule
            rw [readModule_object anywhere read, readModule_object anywhere read]
          · exact readAlternatives_iff_of_no_array nofun
      | error cause =>
          have noNode (path : List String) (node : Node) :
              readNode path (.object gap members) ≠ .ok node := by
            intro readNode
            rw [readNode_eq] at readNode
            obtain ⟨envelope, readEnvelope, -⟩ := Outcome.bind_eq_ok.mp readNode
            obtain ⟨found, readEntries, -⟩ := readEnvelope_eq_ok_iff.mp (located_eq_ok.mp readEnvelope)
            rw [read] at readEntries
            cases readEntries
          have noModule (path : List String) (contents : Module) :
              readModule path (.object gap members) ≠ .ok contents := by
            rw [readModule, readKeys_eq, read]
            exact nofun
          exact anywhere_of_unread noNode noModule (readAlternatives_iff_of_no_array nofun)

/-! ## What nodes and modules are read -/

theorem readNode_iff_isNode {node : Node} : readNode path tree = .ok node ↔ IsNode tree node :=
  (anywhere tree).node path node

theorem readModule_iff_isModule {contents : Module} :
    readModule path tree = .ok contents ↔ IsModule tree contents :=
  (anywhere tree).module path contents

/-- A tree denotes a node if it is an object whose keys can be read and its entries say so. -/
theorem isNode_iff {node : Node} :
    IsNode tree node ↔ ∃ gap members found, tree = .object gap members ∧
      entries members = .ok found ∧ Denotes tree found node := by
  constructor
  · intro isNode
    cases tree with
    | object gap members =>
        have readNode := isNode
        unfold IsNode at readNode
        rw [readNode_eq] at readNode
        obtain ⟨envelope, readEnvelope, -⟩ := Outcome.bind_eq_ok.mp readNode
        obtain ⟨found, read, -⟩ := readEnvelope_eq_ok_iff.mp (located_eq_ok.mp readEnvelope)
        exact ⟨gap, members, found, rfl, read,
          (readNode_object (fun entry _ => anywhere entry.2) read).mp isNode⟩
    | _ => exact absurd isNode (not_readNode (by nofun) [] node)
  · rintro ⟨gap, members, found, rfl, read, denotes⟩
    exact (readNode_object (fun entry _ => anywhere entry.2) read).mpr denotes

/-- A tree denotes a module if it is an object whose keys can be read and whose members denote
nodes. -/
theorem isModule_iff {contents : Module} :
    IsModule tree contents ↔ ∃ gap members found, tree = .object gap members ∧
      entries members = .ok found ∧ IsMembers found contents := by
  constructor
  · intro isModule
    cases tree with
    | object gap members =>
        have readModule := isModule
        unfold IsModule at readModule
        rw [Wire.readModule, readKeys_eq] at readModule
        obtain ⟨keys, readKeys, -⟩ := Outcome.bind_eq_ok.mp readModule
        obtain ⟨found, read, -⟩ := Outcome.map_eq_ok.mp (located_eq_ok.mp readKeys)
        exact ⟨gap, members, found, rfl, read,
          (readModule_object (fun entry _ => anywhere entry.2) read).mp isModule⟩
    | _ => exact absurd isModule (not_readModule (by nofun) [] contents)
  · rintro ⟨gap, members, found, rfl, read, isMembers⟩
    exact (readModule_object (fun entry _ => anywhere entry.2) read).mpr isMembers

/-- Whatever is read of a tree, or of the items of an array, is related to what it is read of. -/
structure Yields (onNode : Tree → Node → Prop) (onModule : Tree → Module → Prop) (tree : Tree) :
    Prop where
  node : ∀ node, IsNode tree node → onNode tree node
  module : ∀ contents, IsModule tree contents → onModule tree contents
  items : ∀ gap items, tree = .array gap items →
    ∀ item ∈ items, ∀ node, IsNode item.content node → onNode item.content node

/-- A property of trees that an array hands down to its items and an object to its members. -/
structure Inherited (valid : Tree → Prop) : Prop where
  items : ∀ {gap items}, valid (.array gap items) → ∀ item ∈ items, valid item.content
  members : ∀ {gap members}, valid (.object gap members) →
    ∀ member ∈ members, valid member.2.content

/-- Of a tree that is no object nothing is read, but as an array it has items. -/
theorem yields_of_no_object {onNode : Tree → Node → Prop} {onModule : Tree → Module → Prop}
    (noObject : ∀ gap members, tree ≠ .object gap members)
    (items : ∀ gap items, tree = .array gap items →
      ∀ item ∈ items, ∀ node, IsNode item.content node → onNode item.content node) :
    Yields onNode onModule tree where
  node node isNode := absurd isNode (not_readNode noObject [] node)
  module contents isModule := absurd isModule (not_readModule noObject [] contents)
  items := items

/-- What is read of all trees is related to them if that holds of an object whose entries have it, by
induction on the tree. -/
theorem yields {valid : Tree → Prop} {onNode : Tree → Node → Prop} {onModule : Tree → Module → Prop}
    (inherited : Inherited valid)
    (object : ∀ gap members found, valid (.object gap members) → entries members = .ok found →
      (∀ entry ∈ found, Yields onNode onModule entry.2) →
      (∀ node, Denotes (.object gap members) found node → onNode (.object gap members) node) ∧
        ∀ contents, IsMembers found contents → onModule (.object gap members) contents)
    (tree : Tree) (isValid : valid tree) : Yields onNode onModule tree := by
  induction tree using Tree.induction with
  | array gap items ih =>
      refine yields_of_no_object nofun ?_
      rintro _ _ ⟨⟩ item member
      exact (ih item member (inherited.items isValid item member)).node
  | object gap members ih =>
      have inside {found : List (String × Tree)} (read : entries members = .ok found) :
          ∀ entry ∈ found, Yields onNode onModule entry.2 :=
        (Json.forall_entries_iff read _).mpr fun member isMember =>
          ih member isMember (inherited.members isValid member isMember)
      refine ⟨fun node isNode => ?_, fun contents isModule => ?_, ?_⟩
      · obtain ⟨_, _, found, same, read, denotes⟩ := isNode_iff.mp isNode
        cases same
        exact (object gap members found isValid read (inside read)).1 node denotes
      · obtain ⟨_, _, found, same, read, isMembers⟩ := isModule_iff.mp isModule
        cases same
        exact (object gap members found isValid read (inside read)).2 contents isMembers
      · rintro _ _ ⟨⟩
  | _ =>
      refine yields_of_no_object nofun ?_
      rintro _ _ ⟨⟩

/-- A document is decoded as a module if its tree denotes it. -/
theorem decode_eq_ok_iff {bytes : ByteArray} {contents : Module} :
    decode bytes = .ok contents ↔
      ∃ tree, Tree.ofBytes? bytes = .ok tree ∧ IsModule tree contents := by
  unfold decode
  simp only [Outcome.bind_eq_ok, Outcome.mapError_eq_ok]
  rfl

theorem decodeNode_eq_ok_iff {bytes : ByteArray} {node : Node} :
    decodeNode bytes = .ok node ↔
      ∃ tree, Tree.ofBytes? bytes = .ok tree ∧ IsNode tree node := by
  unfold decodeNode
  simp only [Outcome.bind_eq_ok, Outcome.mapError_eq_ok]
  rfl

end OptionSchema.Wire
