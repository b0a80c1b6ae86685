import OptionSchema.Proofs.Codegen.Source
import OptionSchema.Proofs.Dictionary
import OptionSchema.Proofs.Text.Literal
import OptionSchema.Proofs.Text.Piece

/-!
# Requirements add up

What is required of a crate adds up, and nothing else is kept of a requirement. Main statement:
`requireAll_union`. Each crate stands once, with all features that have been asked for, whatever the
order of the requirements and however often each is made. In a manifest features are quoted, but
names of crates are not, so a crate takes one line exactly if its name has no line feed
(`splitOn_manifest_iff`).
-/

namespace OptionSchema.Codegen.Dependencies

variable {requirements others : List (String × List String)} {dependencies first second : Dependencies}
  {crate other feature : String} {features : List String}

def Requests (requirements : List (String × List String)) (crate feature : String) : Prop :=
  ∃ features, (crate, features) ∈ requirements ∧ feature ∈ features

/-- Dependencies have the crates of some requirements, each with the features that are requested. -/
structure Accumulates (requirements : List (String × List String)) (dependencies : Dependencies) :
    Prop where
  mem_crates : ∀ crate,
    crate ∈ Dictionary.keys dependencies.crates.entries ↔ crate ∈ Dictionary.keys requirements
  mem_features : ∀ crate feature,
    feature ∈ (dependencies.features crate).names ↔ Requests requirements crate feature

theorem requests_concat_iff :
    Requests (requirements ++ [(crate, features)]) other feature ↔
      Requests requirements other feature ∨ crate = other ∧ feature ∈ features := by
  unfold Requests
  constructor
  · rintro ⟨requested, member, isFeature⟩
    rcases List.mem_append.mp member with earlier | last
    · exact .inl ⟨requested, earlier, isFeature⟩
    · cases List.mem_singleton.mp last
      exact .inr ⟨rfl, isFeature⟩
  · rintro (⟨requested, earlier, isFeature⟩ | ⟨rfl, isFeature⟩)
    · exact ⟨requested, List.mem_append_left _ earlier, isFeature⟩
    · exact ⟨features, List.mem_append_right _ (List.mem_singleton.mpr rfl), isFeature⟩

/-! ## One requirement -/

theorem features_require :
    (dependencies.require crate features).features other =
      if crate = other then (dependencies.features crate).union features
      else dependencies.features other := by
  rw [Dependencies.features, require, NameMap.get?_insert]
  split <;> rfl

theorem accumulates_empty : Accumulates [] empty where
  mem_crates _ := Iff.rfl
  mem_features crate feature := by
    refine iff_of_false List.not_mem_nil ?_
    rintro ⟨features, none, -⟩
    cases none

/-- A requirement adds its crate and its features and takes nothing away. -/
theorem Accumulates.concat (accumulates : Accumulates requirements dependencies) (crate : String)
    (features : List String) :
    Accumulates (requirements ++ [(crate, features)]) (dependencies.require crate features) where
  mem_crates other := by
    rw [require, NameMap.insert, Dictionary.mem_keys_insert, accumulates.mem_crates, Dictionary.keys_append,
      List.mem_append, or_comm]
    exact or_congr_right List.mem_singleton.symm
  mem_features other feature := by
    rw [features_require, requests_concat_iff, ← accumulates.mem_features]
    split
    · next same =>
        subst same
        rw [NameSet.mem_union]
        exact or_congr_right (and_iff_right rfl).symm
    · next apart => exact (or_iff_left fun isLast => apart isLast.1).symm

/-! ## Many requirements -/

theorem accumulates_requireAll (requirements : List (String × List String)) :
    Accumulates requirements (requireAll requirements) := by
  induction requirements using List.reverseRecOn with
  | nil => exact accumulates_empty
  | append_singleton requirements requirement ih =>
      rw [requireAll, List.foldl_append]
      exact ih.concat requirement.1 requirement.2

theorem features_of_mem {own : NameSet} (isCrate : (crate, own) ∈ dependencies.crates.entries) :
    dependencies.features crate = own := by
  rw [Dependencies.features, NameMap.mem_entries_iff.mp isCrate]
  rfl

/-- What is required determines the dependencies. -/
theorem Accumulates.eq (accumulates : Accumulates requirements first)
    (accumulates' : Accumulates others second)
    (sameCrates : ∀ crate, crate ∈ Dictionary.keys requirements ↔ crate ∈ Dictionary.keys others)
    (sameFeatures : ∀ crate feature,
      Requests requirements crate feature ↔ Requests others crate feature) : first = second := by
  have features (crate : String) : first.features crate = second.features crate :=
    NameSet.ext fun feature => by
      rw [accumulates.mem_features, accumulates'.mem_features, sameFeatures]
  have crates : first.crates = second.crates := by
    refine NameMap.ext fun crate => ?_
    by_cases isCrate : crate ∈ Dictionary.keys first.crates.entries
    · have isCrate' : crate ∈ Dictionary.keys second.crates.entries := by
        rwa [accumulates'.mem_crates, ← sameCrates, ← accumulates.mem_crates]
      obtain ⟨own, member⟩ := Dictionary.mem_keys.mp isCrate
      obtain ⟨own', member'⟩ := Dictionary.mem_keys.mp isCrate'
      rw [NameMap.mem_entries_iff.mp member, NameMap.mem_entries_iff.mp member',
        ← features_of_mem member, ← features_of_mem member', features]
    · have noCrate : crate ∉ Dictionary.keys second.crates.entries := by
        rwa [accumulates'.mem_crates, ← sameCrates, ← accumulates.mem_crates]
      exact (Dictionary.get?_eq_none_iff.mpr isCrate).trans
        (Dictionary.get?_eq_none_iff.mpr noCrate).symm
  cases first
  cases second
  exact congrArg Dependencies.mk crates

/-- Requirements can be made in any order and more than once. -/
theorem requireAll_eq_of_mem_iff
    (same : ∀ requirement, requirement ∈ others ↔ requirement ∈ requirements) :
    requireAll others = requireAll requirements := by
  refine (accumulates_requireAll others).eq (accumulates_requireAll requirements) ?_ ?_
  · intro crate
    simp only [Dictionary.mem_keys, same]
  · intro crate feature
    simp only [Requests, same]

/-! ## The list of the crates -/

@[simp] theorem keys_list (dependencies : Dependencies) :
    Dictionary.keys dependencies.list = Dictionary.keys dependencies.crates.entries := by
  simp [Dictionary.keys, list, Function.comp_def]

theorem ascending_list (dependencies : Dependencies) : Dictionary.Ascending dependencies.list :=
  dependencies.crates.ascending.of_keys_eq (keys_list dependencies)

theorem features_of_mem_list (isListed : (crate, features) ∈ dependencies.list) :
    features = (dependencies.features crate).names := by
  obtain ⟨⟨_, own⟩, isCrate, same⟩ := List.mem_map.mp isListed
  cases same
  rw [features_of_mem isCrate]

/-! ## Manifests -/

theorem manifest_eq_textOfLines (dependencies : Dependencies) :
    dependencies.manifest =
      textOfLines (dependencies.list.map fun entry => manifestLine entry.1 entry.2) := by
  rw [manifest, textOfLines, List.map_map]
  rfl

/-- Features are quoted, so only the name of the crate can bring in a line feed. -/
theorem lineFeed_not_mem_manifestLine_iff :
    '\n' ∉ (manifestLine crate features).toList ↔ '\n' ∉ crate.toList := by
  have quoted : '\n' ∉ (", ".intercalate (features.map Text.quotedText)).toList := by
    rw [Text.not_mem_intercalate_iff (by decide), List.forall_mem_map]
    exact fun feature _ => Text.lineFeed_not_mem_quotedText feature
  rw [manifestLine]
  split
  · simp [toString]
  · simp [toString, quoted, -String.toList_intercalate]

/-- What line feeds separate in a manifest are the lines of its crates exactly if none of them has a
line feed in its name. -/
theorem splitOn_manifest_iff :
    dependencies.manifest.toList.splitOn '\n' =
        (dependencies.list.map fun entry => (manifestLine entry.1 entry.2).toList) ++ [[]] ↔
      ∀ crate ∈ Dictionary.keys dependencies.list, '\n' ∉ crate.toList := by
  rw [manifest_eq_textOfLines, splitOn_textOfLines, List.append_left_inj, List.flatMap_map,
    Dictionary.keys, List.forall_mem_map]
  constructor
  · intro same entry isEntry
    have isLine : (manifestLine entry.1 entry.2).toList ∈
        dependencies.list.flatMap fun entry =>
          (manifestLine entry.1 entry.2).toList.splitOn '\n' := by
      rw [same]
      exact List.mem_map_of_mem isEntry
    obtain ⟨source, -, isPiece⟩ := List.mem_flatMap.mp isLine
    rw [List.splitOn_eq_splitOnP, ← Text.cut_eq_splitOnP] at isPiece
    have noFeed : '\n' ∉ (manifestLine entry.1 entry.2).toList :=
      fun feed => absurd (Text.forall_mem_cut _ _ _ isPiece '\n' feed) (by decide)
    exact lineFeed_not_mem_manifestLine_iff.mp noFeed
  · intro noFeed
    rw [List.map_eq_flatMap]
    refine List.flatMap_congr fun entry isEntry => List.splitOn_eq_singleton ?_
    exact lineFeed_not_mem_manifestLine_iff.mpr (noFeed entry isEntry)

/-- Whatever is required, each crate stands once and in ascending order with the union of the features
that are requested, in ascending order too. The dependencies and their manifest are the same for the
same requirements in any order and number. The manifest has one line for each crate exactly if no name
of a crate has a line feed. -/
theorem requireAll_union (requirements : List (String × List String)) :
    Dictionary.Ascending (requireAll requirements).list ∧
    (∀ crate, crate ∈ Dictionary.keys (requireAll requirements).list ↔
      ∃ features, (crate, features) ∈ requirements) ∧
    (∀ crate features, (crate, features) ∈ (requireAll requirements).list →
      features = ((requireAll requirements).features crate).names) ∧
    (∀ crate, ((requireAll requirements).features crate).names.Pairwise (· < ·) ∧
      ∀ feature, feature ∈ ((requireAll requirements).features crate).names ↔
        ∃ features, (crate, features) ∈ requirements ∧ feature ∈ features) ∧
    (∀ others, (∀ requirement, requirement ∈ others ↔ requirement ∈ requirements) →
      requireAll others = requireAll requirements ∧
        (requireAll others).manifest = (requireAll requirements).manifest) ∧
    ((requireAll requirements).manifest.toList.splitOn '\n' =
        ((requireAll requirements).list.map fun entry =>
          (manifestLine entry.1 entry.2).toList) ++ [[]] ↔
      ∀ requirement ∈ requirements, '\n' ∉ requirement.1.toList) := by
  have accumulates := accumulates_requireAll requirements
  refine ⟨ascending_list _, fun crate => ?_, fun _ _ => features_of_mem_list,
    fun crate => ⟨NameSet.ascending _, accumulates.mem_features crate⟩, fun others same => ?_, ?_⟩
  · rw [keys_list, accumulates.mem_crates, Dictionary.mem_keys]
  · have equal := requireAll_eq_of_mem_iff same
    exact ⟨equal, congrArg manifest equal⟩
  · rw [splitOn_manifest_iff]
    simp only [keys_list, accumulates.mem_crates]
    rw [Dictionary.keys, List.forall_mem_map]

/-- Two crates, one of them required without features and later with one. -/
def jsonRequirements : List (String × List String) :=
  [("serde_json", []), ("serde", ["derive"]), ("serde_json", ["raw_value"])]

theorem requireAll_jsonRequirements :
    (∀ requirement, requirement ∈ jsonRequirements.reverse ++ jsonRequirements ↔
        requirement ∈ jsonRequirements) ∧
      (requireAll (jsonRequirements.reverse ++ jsonRequirements)).manifest =
        (requireAll jsonRequirements).manifest ∧
      (∀ requirement ∈ jsonRequirements, '\n' ∉ requirement.1.toList) ∧
      (requireAll jsonRequirements).manifest.toList.splitOn '\n' =
        ((requireAll jsonRequirements).list.map fun entry =>
          (manifestLine entry.1 entry.2).toList) ++ [[]] := by
  have same : ∀ requirement, requirement ∈ jsonRequirements.reverse ++ jsonRequirements ↔
      requirement ∈ jsonRequirements := by
    simp
  have noFeed : ∀ requirement ∈ jsonRequirements, '\n' ∉ requirement.1.toList := by decide
  obtain ⟨-, -, -, -, repeated, lines⟩ := requireAll_union jsonRequirements
  exact ⟨same, (repeated _ same).2, noFeed, lines.mpr noFeed⟩

/-- A crate with a line feed in its name takes two lines. -/
theorem manifest_brokenCrate :
    (requireAll [("a\nb", [])]).list = [("a\nb", [])] ∧
      (requireAll [("a\nb", [])]).manifest.toList.splitOn '\n' =
        ["a".toList, "b = \"1\"".toList, []] := by
  decide +kernel

end OptionSchema.Codegen.Dependencies
