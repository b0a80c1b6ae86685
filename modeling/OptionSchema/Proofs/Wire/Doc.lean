import OptionSchema.Proofs.Schema.Ordered
import OptionSchema.Proofs.Wire.Field

/-!
# Documentation that is written and read again

Texts and flags are always read back. The value of an example or default is read back if it is not
null, has few enough levels and nothing within it looks like an embedded text
(`isDoc_docTrees_iff`).
-/

namespace OptionSchema

open Json (Layout ReadError Tree Value)

/-- A value that can be written into a document and read again. -/
def Json.Value.Restorable (value : Value) : Prop :=
  value ≠ .null ∧ value.Plain ∧ value.depth ≤ Json.depthLimit

namespace Wire

open Dictionary (valuesOf)

variable {layout : Layout} {depth : Nat}

/-! ## The fields that are written -/

theorem valuesOf_filterMap {fields : List DocField} {tree? : DocField → Option Tree} {name : String} :
    valuesOf name (fields.filterMap fun field => (tree? field).map (field.name, ·)) =
      (fields.filter fun field => field.name = name).filterMap tree? := by
  induction fields with
  | nil => rfl
  | cons field rest ih =>
      cases written : tree? field with
      | none => by_cases named : field.name = name <;> simp [written, named, ih]
      | some tree =>
          by_cases named : field.name = name <;>
            simp [written, named, ih, Dictionary.valuesOf_cons]

theorem filter_all_name (field : DocField) :
    DocField.all.filter (fun other => other.name = field.name) = [field] := by
  cases field <;> rfl

/-- A documentation field is written once, unless it has its zero value. -/
theorem valuesOf_docTrees (field : DocField) (doc : Doc) :
    valuesOf field.name (docTrees layout depth doc) = (field.tree? layout depth doc).toList := by
  rw [docTrees, valuesOf_filterMap, filter_all_name]
  cases written : field.tree? layout depth doc <;> simp [written]

theorem valuesOf_docTrees_of_unknown {name : String} (unknown : DocField.ofName? name = none)
    (doc : Doc) : valuesOf name (docTrees layout depth doc) = [] := by
  have none' : DocField.all.filter (fun field => field.name = name) = [] := by
    rw [List.filter_eq_nil_iff]
    intro field _
    simpa using (DocField.name_ne_of_unknown unknown field).symm
  rw [docTrees, valuesOf_filterMap, none', List.filterMap_nil]

/-- The value that a documentation field is written as, unless it is left out. -/
def DocField.written? (field : DocField) (doc : Doc) : Option Value :=
  match field with
  | .example => value? doc.example?
  | .default => value? doc.default?
  | .defaultText => text? doc.defaultText
  | .description => text? doc.description
  | .descriptionClass => text? doc.descriptionClass
  | .visible => flag? doc.visible
  | .internal => flag? doc.internal
  | .readOnly => flag? doc.readOnly
where
  value? : Option Value → Option Value
    | none | some .null => none
    | some value => some value
  text? (text : String) : Option Value :=
    if text.isEmpty then none else some (.string text)
  flag? (flag : Bool) : Option Value :=
    if flag then some (.bool true) else none

theorem DocField.tree?_eq_map (field : DocField) (doc : Doc) :
    field.tree? layout depth doc = (field.written? doc).map fun value => value.tree layout depth := by
  have ofValue (value? : Option Value) : DocField.tree?.value? layout depth value? =
      (DocField.written?.value? value?).map fun value => value.tree layout depth := by
    cases value? with
    | none => rfl
    | some value => cases value <;> rfl
  have ofText (text : String) : DocField.tree?.text? text =
      (DocField.written?.text? text).map fun value => value.tree layout depth := by
    unfold DocField.tree?.text? DocField.written?.text?
    split <;> rfl
  have ofFlag (flag : Bool) : DocField.tree?.flag? flag =
      (DocField.written?.flag? flag).map fun value => value.tree layout depth := by
    cases flag <;> rfl
  match field with
  | .example => exact ofValue doc.example?
  | .default => exact ofValue doc.default?
  | .defaultText => exact ofText doc.defaultText
  | .description => exact ofText doc.description
  | .descriptionClass => exact ofText doc.descriptionClass
  | .visible => exact ofFlag doc.visible
  | .internal => exact ofFlag doc.internal
  | .readOnly => exact ofFlag doc.readOnly

theorem DocField.ordered_written? {field : DocField} {doc : Doc} {value : Value}
    (ordered : ∀ value ∈ doc.values, value.Ordered) (written : field.written? doc = some value) :
    value.Ordered := by
  obtain ⟨orderedExample, orderedDefault⟩ := Doc.forall_mem_values_iff.mp ordered
  have ofValue {value? : Option Value} (each : ∀ value ∈ value?, value.Ordered)
      (written : DocField.written?.value? value? = some value) : value.Ordered := by
    unfold DocField.written?.value? at written
    split at written
    · cases written
    · cases written
    · cases written
      exact each _ rfl
  have ofText {text : String} (written : DocField.written?.text? text = some value) :
      value.Ordered := by
    unfold DocField.written?.text? at written
    split at written <;> cases written
    exact Value.ordered_string text
  have ofFlag {flag : Bool} (written : DocField.written?.flag? flag = some value) :
      value.Ordered := by
    cases flag <;> cases written
    exact Value.ordered_bool true
  match field with
  | .example => exact ofValue orderedExample written
  | .default => exact ofValue orderedDefault written
  | .defaultText | .description | .descriptionClass => exact ofText written
  | .visible | .internal | .readOnly => exact ofFlag written

def docValues (doc : Doc) : List (String × Value) :=
  DocField.all.filterMap fun field => (field.written? doc).map (field.name, ·)

theorem docTrees_eq_map (doc : Doc) :
    docTrees layout depth doc =
      (docValues doc).map fun entry => (entry.1, entry.2.tree layout depth) := by
  rw [docTrees, docValues, List.map_filterMap]
  refine List.filterMap_congr fun field _ => ?_
  rw [DocField.tree?_eq_map, Option.map_map, Option.map_map]
  rfl

/-- Documentation fields are written as well-formed trees. -/
theorem wellFormed_docTrees {doc : Doc} {entry : String × Tree}
    (member : entry ∈ docTrees layout depth doc) : entry.2.wellFormed = true := by
  rw [docTrees_eq_map] at member
  obtain ⟨written, -, rfl⟩ := List.mem_map.mp member
  exact Value.wellFormed_tree written.2 layout depth

/-! ## Reading fields back -/

theorem readText_string (text : String) : (Layout.string text).readText = .ok text :=
  Json.readString_escape text

/-- A text is read back, also if it is left out for being empty. -/
theorem once_text {text result : String} :
    (∃ content, Once Tree.readText (DocField.tree?.text? text).toList content ∧
      result = content.getD "") ↔ result = text := by
  unfold DocField.tree?.text?
  by_cases empty : text = ""
  · subst empty
    simp [once_nil]
  · have written : text.isEmpty = false := by simpa using empty
    simp [written, once_singleton, readText_string]

/-- A flag is read back, also if it is left out for being false. -/
theorem once_flag {flag result : Bool} :
    (∃ content, Once Tree.readBool (DocField.tree?.flag? flag).toList content ∧
      result = content.getD false) ↔ result = flag := by
  cases flag with
  | false => simp [DocField.tree?.flag?, once_nil]
  | true => simp [DocField.tree?.flag?, once_singleton, Tree.readBool]

/-- A value that is not there or null is left out. -/
theorem once_value_absent {value? result : Option Value}
    (absent : value? = none ∨ value? = some .null) :
    (∃ content, Once Tree.readOptionalValue (DocField.tree?.value? layout depth value?).toList
      content ∧ result = content.getD none) ↔ result = none := by
  rcases absent with rfl | rfl <;> simp [DocField.tree?.value?, once_nil]

theorem value?_some {value : Value} (nonNull : value ≠ .null) :
    DocField.tree?.value? layout depth (some value) = some (value.tree layout depth) := by
  cases value with
  | null => exact absurd rfl nonNull
  | _ => rfl

/-- A value that is not null is not written as null. -/
theorem readOptionalValue_tree {value : Value} (nonNull : value ≠ .null)
    (recovers : value.FloatsRecover) :
    (value.tree layout depth).readOptionalValue =
      (Json.readValue Json.depthLimit (value.tree layout depth)).map some := by
  cases value with
  | null => exact absurd rfl nonNull
  | bool => rfl
  | string => rfl
  | array => rfl
  | object => rfl
  | number number =>
      cases number with
      | integer => rfl
      | float x =>
          rw [Value.tree, Value.tree_float, if_pos (recovers x .self).1]
          rfl

/-- Any other value is read from its tree. -/
theorem once_value {value : Value} {result : Option Value} (nonNull : value ≠ .null)
    (recovers : value.FloatsRecover) :
    (∃ content, Once Tree.readOptionalValue
        (DocField.tree?.value? layout depth (some value)).toList content ∧
      result = content.getD none) ↔
      ∃ read, Json.readValue Json.depthLimit (value.tree layout depth) = .ok read ∧
        result = some read := by
  rw [value?_some nonNull]
  simp only [Option.toList_some, once_singleton, readOptionalValue_tree nonNull recovers,
    Outcome.map_eq_ok]
  constructor
  · rintro ⟨_, ⟨_, ⟨read, readTree, rfl⟩, rfl⟩, rfl⟩
    exact ⟨read, readTree, rfl⟩
  · rintro ⟨read, readTree, rfl⟩
    exact ⟨_, ⟨_, ⟨read, readTree, rfl⟩, rfl⟩, rfl⟩

/-- A value is read back if and only if it can be. -/
theorem once_value_iff {value? : Option Value} (ordered : ∀ value ∈ value?, value.Ordered)
    (recovers : ∀ value ∈ value?, value.FloatsRecover) :
    (∃ content, Once Tree.readOptionalValue (DocField.tree?.value? layout depth value?).toList
      content ∧ value? = content.getD none) ↔ ∀ value ∈ value?, value.Restorable := by
  cases value? with
  | none => simp [once_value_absent]
  | some value =>
      by_cases null : value = .null
      · subst null
        simp [once_value_absent, Value.Restorable]
      · rw [once_value null (recovers value rfl)]
        have readBack : Json.readValue Json.depthLimit (value.tree layout depth) = .ok value ↔
            value.Plain ∧ value.depth ≤ Json.depthLimit :=
          Json.readValue_tree_eq_ok_iff (ordered value rfl) (recovers value rfl)
        simp only [Option.mem_some_iff, forall_eq', Value.Restorable, Option.some.injEq,
          exists_eq_right', readBack]
        exact (and_iff_right null).symm

/-- Nothing but the value itself is read from a field, apart from null, which is left out. -/
theorem once_value_inv {value? result : Option Value} (proper : ∀ value ∈ value?, value.Proper)
    (recovers : ∀ value ∈ value?, value.FloatsRecover)
    (read : ∃ content, Once Tree.readOptionalValue
      (DocField.tree?.value? layout depth value?).toList content ∧ result = content.getD none) :
    result = value? ∨ value? = some .null ∧ result = none := by
  cases value? with
  | none => exact .inl ((once_value_absent (.inl rfl)).mp read)
  | some value =>
      by_cases null : value = .null
      · subst null
        exact .inr ⟨rfl, (once_value_absent (.inr rfl)).mp read⟩
      · obtain ⟨found, readTree, rfl⟩ := (once_value null (recovers value rfl)).mp read
        have same := Json.readValue_tree_inv (proper value rfl) (recovers value rfl) readTree
        exact .inl (congrArg some same.1)

/-! ## Reading documentation back -/

section

variable {found : List (String × Tree)} {doc doc' : Doc}
  (written : ∀ field : DocField,
    valuesOf field.name found = (field.tree? layout depth doc).toList)

include written

/-- What is read of written documentation, field by field. -/
theorem isDoc_written_iff :
    IsDoc found doc' ↔
      (∃ content, Once Tree.readOptionalValue
        (DocField.tree?.value? layout depth doc.example?).toList content ∧
        doc'.example? = content.getD none) ∧
      (∃ content, Once Tree.readOptionalValue
        (DocField.tree?.value? layout depth doc.default?).toList content ∧
        doc'.default? = content.getD none) ∧
      doc'.defaultText = doc.defaultText ∧ doc'.description = doc.description ∧
      doc'.descriptionClass = doc.descriptionClass ∧ doc'.visible = doc.visible ∧
      doc'.internal = doc.internal ∧ doc'.readOnly = doc.readOnly := by
  rw [← once_text, ← once_text, ← once_text, ← once_flag, ← once_flag, ← once_flag]
  unfold IsDoc
  simp only [written]
  constructor
  · intro isDoc
    exact ⟨isDoc .example, isDoc .default, isDoc .defaultText, isDoc .description,
      isDoc .descriptionClass, isDoc .visible, isDoc .internal, isDoc .readOnly⟩
  · rintro ⟨example', default', defaultText, description, descriptionClass, visible, internal,
      readOnly⟩ field
    match field with
    | .example => exact example'
    | .default => exact default'
    | .defaultText => exact defaultText
    | .description => exact description
    | .descriptionClass => exact descriptionClass
    | .visible => exact visible
    | .internal => exact internal
    | .readOnly => exact readOnly

/-- Documentation is read back if and only if its values can be. -/
theorem isDoc_self_iff (ordered : ∀ value ∈ doc.values, value.Ordered)
    (recovers : ∀ value ∈ doc.values, value.FloatsRecover) :
    IsDoc found doc ↔ ∀ value ∈ doc.values, value.Restorable := by
  rw [Doc.forall_mem_values_iff] at ordered recovers ⊢
  rw [isDoc_written_iff written, once_value_iff ordered.1 recovers.1,
    once_value_iff ordered.2 recovers.2]
  constructor
  · rintro ⟨ofExample, ofDefault, -⟩
    exact ⟨ofExample, ofDefault⟩
  · rintro ⟨ofExample, ofDefault⟩
    exact ⟨ofExample, ofDefault, rfl, rfl, rfl, rfl, rfl, rfl⟩

/-- Whatever documentation is read of written documentation is written in the same way. -/
theorem docTrees_of_isDoc (proper : ∀ value ∈ doc.values, value.Proper)
    (recovers : ∀ value ∈ doc.values, value.FloatsRecover) (isDoc : IsDoc found doc')
    (layout' : Layout) (depth' : Nat) :
    docTrees layout' depth' doc' = docTrees layout' depth' doc := by
  rw [Doc.forall_mem_values_iff] at proper recovers
  obtain ⟨readExample, readDefault, defaultText, description, descriptionClass, visible, internal,
    readOnly⟩ := (isDoc_written_iff written).mp isDoc
  have same {value? result : Option Value}
      (read : result = value? ∨ value? = some .null ∧ result = none) :
      DocField.tree?.value? layout' depth' result = DocField.tree?.value? layout' depth' value? := by
    rcases read with rfl | ⟨rfl, rfl⟩ <;> rfl
  have example' := same (once_value_inv proper.1 recovers.1 readExample)
  have default' := same (once_value_inv proper.2 recovers.2 readDefault)
  unfold docTrees
  refine List.filterMap_congr fun field _ => congrArg _ ?_
  match field with
  | .example => exact example'
  | .default => exact default'
  | .defaultText => exact congrArg DocField.tree?.text? defaultText
  | .description => exact congrArg DocField.tree?.text? description
  | .descriptionClass => exact congrArg DocField.tree?.text? descriptionClass
  | .visible => exact congrArg DocField.tree?.flag? visible
  | .internal => exact congrArg DocField.tree?.flag? internal
  | .readOnly => exact congrArg DocField.tree?.flag? readOnly

end

end Wire

end OptionSchema
