import OptionSchema.Codegen.Render
import OptionSchema.Proofs.Text.Literal
import OptionSchema.Proofs.Text.Piece

/-!
# Reading the lines of declarations

What can be told from the lines of a declaration, without the declaration. Blank lines separate the
items of a sum type (`splitOn_sumLines`) and those of an enumeration (`splitOn_enumerationLines`).
In a struct each field stands behind the line that gives its name in data
(`renamedFields_structLines`).
-/

namespace OptionSchema.Codegen

open Text (quotedText literalBetween? literalBetween?_quotedText)

/-- Items with a separator in front of each but the first one are what the separator separates. -/
theorem splitOn_append_flatMap {α : Type} [BEq α] [LawfulBEq α] {separator : α} {first : List α}
    {items : List (List α)} (apart : ∀ item ∈ first :: items, separator ∉ item) :
    (first ++ items.flatMap (separator :: ·)).splitOn separator = first :: items := by
  rw [Text.append_flatMap_eq_intercalate, List.splitOn_intercalate _ apart (List.cons_ne_nil _ _)]

/-! ## Sum types -/

theorem TypeExpr.text_named (identifier : String) : (TypeExpr.named identifier).text = identifier :=
  rfl

def sumItem (identifier : String) (path : List String) (variants : List (List String)) :
    List String :=
  [s!"/// `{identifier}` describes the `either` type for {describePath path}.", "///",
    "/// Deserialization tries each alternative in declaration order.",
    "#[derive(Debug, Clone, Serialize)]", "#[serde(untagged)]", s!"pub enum {identifier} \x7b"] ++
    variants.flatten ++ ["\x7d"]

/-- A variant with the given name, for an alternative with the given tag, around a type. -/
def variantLines (name tag payload : String) : List String :=
  [s!"    /// A `{tag}` value.", s!"    {name}({payload}),"]

def conversionItem (identifier name payload : String) : List String :=
  [s!"impl ::core::convert::From<{payload}> for {identifier} \x7b",
    s!"    fn from(value: {payload}) -> Self \x7b",
    s!"        Self::{name}(value)",
    "    \x7d", "\x7d"]

/-- The reader of a sum type. It returns the first variant whose payload can be read. -/
def readerItem (identifier : String) (attempts : List (List String)) : List String :=
  [s!"impl<'de> Deserialize<'de> for {identifier} \x7b",
    "    fn deserialize<__D>(deserializer: __D) -> ::core::result::Result<Self, __D::Error>",
    "    where",
    "        __D: serde::Deserializer<'de>,",
    "    \x7b",
    "        let raw = " ++
      "::std::boxed::Box::<serde_json::value::RawValue>::deserialize(deserializer)?;"] ++
    attempts.flatten ++
    ["        ::core::result::Result::Err(" ++
        s!"serde::de::Error::custom(\"no alternative matched `{identifier}`\"))",
      "    \x7d", "\x7d"]

def attemptLines (name payload : String) : List String :=
  let read := s!"serde_json::from_str::<{payload}>(raw.get())"
  [s!"        if let ::core::result::Result::Ok(value) = {read} \x7b",
    s!"            return ::core::result::Result::Ok(Self::{name}(value));",
    "        \x7d"]

variable {identifier : String} {path : List String} {variants : List Variant} {line : String}

theorem blank_not_mem_sumItem :
    "" ∉ sumItem identifier path (variants.map fun variant =>
      variantLines variant.name variant.tag variant.payload.text) := by
  simp [sumItem, variantLines, toString]

theorem blank_not_mem_conversionItem {name payload : String} :
    "" ∉ conversionItem identifier name payload := by
  simp [conversionItem, toString]

theorem blank_not_mem_readerItem :
    "" ∉ readerItem identifier (variants.map fun variant =>
      attemptLines variant.name variant.payload.text) := by
  simp [readerItem, attemptLines, toString]

/-- A sum type is made of items with blank lines between them. -/
theorem sumLines_eq : sumLines identifier path variants =
    sumItem identifier path (variants.map fun variant =>
        variantLines variant.name variant.tag variant.payload.text) ++
      (variants.map (fun variant => conversionItem identifier variant.name variant.payload.text) ++
        [readerItem identifier (variants.map fun variant =>
          attemptLines variant.name variant.payload.text)]).flatMap ("" :: ·) := by
  have listed : Variant.lines = fun variant =>
      variantLines variant.name variant.tag variant.payload.text := rfl
  have conversions : Variant.conversion identifier = fun variant =>
      "" :: conversionItem identifier variant.name variant.payload.text := rfl
  have attempts : Variant.attempt = fun variant =>
      attemptLines variant.name variant.payload.text := rfl
  rw [List.flatMap_append, List.flatMap_map, List.flatMap_singleton, sumLines, listed, conversions,
    attempts, sumItem, readerItem]
  simp only [List.flatMap_def, List.append_assoc, List.cons_append, List.nil_append]

/-- What blank lines separate in a sum type: the enumeration of the variants, a conversion for each
variant, in order, and the reader. -/
theorem splitOn_sumLines :
    (sumLines identifier path variants).splitOn "" =
      sumItem identifier path (variants.map fun variant =>
          variantLines variant.name variant.tag variant.payload.text) ::
        (variants.map (fun variant =>
            conversionItem identifier variant.name variant.payload.text) ++
          [readerItem identifier (variants.map fun variant =>
            attemptLines variant.name variant.payload.text)]) := by
  rw [sumLines_eq, splitOn_append_flatMap]
  simp only [List.forall_mem_cons, List.forall_mem_append, List.forall_mem_map]
  exact ⟨blank_not_mem_sumItem, fun _ _ => blank_not_mem_conversionItem, blank_not_mem_readerItem,
    fun _ member => nomatch member⟩

/-! ## Enumerations -/

def enumerationItem (identifier : String) (path : List String) : List String :=
  [s!"/// `{identifier}` is the enum type for {describePath path}.",
    "#[derive(Debug, Clone, PartialEq, Eq, Hash, Serialize, Deserialize)]",
    "#[serde(transparent)]",
    s!"pub struct {identifier}(pub Cow<'static, str>);"]

def constantValue? (enumeration constant : String) : List String → Option String
  | [_, line] =>
      literalBetween? s!"pub const {constant}: {enumeration} = {enumeration}(Cow::Borrowed(" "));"
        line
  | _ => none

def constantItem (enumeration : String) (constant : Constant) : List String :=
  (constant.lines enumeration).tail

theorem constantItem_eq (enumeration : String) (constant : Constant) :
    constantItem enumeration constant =
      ["#[allow(non_upper_case_globals)]",
        s!"pub const {constant.identifier}: {enumeration} = {enumeration}(Cow::Borrowed(" ++
          quotedText constant.value ++ "));"] := by
  simp [constantItem, Constant.lines, String.append_assoc, toString]

/-- The literal of a constant stands for its value. -/
theorem constantValue?_constantItem (enumeration : String) (constant : Constant) :
    constantValue? enumeration constant.identifier (constantItem enumeration constant) =
      some constant.value := by
  rw [constantItem_eq, constantValue?, literalBetween?_quotedText]

/-- What blank lines separate in an enumeration: its type and its constants, in order. -/
theorem splitOn_enumerationLines (constants : List Constant) :
    (enumerationLines identifier path constants).splitOn "" =
      enumerationItem identifier path :: constants.map (constantItem identifier) := by
  have joined : enumerationLines identifier path constants =
      enumerationItem identifier path ++
        (constants.map (constantItem identifier)).flatMap ("" :: ·) := by
    rw [List.flatMap_map]
    rfl
  rw [joined, splitOn_append_flatMap]
  rw [List.forall_mem_cons, List.forall_mem_map]
  constructor
  · simp [enumerationItem, toString]
  · intro constant _
    simp [constantItem, Constant.lines, toString]

/-! ## Structs -/

def renamed? (line : String) : Option String :=
  literalBetween? "    #[serde(rename = " ")]" line

/-- The names in data that lines give to fields, each with the line of the field. -/
def renamedFields : List String → List (String × String)
  | [] => []
  | line :: rest =>
      match renamed? line, rest.head? with
      | some member, some field => (member, field) :: renamedFields rest
      | _, _ => renamedFields rest

def renameLine (field : Field) : String :=
  s!"    #[serde(rename = {quotedText field.member})]"

def fieldLine (field : Field) : String :=
  s!"    pub {field.identifier}: {field.type.text},"

variable {lines rest : List String}

theorem renamed?_renameLine (field : Field) : renamed? (renameLine field) = some field.member :=
  literalBetween?_quotedText _ _ _

/-- Four spaces and a number sign are the start of a line that gives a field its name in data. -/
theorem renamed?_eq_none (apart : ¬ [' ', ' ', ' ', ' ', '#'] <+: line.toList) :
    renamed? line = none := by
  have start : [' ', ' ', ' ', ' ', '#'] <+: "    #[serde(rename = ".toList := by
    rw [(String.toList_ofList : "    #[serde(rename = ".toList = _)]
    exact ⟨_, rfl⟩
  cases found : renamed? line with
  | none => rfl
  | some member => exact absurd (start.trans (Text.isPrefix_of_literalBetween? found)) apart

theorem renamed?_fieldLine (field : Field) : renamed? (fieldLine field) = none := by
  refine renamed?_eq_none ?_
  simp [fieldLine, toString]

theorem renamed?_comment {indent description : String}
    (spaces : indent.toList = [' ', ' ', ' ', ' ']) :
    ∀ line ∈ (Comment.comment indent description).map String.ofList, renamed? line = none := by
  simp only [Comment.comment, List.map_map, List.forall_mem_map]
  intro text _
  refine renamed?_eq_none ?_
  simp [Comment.commentLine, spaces]

theorem renamedFields_cons_of_none (none : renamed? line = none) :
    renamedFields (line :: rest) = renamedFields rest := by
  rw [renamedFields, none]

theorem renamedFields_append_of_none (none : ∀ line ∈ lines, renamed? line = none) :
    renamedFields (lines ++ rest) = renamedFields rest := by
  induction lines with
  | nil => rfl
  | cons line lines ih =>
      rw [List.forall_mem_cons] at none
      rw [List.cons_append, renamedFields_cons_of_none none.1, ih none.2]

/-- In the lines of a field its name in data stands right in front of the field. -/
theorem renamedFields_fieldLines (field : Field) :
    renamedFields (field.lines ++ rest) =
      (field.member, fieldLine field) :: renamedFields rest := by
  have comment : ∀ line ∈ (Comment.comment "    " field.description).map String.ofList,
      renamed? line = none := renamed?_comment String.toList_ofList
  have lines : field.lines = (Comment.comment "    " field.description).map String.ofList ++
      [renameLine field, fieldLine field] := rfl
  rw [lines, List.append_assoc, renamedFields_append_of_none comment, List.cons_append,
    renamedFields, renamed?_renameLine]
  exact congrArg _ (renamedFields_cons_of_none (renamed?_fieldLine field))

theorem renamedFields_flatMap_lines (fields : List Field) :
    renamedFields (fields.flatMap Field.lines ++ rest) =
      (fields.map fun field => (field.member, fieldLine field)) ++ renamedFields rest := by
  induction fields with
  | nil => rfl
  | cons field fields ih =>
      rw [List.flatMap_cons, List.append_assoc, renamedFields_fieldLines, ih]
      rfl

/-- The lines of a struct give each field the name of its member, and nothing else a name. -/
theorem renamedFields_structLines (fields : List Field) :
    renamedFields (structLines identifier path fields) =
      fields.map fun field => (field.member, fieldLine field) := by
  have opening : ∀ line ∈ [s!"/// `{identifier}` is the struct type for {describePath path}.",
      "#[derive(Debug, Clone, Serialize, Deserialize)]"], renamed? line = none := by
    rw [List.forall_mem_cons, List.forall_mem_singleton]
    exact ⟨renamed?_eq_none (by simp [toString]), renamed?_eq_none (by simp)⟩
  have head : renamed? s!"pub struct {identifier} \x7b" = none :=
    renamed?_eq_none (by simp [toString])
  have alone : renamed? s!"pub struct {identifier} \x7b\x7d" = none :=
    renamed?_eq_none (by simp [toString])
  have closing : renamed? "\x7d" = none := renamed?_eq_none (by simp)
  rw [structLines, renamedFields_append_of_none opening]
  cases fields with
  | nil => exact renamedFields_cons_of_none alone
  | cons field fields =>
      rw [if_neg (by simp), List.append_assoc, List.singleton_append,
        renamedFields_cons_of_none head, renamedFields_flatMap_lines,
        renamedFields_cons_of_none closing]
      simp [renamedFields]

end OptionSchema.Codegen
