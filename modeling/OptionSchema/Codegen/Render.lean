import OptionSchema.Codegen.Declaration
import OptionSchema.Codegen.Dependencies
import OptionSchema.Comment.Reflow
import OptionSchema.Schema.Path

/-!
# Rendering declarations

Declarations are written as lines of source text. Names that come from the option tree stand in
attributes and constants as quoted texts and in comments as they are.
-/

namespace OptionSchema.Codegen

def Builtin.text : Builtin → String
  | .string => "String"
  | .bool => "bool"
  | .f64 => "f64"
  | .i8 => "i8"
  | .i16 => "i16"
  | .i32 => "i32"
  | .i64 => "i64"
  | .u8 => "u8"
  | .u16 => "u16"
  | .u32 => "u32"
  | .u64 => "u64"
  | .jsonNumber => "serde_json::Number"
  | .jsonValue => "serde_json::Value"
  | .jsonMap => "serde_json::Map<String, serde_json::Value>"
  | .rawJson => "Box<serde_json::value::RawValue>"

def TypeExpr.text : TypeExpr → String
  | .builtin type => type.text
  | .named identifier => identifier
  | .optional inner => s!"Option<{inner.text}>"
  | .list inner => s!"Vec<{inner.text}>"
  | .map inner => s!"BTreeMap<String, {inner.text}>"

/-- The part of the option tree at a path, in words. -/
def describePath (path : List String) : String :=
  if path.isEmpty then "the root module" else s!"`{Path.dotted path}`"

def Field.lines (field : Field) : List String :=
  (Comment.comment "    " field.description).map String.ofList ++
    [s!"    #[serde(rename = {Text.quotedText field.member})]",
      s!"    pub {field.identifier}: {field.type.text},"]

/-- The lines of a constant of an enumeration, after an empty line. -/
def Constant.lines (enumeration : String) (constant : Constant) : List String :=
  let value := s!"{enumeration}(Cow::Borrowed({Text.quotedText constant.value}))"
  ["", "#[allow(non_upper_case_globals)]",
    s!"pub const {constant.identifier}: {enumeration} = {value};"]

def Variant.lines (variant : Variant) : List String :=
  [s!"    /// A `{variant.tag}` value.", s!"    {variant.name}({variant.payload.text}),"]

def Variant.conversion (sum : String) (variant : Variant) : List String :=
  let payload := variant.payload.text
  ["", s!"impl ::core::convert::From<{payload}> for {sum} \x7b",
    s!"    fn from(value: {payload}) -> Self \x7b",
    s!"        Self::{variant.name}(value)",
    "    \x7d", "\x7d"]

def Variant.attempt (variant : Variant) : List String :=
  let read := s!"serde_json::from_str::<{variant.payload.text}>(raw.get())"
  [s!"        if let ::core::result::Result::Ok(value) = {read} \x7b",
    s!"            return ::core::result::Result::Ok(Self::{variant.name}(value));",
    "        \x7d"]

def structLines (identifier : String) (path : List String) (fields : List Field) : List String :=
  [s!"/// `{identifier}` is the struct type for {describePath path}.",
      "#[derive(Debug, Clone, Serialize, Deserialize)]"] ++
    if fields.isEmpty then [s!"pub struct {identifier} \x7b\x7d"]
    else [s!"pub struct {identifier} \x7b"] ++ fields.flatMap Field.lines ++ ["\x7d"]

def enumerationLines (identifier : String) (path : List String) (constants : List Constant) :
    List String :=
  [s!"/// `{identifier}` is the enum type for {describePath path}.",
    "#[derive(Debug, Clone, PartialEq, Eq, Hash, Serialize, Deserialize)]",
    "#[serde(transparent)]",
    s!"pub struct {identifier}(pub Cow<'static, str>);"] ++
    constants.flatMap (Constant.lines identifier)

/-- The lines of a sum type: its variants, the conversions into it, and a reader that tries the
variants in order. -/
def sumLines (identifier : String) (path : List String) (variants : List Variant) : List String :=
  [s!"/// `{identifier}` describes the `either` type for {describePath path}.",
      "///",
      "/// Deserialization tries each alternative in declaration order.",
      "#[derive(Debug, Clone, Serialize)]",
      "#[serde(untagged)]",
      s!"pub enum {identifier} \x7b"] ++
    variants.flatMap Variant.lines ++ ["\x7d"] ++
    variants.flatMap (Variant.conversion identifier) ++
    ["",
      s!"impl<'de> Deserialize<'de> for {identifier} \x7b",
      "    fn deserialize<__D>(deserializer: __D) -> ::core::result::Result<Self, __D::Error>",
      "    where",
      "        __D: serde::Deserializer<'de>,",
      "    \x7b",
      "        let raw = " ++
        "::std::boxed::Box::<serde_json::value::RawValue>::deserialize(deserializer)?;"] ++
    variants.flatMap Variant.attempt ++
    ["        ::core::result::Result::Err(" ++
        s!"serde::de::Error::custom(\"no alternative matched `{identifier}`\"))",
      "    \x7d", "\x7d"]

def wrapperLines (identifier sum : String) (inner : TypeExpr) : List String :=
  [s!"/// `{identifier}` is one of the types that satisfy [`{sum}`].",
    "#[derive(Debug, Clone, Serialize, Deserialize)]",
    "#[serde(transparent)]",
    s!"pub struct {identifier}(pub {inner.text});"]

def Declaration.lines : Declaration → List String
  | .struct identifier path fields => structLines identifier path fields
  | .enumeration identifier path constants => enumerationLines identifier path constants
  | .sum identifier path variants => sumLines identifier path variants
  | .wrapper identifier around inner => wrapperLines identifier around inner

/-- The lines of the imports of standard types, with an empty line behind them. -/
def Imports.lines (imports : Imports) : List String :=
  let uses :=
    (if imports.cow then ["use std::borrow::Cow;"] else []) ++
      if imports.map then ["use std::collections::BTreeMap;"] else []
  if uses.isEmpty then [] else uses ++ [""]

def headerLines (package : String) (imports : Imports) : List String :=
  ["// Code generated by modgen. DO NOT EDIT.", s!"// Package `{package}`.", ""] ++
    imports.lines ++ ["use serde::\x7bDeserialize, Serialize\x7d;"]

def textOfLines (lines : List String) : String :=
  String.join (lines.map (· ++ "\n"))

/-! ## Writing

A line is written behind what has been written so far. Writers may fail; a text that grows in memory
takes every line. -/

structure FormatError

/-- Formatted writing can fail in general; a text takes every line. -/
def writeLine (text line : String) : Except FormatError String :=
  .ok (text ++ line ++ "\n")

def writeLines (text : String) (lines : List String) : Except FormatError String :=
  lines.foldlM writeLine text

end OptionSchema.Codegen
