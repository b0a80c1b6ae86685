import OptionSchema.Schema.Tag

/-!
# Declarations

The contents of a generated file as data: types, declarations, and what they need to be in scope.
Paths say which part of the option tree a declaration stands for.
-/

namespace OptionSchema.Codegen

/-- The types that generated code takes from elsewhere. -/
inductive Builtin where
  | string
  | bool
  | f64
  | i8
  | i16
  | i32
  | i64
  | u8
  | u16
  | u32
  | u64
  | jsonNumber
  | jsonValue
  | jsonMap
  | rawJson
  deriving DecidableEq

inductive TypeExpr where
  | builtin (builtin : Builtin)
  | named (identifier : String)
  | optional (inner : TypeExpr)
  | list (inner : TypeExpr)
  | map (inner : TypeExpr)
  deriving DecidableEq

/-- A field of a struct. It stands for a member of a module and keeps the member's name. -/
structure Field where
  member : String
  identifier : String
  description : String
  type : TypeExpr
  deriving DecidableEq

structure Constant where
  identifier : String
  value : String
  deriving DecidableEq

/-- A variant of a sum type. It stands for an alternative with the given tag. -/
structure Variant where
  name : String
  tag : String
  payload : TypeExpr
  deriving DecidableEq

/-- A declaration of a generated file. A `wrapper` gives an alternative of a sum type a type of its
own. -/
inductive Declaration where
  | struct (identifier : String) (path : List String) (fields : List Field)
  | enumeration (identifier : String) (path : List String) (constants : List Constant)
  | sum (identifier : String) (path : List String) (variants : List Variant)
  | wrapper (identifier sum : String) (inner : TypeExpr)
  deriving DecidableEq

structure Imports where
  cow : Bool
  map : Bool
  deriving DecidableEq

def scalarType : Scalar → Builtin
  | .str | .path | .package => .string
  | .int | .intBetween => .i64
  | .positiveInt | .unsignedInt => .u64
  | .signedInt8 => .i8
  | .signedInt16 => .i16
  | .signedInt32 => .i32
  | .unsignedInt8 => .u8
  | .unsignedInt16 => .u16
  | .unsignedInt32 => .u32
  | .bool => .bool
  | .float => .f64
  | .attrs => .jsonMap
  | .anything => .jsonValue

def Builtin.requirement? : Builtin → Option (String × List String)
  | .jsonNumber | .jsonValue | .jsonMap => some ("serde_json", [])
  | .rawJson => some ("serde_json", ["raw_value"])
  | _ => none

end OptionSchema.Codegen
