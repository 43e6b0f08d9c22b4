import TypedRoutes.Param.Basic

/-! How the types of parameters are spelled in Java. -/

namespace TypedRoutes.Java

/-- The spellings of one type. -/
structure TypeNames where
  /-- The type of a local variable. -/
  boxed : String
  /-- The type of a record component. -/
  field : String
  /-- The class that reads a value of the type from a request. -/
  parser : String
  deriving DecidableEq

/-- The spellings of each type. -/
def typeNames : ParamType → TypeNames
  | .int => ⟨"Integer", "int", "IntegerParser"⟩
  | .long => ⟨"Long", "long", "LongParser"⟩
  | .string => ⟨"String", "String", "StringParser"⟩
  | .boolean => ⟨"Boolean", "boolean", "BooleanParser"⟩
  | .float => ⟨"Float", "float", "FloatParser"⟩
  | .double => ⟨"Double", "double", "DoubleParser"⟩
  | .timestamp => ⟨"Instant", "Instant", "InstantParser"⟩

/-- The types with their spellings. -/
def typeTable : List (ParamType × TypeNames) :=
  ParamType.all.map fun type => (type, typeNames type)

end TypedRoutes.Java
