import TypedRoutes.Java.Literal
import TypedRoutes.Java.ReservedName

/-! Java statements that read the parameters of a request, and the record that holds them. -/

namespace TypedRoutes.Java

/-- Names that the generated code uses. -/
structure CodeNames where
  /-- The variable from which parameters are read. -/
  accessor : String := "rp"
  /-- The record that holds the parameters. -/
  record : String := "Params"
  /-- Further names that no parameter may have. -/
  reserved : List String := []
  deriving DecidableEq

/-- The reasons why no code can be written for a parameter. -/
inductive CodeError where
  /-- The type has no spelling. -/
  | unsupportedType (name : String) (type : ParamType)
  /-- The default is no value of the type. -/
  | badDefault (name : String) (type : ParamType) (literal : String)
  /-- The name means something else in the generated code. -/
  | nameTaken (name : String)
  deriving DecidableEq

/-- The error in one line. -/
def CodeError.message : CodeError → String
  | unsupportedType name type =>
    "unsupported type " ++ type.tag ++ " for parameter '" ++ name ++ "'"
  | badDefault name type literal =>
    "default '" ++ literal ++ "' of parameter '" ++ name ++ "' is not a valid " ++ type.tag
  | nameTaken name => "parameter name '" ++ name ++ "' is reserved in generated code"

/-- The code for the parameters of one template. -/
structure Code where
  /-- The declaration of the record, one component for each parameter. -/
  recordDeclaration : String
  /-- One statement for each parameter. -/
  statements : List String
  deriving DecidableEq

/-- The method that reads a parameter of a source. -/
def getter : Source → String
  | .path => "getPathParam"
  | .query => "getQueryParam"

/-- Whether a parameter of this name would clash with other names in the code. -/
def CodeNames.reserves (options : CodeNames) (name : String) : Bool :=
  isKeyword name || isCalledClass name || name == options.accessor
    || options.reserved.contains name

/-- The spellings of the type of a parameter. A type that is not in the table is an error. -/
def lookUpNames (param : Param) : Except CodeError TypeNames :=
  -- Every type has a row, so the error is never raised.
  match typeTable.find? (·.1 == param.type) with
  | some row => .ok row.2
  | none => .error (.unsupportedType param.name param.type)

/-- The literal for the default that is written in a parameter. -/
def literalOf (param : Param) (raw : String) : Except CodeError String :=
  match literal? param.type raw with
  | some literal => .ok literal
  | none => .error (.badDefault param.name param.type raw)

/-- The default as an argument of the getter, with the comma after it. -/
def defaultArgument (param : Param) : Except CodeError String :=
  match param.default with
  | none => .ok ""
  | some raw => (literalOf param raw).map (· ++ ", ")

/-- The statement that declares a local variable for a parameter and reads its value. -/
def readStatement (options : CodeNames) (param : Param) : Except CodeError String := do
  let names ← lookUpNames param
  -- The spellings are looked up first, so a missing row would be told before a bad default.
  let argument ← defaultArgument param
  pure (names.boxed ++ " " ++ param.name ++ " = " ++ options.accessor ++ "." ++ getter param.source
    ++ "(\"" ++ param.name ++ "\", " ++ argument ++ names.parser ++ ".create());")

/-- The statement for a parameter whose name is free. -/
def statementOf (options : CodeNames) (param : Param) : Except CodeError String :=
  -- A name in use is told before anything else.
  if options.reserves param.name then .error (.nameTaken param.name)
  else readStatement options param

/-- The record component for a parameter. -/
def component (param : Param) : String :=
  (typeNames param.type).field ++ " " ++ param.name

/-- The declaration of the record. -/
def recordDeclaration (name : String) (params : ParamList) : String :=
  "record " ++ name ++ "(" ++ ", ".intercalate (params.all.map component) ++ ") \x7b\x7d"

/-- The code for some parameters. The first one with a fault decides the error. -/
def codeFor (options : CodeNames) (params : ParamList) : Except CodeError Code := do
  let statements ← params.all.mapM (statementOf options)
  pure ⟨recordDeclaration options.record params, statements⟩

end TypedRoutes.Java
