/-! Typed request parameters: their types, where they are read from, and the list of one template. -/

namespace TypedRoutes

/-- The types a parameter can have. -/
inductive ParamType where
  | int
  | long
  | string
  | boolean
  | float
  | double
  | timestamp
  deriving DecidableEq

namespace ParamType

/-- Every type, in the order in which they are listed to the user. -/
def all : List ParamType :=
  [int, long, string, boolean, float, double, timestamp]

/-- The lower-case word that names the type in a template. -/
def tag : ParamType → String
  | int => "int"
  | long => "long"
  | string => "string"
  | boolean => "boolean"
  | float => "float"
  | double => "double"
  | timestamp => "timestamp"

/-- The type that a word names; case matters. -/
def ofTag? (word : String) : Option ParamType :=
  all.find? fun type => type.tag == word

end ParamType

/-- Where a parameter is read from. -/
inductive Source where
  | path
  | query
  deriving DecidableEq

/-- The word for a source. -/
def Source.word : Source → String
  | path => "path"
  | query => "query"

/-- One parameter of a route. -/
structure Param where
  /-- The name, which is the same in the request and in the code. -/
  name : String
  /-- Where the value is read from. -/
  source : Source
  /-- The type of the value. -/
  type : ParamType
  /-- The default as it was written. -/
  default : Option String
  deriving DecidableEq

/-- The parameter in one line: source, name, type and default. -/
def Param.describe (param : Param) : String :=
  let typed := param.source.word ++ " " ++ param.name ++ ": " ++ param.type.tag
  match param.default with
  | none => typed
  | some text => typed ++ " = " ++ text

/-- The parameters of one template, each group in the order of declaration. -/
structure ParamList where
  /-- Parameters of the path. -/
  path : List Param
  /-- Parameters of the query. -/
  query : List Param
  deriving DecidableEq

namespace ParamList

/-- All parameters, those of the path first. -/
def all (params : ParamList) : List Param :=
  params.path ++ params.query

/-- Whether there is no parameter. -/
def isEmpty (params : ParamList) : Bool :=
  params.all.isEmpty

/-- All names, joined by commas in the order of `all`. -/
def nameList (params : ParamList) : String :=
  ", ".intercalate (params.all.map Param.name)

end ParamList

end TypedRoutes
