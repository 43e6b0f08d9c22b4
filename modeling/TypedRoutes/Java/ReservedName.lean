import TypedRoutes.Java.TypeNames

/-! Names that a parameter cannot have in generated code. -/

namespace TypedRoutes.Java

/-- Reserved words and literals of the language. -/
def keywords : List String :=
  ["_", "abstract", "assert", "boolean", "break", "byte", "case", "catch", "char", "class",
    "const", "continue", "default", "do", "double", "else", "enum", "extends", "false", "final",
    "finally", "float", "for", "goto", "if", "implements", "import", "instanceof", "int",
    "interface", "long", "native", "new", "null", "package", "private", "protected", "public",
    "return", "short", "static", "strictfp", "super", "switch", "synchronized", "this", "throw",
    "throws", "transient", "true", "try", "void", "volatile", "while"]

/-- Whether a name is a keyword. -/
def isKeyword (name : String) : Bool :=
  keywords.contains name

/-- Classes that generated code uses whatever the types of the parameters are, and the class of
timestamps. -/
def supportClasses : List String :=
  ["Instant", "RequestParser", "RoutingContext"]

/-- Whether generated code may call a class by this simple name. A local variable of the same name
would hide the class. -/
def isCalledClass (name : String) : Bool :=
  supportClasses.contains name || ParamType.all.any fun type => (typeNames type).parser == name

end TypedRoutes.Java
