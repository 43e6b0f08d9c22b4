import TypedRoutes.Java.Statement
import TypedRoutes.Text.Capital
import TypedRoutes.Text.Split

/-! Complete source files: a class with the registration path of one route and a method that reads
its parameters. -/

namespace TypedRoutes.Java

/-- The method that handles the requests of a route. -/
structure Handler where
  /-- The package of the generated class; empty for the default package. -/
  package : String
  /-- The simple name of the class that holds the method. -/
  className : String
  /-- The name of the method. -/
  method : String
  deriving DecidableEq

namespace Handler

/-- What the names of all generated types have in common. -/
def baseName (handler : Handler) : String :=
  handler.className ++ "_" ++ upperFirst handler.method

/-- The name of the generated class. -/
def generatedClass (handler : Handler) : String :=
  handler.baseName ++ "_ParamParser"

/-- The name of the generated record. -/
def recordName (handler : Handler) : String :=
  handler.baseName ++ "_Params"

/-- The name of the generated file. -/
def fileName (handler : Handler) : String :=
  handler.generatedClass ++ ".java"

end Handler

/-- The package of the request parsers where none is named. -/
def defaultRuntimePackage : String := "routetemplate.web"

/-- What generated files have in common. -/
structure UnitOptions where
  /-- The package of the classes that read requests. -/
  runtimePackage : String := defaultRuntimePackage
  /-- One level of indentation. -/
  indent : String := "\t"
  /-- The value of the annotation that marks generated code. -/
  generator : String := "route-template"
  deriving DecidableEq

/-- The variable from which the parse method reads parameters. -/
def unitAccessor : String := "rp"

/-- The argument of the parse method. -/
def unitContext : String := "ctx"

/-- Inserts a text into an increasing list, unless it is there. -/
def insertSorted (text : String) : List String → List String
  | [] => [text]
  | head :: rest =>
    if text < head then text :: head :: rest
    else if text = head then head :: rest
    else head :: insertSorted text rest

/-- Adds what the code for a parameter needs to the imports of others. -/
def addImports (runtime : String) (imports : List String) (param : Param) :
    Except CodeError (List String) := do
  let names ← lookUpNames param
  let imports := insertSorted (runtime ++ "." ++ names.parser) imports
  -- The classes of all other values are in `java.lang` and need no import.
  pure (if param.type = .timestamp then insertSorted "java.time.Instant" imports else imports)

/-- The classes that a file for some parameters imports, each once and in increasing order. -/
def collectImports (runtime : String) (params : List Param) : Except CodeError (List String) :=
  let always := insertSorted "javax.annotation.processing.Generated" []
  -- Without parameters there is no parse method, which would need the others.
  if params.isEmpty then .ok always
  else
    let context := insertSorted "io.vertx.ext.web.RoutingContext" always
    params.foldlM (addImports runtime) (insertSorted (runtime ++ ".RequestParser") context)

/-- The options of the statements inside a file. -/
def Handler.codeNames (handler : Handler) : CodeNames :=
  ⟨unitAccessor, handler.recordName, [unitContext]⟩

/-- The lines of the parse method. -/
def parseMethod (indent record : String) (params : ParamList) (code : Code) : List String :=
  let twice := indent ++ indent
  [indent ++ "static " ++ record ++ " parse(RoutingContext " ++ unitContext ++ ") \x7b",
    twice ++ "RequestParser " ++ unitAccessor ++ " = RequestParser.create(" ++ unitContext ++ ");",
    ""]
  ++ code.statements.map (twice ++ ·)
  ++ ["",
    twice ++ "return new " ++ record ++ "(" ++ params.nameList ++ ");",
    indent ++ "\x7d"]

/-- The lines of the file for a route that is registered under `path`, with some imports. -/
def fileLines (handler : Handler) (path : String) (params : ParamList) (options : UnitOptions)
    (imports : List String) (code : Code) : List String :=
  -- The default package has no line.
  (if handler.package.isEmpty then [] else ["package " ++ handler.package ++ ";", ""])
  ++ imports.map (fun name => "import " ++ name ++ ";")
  ++ ["",
    "@Generated(value = " ++ quote options.generator ++ ")",
    "final class " ++ handler.generatedClass ++ " \x7b",
    "",
    options.indent ++ "private " ++ handler.generatedClass ++ "() \x7b\x7d",
    "",
    options.indent ++ "static final String PATH = " ++ quote path ++ ";",
    ""]
  -- Neither a method nor a record is written for nothing.
  ++ (if params.isEmpty then []
    else parseMethod options.indent handler.recordName params code
      ++ ["", options.indent ++ code.recordDeclaration])
  ++ ["\x7d"]

/-- The file for a route that is registered under `path`. -/
def unitSource (handler : Handler) (path : String) (params : ParamList) (options : UnitOptions) :
    Except CodeError String := do
  -- The code comes first, so its faults are told before those of the imports.
  let code ← codeFor handler.codeNames params
  let imports ← collectImports options.runtimePackage params.all
  pure (joinLines (fileLines handler path params options imports code))

end TypedRoutes.Java
