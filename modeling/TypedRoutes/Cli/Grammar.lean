/-! The reference of the template grammar, and the help on the command line. -/

namespace TypedRoutes.Cli

/-- The reference that the grammar command shows. -/
def grammarText : String := "\n".intercalate
  ["ROUTE TEMPLATE GRAMMAR",
    "======================",
    "",
    "TEMPLATE",
    "--------",
    "/literal/\x7btype:name\x7d/\x7btype:name=default\x7d?name=\x7btype\x7d&name=\x7btype=default\x7d",
    "",
    "    template      := path (\"?\" query)?",
    "    path          := (\"/\" (literal | placeholder)*)+",
    "    placeholder   := \"\x7b\" type \":\" name (\"=\" default)? \"\x7d\"",
    "    query         := query_param (\"&\" query_param)*",
    "    query_param   := name \"=\" \"\x7b\" type (\"=\" default)? \"\x7d\"",
    "",
    "TYPES",
    "-----",
    "int        Integer         default: 42",
    "long       Long            default: 42",
    "string     String          default: any text (quoted in output)",
    "boolean    Boolean         default: true | false",
    "float      Float           default: 1.5",
    "double     Double          default: 1.5",
    "timestamp  Instant         default: 2024-01-01T00:00:00Z",
    "",
    "Type tags are lowercase. Names match [A-Za-z_][A-Za-z0-9_]* and must be",
    "unique across path and query.",
    "",
    "NOTE: the query form name=\x7btype[=default]\x7d is this tool's own convention;",
    "path placeholders follow the established \x7btype:name[=default]\x7d syntax.",
    "",
    "EXAMPLE",
    "-------",
    "/users/\x7bint:id\x7d/posts/\x7bstring:slug=latest\x7d?limit=\x7bint=20\x7d",
    "",
    "    registration path:  /users/\x7bid\x7d/posts/\x7bslug\x7d   (--style colon: /users/:id/posts/:slug)"]

/-- The help that the help flag shows. -/
def helpText : String := "\n".intercalate
  ["Compile typed route templates into router paths and parameter parsers",
    "",
    "Usage: route-template [-v] <COMMAND>",
    "",
    "Commands:",
    "  parse <TEMPLATE>                                  List the parameters a template declares",
    "  sanitize [--style STYLE] [--keep-query] <TEMPLATE>  Print the router registration path",
    "  emit [--holder NAME] <TEMPLATE>                   Print the record and the statements",
    "  generate [-o DIR] [--keep-going] <MANIFEST>       Generate a class for every route",
    "  grammar                                           Show the template grammar reference",
    "  help [COMMAND]                                    Show this help",
    "",
    "Options:",
    "  -v, --verbose  Log progress to standard error",
    "  -h, --help     Show this help"]

end TypedRoutes.Cli
