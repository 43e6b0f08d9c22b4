import TypedRoutes.Template.Tree
import TypedRoutes.Template.Error
import TypedRoutes.Text.Blank

/-! The reading of a template: one token at a time decides what may follow, and builds the tree. -/

namespace TypedRoutes

/-- The path read so far; its last segment may still grow. -/
structure OpenPath where
  /-- The segments before the last. -/
  segments : List (Located Segment)
  /-- The parts of the last segment. -/
  parts : Segment
  /-- From the slash of the last segment to the last token read. -/
  span : Span
  deriving DecidableEq

/-- The query read so far, after a complete path. -/
structure OpenQuery where
  /-- The path before the question mark. -/
  segments : List (Located Segment)
  /-- Offset of the question mark. -/
  start : Nat
  /-- The declarations read so far. -/
  declarations : List (Located Declaration)
  deriving DecidableEq

/-- Where the declaration being read belongs. -/
inductive Site where
  | path (before : OpenPath)
  | query (before : OpenQuery)
  deriving DecidableEq

/-- What has been read, named for what comes next. -/
inductive State where
  /-- Nothing has been read. -/
  | start
  /-- Inside a segment, between parts; `defaulted` is the place of a brace just read that
  closed a declaration with a default. -/
  | path (before : OpenPath) (defaulted : Option Span)
  /-- After the opening brace of a placeholder. -/
  | tag (before : OpenPath) (opened : Nat)
  /-- After the type tag of a placeholder. -/
  | colon (before : OpenPath) (opened : Nat) (typeTag : Located String)
  /-- After the colon of a placeholder. -/
  | name (before : OpenPath) (opened : Nat) (typeTag : Located String)
  /-- After the question mark or an ampersand of the query. -/
  | queryName (before : OpenQuery)
  /-- After a name in the query. -/
  | queryEquals (before : OpenQuery) (name : Located String)
  /-- After the equals sign that follows a name in the query. -/
  | queryBrace (before : OpenQuery) (name : Located String)
  /-- After an opening brace in the query. -/
  | queryTag (before : OpenQuery) (name : Located String)
  /-- After the tag and the name of a declaration. -/
  | tail (site : Site) (start : Nat) (typeTag name : Located String)
  /-- After the equals sign that starts a default. -/
  | defaultStart (site : Site) (start : Nat) (typeTag name : Located String)
  /-- Inside a default. -/
  | defaultText (site : Site) (start : Nat) (typeTag name default : Located String)
  /-- After a complete declaration of the query; `defaulted` as for `path`. -/
  | query (before : OpenQuery) (defaulted : Option Span)
  deriving DecidableEq

/-- Adds literal text at the end of a segment, as part of a literal that stands there. -/
def Segment.addText : Segment → String → Segment
  | [], text => [.literal text]
  | [.literal before], text => [.literal (before ++ text)]
  | part :: rest, text => part :: addText rest text

namespace OpenPath

/-- The path that a first slash opens. -/
def begin (slash : Span) : OpenPath :=
  ⟨[], [], slash⟩

/-- The path with its last segment complete. -/
def close (path : OpenPath) : List (Located Segment) :=
  path.segments ++ [⟨path.parts, path.span⟩]

/-- A further slash completes the last segment and opens the next. -/
def nextSegment (path : OpenPath) (slash : Span) : OpenPath :=
  ⟨path.close, [], slash⟩

/-- Adds literal text to the last segment. -/
def addText (path : OpenPath) (text : Located String) : OpenPath :=
  ⟨path.segments, Segment.addText path.parts text.value, ⟨path.span.start, text.span.stop⟩⟩

/-- Adds a placeholder to the last segment. -/
def addPlaceholder (path : OpenPath) (declaration : Located Declaration) : OpenPath :=
  ⟨path.segments, path.parts ++ [.placeholder declaration],
    ⟨path.span.start, declaration.span.stop⟩⟩

end OpenPath

namespace OpenQuery

/-- Adds a declaration. -/
def add (query : OpenQuery) (declaration : Located Declaration) : OpenQuery :=
  { query with declarations := query.declarations ++ [declaration] }

/-- The end of the last declaration. -/
def stop (query : OpenQuery) : Nat :=
  match query.declarations.getLast? with
  | some last => last.span.stop
  | none => query.start

/-- The tree of a template that ends here. -/
def tree (query : OpenQuery) : TemplateTree :=
  ⟨query.segments, some ⟨query.declarations, ⟨query.start, query.stop⟩⟩⟩

end OpenQuery

/-- The state after the closing brace of a declaration. -/
def Site.close (site : Site) (declaration : Located Declaration) (defaulted : Option Span) : State :=
  match site with
  | path before => .path (before.addPlaceholder declaration) defaulted
  | query before => .query (before.add declaration) defaulted

namespace State

/-- The state after a token, unless the token cannot stand there. -/
def step : State → Located Token → Option State
  | start, ⟨.slash, span⟩ => some (path (.begin span) none)
  | start, _ => none
  | path before _, ⟨token, span⟩ =>
    match token with
    | .slash => some (path (before.nextSegment span) none)
    | .question => some (queryName ⟨before.close, span.start, []⟩)
    | .openBrace => some (tag before span.start)
    | .closeBrace => none
    -- Outside braces these three are plain text.
    | .ampersand | .colon | .equals | .text _ =>
      some (path (before.addText ⟨token.source, span⟩) none)
  | tag before opened, ⟨.text run, span⟩ => some (colon before opened ⟨run, span⟩)
  | tag _ _, _ => none
  | colon before opened typeTag, ⟨.colon, _⟩ => some (name before opened typeTag)
  | colon _ _ _, _ => none
  | name before opened typeTag, ⟨.text run, span⟩ =>
    some (tail (.path before) opened typeTag ⟨run, span⟩)
  | name _ _ _, _ => none
  | queryName before, ⟨.text run, span⟩ => some (queryEquals before ⟨run, span⟩)
  | queryName _, _ => none
  | queryEquals before called, ⟨.equals, _⟩ => some (queryBrace before called)
  | queryEquals _ _, _ => none
  | queryBrace before called, ⟨.openBrace, _⟩ => some (queryTag before called)
  | queryBrace _ _, _ => none
  | queryTag before called, ⟨.text run, span⟩ =>
    some (tail (.query before) called.span.start ⟨run, span⟩ called)
  | queryTag _ _, _ => none
  | tail site begun typeTag called, ⟨.equals, _⟩ => some (defaultStart site begun typeTag called)
  | tail site begun typeTag called, ⟨.closeBrace, span⟩ =>
    some (site.close ⟨⟨typeTag, called, none⟩, ⟨begun, span.stop⟩⟩ none)
  | tail _ _ _ _, _ => none
  | defaultStart site begun typeTag called, ⟨token, span⟩ =>
    match token with
    -- A default is never empty and has no braces in it.
    | .openBrace | .closeBrace => none
    | _ => some (defaultText site begun typeTag called ⟨token.source, span⟩)
  | defaultText site begun typeTag called default, ⟨token, span⟩ =>
    match token with
    | .openBrace => none
    | .closeBrace =>
      some (site.close ⟨⟨typeTag, called, some default⟩, ⟨begun, span.stop⟩⟩ (some span))
    | _ =>
      some (defaultText site begun typeTag called
        ⟨default.value ++ token.source, ⟨default.span.start, span.stop⟩⟩)
  | query before _, ⟨.ampersand, _⟩ => some (queryName before)
  | query _ _, _ => none

/-- The tree of a template that ends in this state, unless it cannot end there. -/
def finish? : State → Option TemplateTree
  | path before _ => some ⟨before.close, none⟩
  | query before _ => some before.tree
  | _ => none

/-- What could come next, as errors list it. A word that is wanted is not listed. -/
def expected : State → List Expectation
  | start => [.token .slash]
  | path _ _ => [.token .openBrace, .token .slash, .token .question, .endOfTemplate]
  | colon _ _ _ => [.token .colon]
  | queryEquals _ _ => [.token .equals]
  | queryBrace _ _ => [.token .openBrace]
  | tail _ _ _ _ => [.token .equals, .token .closeBrace]
  | defaultStart _ _ _ _ => [.anyToken]
  | defaultText _ _ _ _ _ => [.anyToken, .token .closeBrace]
  | query _ _ => [.token .ampersand, .endOfTemplate]
  | tag _ _ | name _ _ _ | queryName _ | queryTag _ _ => []

/-- The error for a token that cannot stand here. A brace inside a default counts as the end of
the template; after a declaration with a default, its closing brace is the place that is shown. -/
def rejectToken (state : State) (token : Located Token) : SyntaxError :=
  match state with
  -- Nothing is said of what else could stand in the default.
  | defaultStart _ _ _ _ | defaultText _ _ _ _ _ => ⟨token.span, none, []⟩
  | path _ (some closing) | query _ (some closing) => ⟨closing, some token.value, state.expected⟩
  | _ => ⟨token.span, some token.value, state.expected⟩

/-- The error for a template of the given size that ends too early. -/
def rejectEnd (state : State) (size : Nat) : SyntaxError :=
  ⟨⟨size, size⟩, none, state.expected⟩

/-- Reads the remaining tokens of a template of the given size. -/
def run (size : Nat) : State → List (Located Token) → Except SyntaxError TemplateTree
  | state, [] =>
    match state.finish? with
    | some tree => .ok tree
    | none => .error (state.rejectEnd size)
  | state, token :: rest =>
    match state.step token with
    | some next => run size next rest
    -- The first token that does not fit ends the reading.
    | none => .error (state.rejectToken token)

end State

/-- A template without a path: nothing but white space, or a query alone. -/
def lacksPath (template : String) : Bool :=
  template.toList.all isBlank || template.toList.head? == some '?'

/-- Reads a template; types and names are not looked at yet. -/
def parseTree (template : String) : Except TemplateError TemplateTree :=
  -- This is asked before the grammar, so such a text is no syntax error.
  if lacksPath template then .error .noPath
  else
    match State.start.run (byteSize template.toList) (Token.tokenize template) with
    | .ok tree => .ok tree
    | .error error => .error (.malformed error)

end TypedRoutes
