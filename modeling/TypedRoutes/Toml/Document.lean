import TypedRoutes.Toml.Bare
import TypedRoutes.Toml.Table

/-! The reading of whole TOML documents. -/

namespace TypedRoutes.Toml

/-- The greatest number of parts of a key, and of arrays and tables inside each other. -/
def nestingLimit : Nat := 79

/-- A text without the blanks at its start. -/
def skipSpaces (text : List Char) : List Char :=
  text.dropWhile isSpace

/-- Skips blanks, line ends and comments; a comment must not hold control characters. -/
def skipLines (inComment : Bool) : List Char → Option (List Char)
  | [] => some []
  -- A carriage return by itself ends no line.
  | '\r' :: '\n' :: rest => skipLines false rest
  | c :: rest =>
    if c = '\n' then skipLines false rest
    else if inComment then if isLineChar c then skipLines true rest else none
    else if isSpace c then skipLines false rest
    else if c = '#' then skipLines true rest
    else some (c :: rest)

/-- What follows the line end after a value or a header; blanks and a comment may come first. -/
def endLine? (text : List Char) : Option (List Char) :=
  let rest := skipSpaces text
  let rest := match rest with
    | '#' :: comment => comment.dropWhile isLineChar
    | _ => rest
  -- The end of the document is as good as the end of a line.
  if rest.isEmpty then some [] else afterLineEnd? rest

/-- A character of a key without quotes. -/
def isKeyChar (c : Char) : Bool :=
  c.isAlphanum || c == '_' || c == '-'

/-- One part of a key, and what follows it. -/
def readKeyPart? (text : List Char) : Option (String × List Char) :=
  match text with
  | '"' :: _ | '\'' :: _ => readQuoted? text
  | _ =>
    let word := text.takeWhile isKeyChar
    if word.isEmpty then none else some (String.ofList word, text.dropWhile isKeyChar)

/-- A key of at most so many parts with dots between them, and what follows it. -/
def readKey? : Nat → List Char → Option (List String × List Char)
  | 0, _ => none
  | parts + 1, text => do
    let (part, rest) ← readKeyPart? (skipSpaces text)
    match skipSpaces rest with
    | '.' :: more => do
      let (key, rest) ← readKey? parts more
      pure (part :: key, rest)
    | rest => pure ([part], rest)

mutual

/-- A value, and what follows it. The fuel is more than twice the number of characters left, and
`depth` bounds the arrays and tables inside each other. -/
def readValue? (fuel depth : Nat) (text : List Char) : Option (Value × List Char) :=
  match fuel with
  | 0 => none
  | fuel + 1 =>
    match text with
    | '"' :: _ | '\'' :: _ => do
      let (text, rest) ← readString? text
      pure (.string text, rest)
    | '[' :: rest => do
      if depth = 0 then none
      let (items, rest) ← readItems? fuel (depth - 1) rest
      pure (.array items, rest)
    | '{' :: rest => do
      if depth = 0 then none
      let rest := skipSpaces rest
      let (assignments, rest) ← match rest with
        | '}' :: rest => pure ([], rest)
        | _ => readPairs? fuel (depth - 1) rest
      -- The keys of a table in braces may be dotted, so they are added one after the other.
      let entries ← assignAll? assignments []
      pure (.table .inline entries, rest)
    | _ => do
      let (word, rest) := splitBare text
      let value ← bareValue? word
      pure (value, rest)

/-- The items of an array up to its closing bracket; a comma may follow the last item. -/
def readItems? (fuel depth : Nat) (text : List Char) : Option (List Value × List Char) :=
  match fuel with
  | 0 => none
  | fuel + 1 => do
    match ← skipLines false text with
    | ']' :: rest => pure ([], rest)
    | start => do
      let (item, rest) ← readValue? fuel depth start
      match ← skipLines false rest with
      | ',' :: rest => do
        let (items, rest) ← readItems? fuel depth rest
        pure (item :: items, rest)
      | ']' :: rest => pure ([item], rest)
      | _ => none

/-- The assignments of an inline table up to its closing brace; there is at least one. -/
def readPairs? (fuel depth : Nat) (text : List Char) :
    Option (List (List String × Value) × List Char) :=
  match fuel with
  | 0 => none
  | fuel + 1 => do
    let (key, rest) ← readKey? nestingLimit text
    match rest with
    | '=' :: rest => do
      let (value, rest) ← readValue? fuel depth (skipSpaces rest)
      match skipSpaces rest with
      | ',' :: rest => do
        let (pairs, rest) ← readPairs? fuel depth rest
        pure ((key, value) :: pairs, rest)
      | '}' :: rest => pure ([(key, value)], rest)
      | _ => none
    | _ => none

end

/-- What a line of a document says. -/
inductive Statement where
  | assignment (key : List String) (value : Value)
  | tableHeader (path : List String)
  | elementHeader (path : List String)

/-- A statement, and what follows it. -/
def readStatement? (text : List Char) : Option (Statement × List Char) :=
  match text with
  | '[' :: '[' :: rest => do
    match ← readKey? nestingLimit rest with
    | (path, ']' :: ']' :: rest) => pure (.elementHeader path, rest)
    | _ => none
  | '[' :: rest => do
    match ← readKey? nestingLimit rest with
    | (path, ']' :: rest) => pure (.tableHeader path, rest)
    | _ => none
  | _ => do
    match ← readKey? nestingLimit text with
    | (key, '=' :: rest) => do
      let rest := skipSpaces rest
      let (value, rest) ← readValue? (2 * rest.length + 2) nestingLimit rest
      pure (.assignment key value, rest)
    | _ => none

/-- All statements; the fuel is more than the number of characters left. -/
def readStatements? : Nat → List Char → Option (List Statement)
  | 0, _ => none
  | fuel + 1, text => do
    match ← skipLines false text with
    | [] => pure []
    | start => do
      let (statement, rest) ← readStatement? start
      let statements ← readStatements? fuel (← endLine? rest)
      pure (statement :: statements)

/-- Where a run of assignments belongs. -/
inductive Place where
  | root
  | table (path : List String)
  | element (path : List String)

/-- Adds the assignments of one place to a document. -/
def addSection? (place : Place) (assignments : List (List String × Value)) (document : Entries) :
    Option Entries :=
  let fill := assignAll? assignments
  match place with
  -- In front of the first header the assignments belong to the document itself.
  | .root => fill document
  | .table path =>
    match path.getLast? with
    | none => none
    | some key => follow? (declareTable? key fill) path.dropLast document
  | .element path =>
    match path.getLast? with
    | none => none
    | some key => follow? (declareElement? key fill) path.dropLast document

/-- Adds statements to a document, where `assignments` are those since the last header, in
reverse. -/
def addStatements? (place : Place) (assignments : List (List String × Value))
    (document : Entries) : List Statement → Option Entries
  | [] => addSection? place assignments.reverse document
  | .assignment key value :: rest =>
    addStatements? place ((key, value) :: assignments) document rest
  | .tableHeader path :: rest => do
    addStatements? (.table path) [] (← addSection? place assignments.reverse document) rest
  | .elementHeader path :: rest => do
    addStatements? (.element path) [] (← addSection? place assignments.reverse document) rest

/-- A text without the byte order mark at its start. -/
def skipMark : List Char → List Char
  | '\uFEFF' :: rest => rest
  | text => text

/-- The table of a whole document, unless the text is none. -/
def parse? (text : String) : Option Entries := do
  let chars := skipMark text.toList
  let statements ← readStatements? (chars.length + 1) chars
  addStatements? .root [] [] statements

end TypedRoutes.Toml
