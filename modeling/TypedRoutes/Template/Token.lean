import TypedRoutes.Text.Span

/-! Tokens of a route template, and the cut of a text into tokens with their places. -/

namespace TypedRoutes

/-- A structural character, or a run of text between two of them. -/
inductive Token where
  | slash
  | question
  | ampersand
  | openBrace
  | closeBrace
  | colon
  | equals
  | text (run : String)
  deriving DecidableEq

namespace Token

/-- The token's exact spelling. -/
def source : Token → String
  | slash => "/"
  | question => "?"
  | ampersand => "&"
  | openBrace => "\x7b"
  | closeBrace => "\x7d"
  | colon => ":"
  | equals => "="
  | text run => run

/-- The token that a structural character stands for. -/
def ofStructural? (c : Char) : Option Token :=
  if c = '/' then some slash
  else if c = '?' then some question
  else if c = '&' then some ampersand
  else if c = '{' then some openBrace
  else if c = '}' then some closeBrace
  else if c = ':' then some colon
  else if c = '=' then some equals
  else none

/-- The text token of a run given in reverse; an empty run is no token. -/
def ofRun : List Char → List Token
  | [] => []
  | run => [text (String.ofList run.reverse)]

/-- Cuts characters into tokens, where `run` is the text read so far in reverse. -/
def scan (run : List Char) : List Char → List Token
  | [] => ofRun run
  | c :: rest =>
    match ofStructural? c with
    -- The run in front of the character ends here; it may be empty.
    | some token => ofRun run ++ token :: scan [] rest
    | none => scan (c :: run) rest

/-- Places tokens side by side, the first at the given offset. -/
def locate (offset : Nat) : List Token → List (Located Token)
  | [] => []
  | token :: rest =>
    let stop := offset + byteSize token.source.toList
    ⟨token, ⟨offset, stop⟩⟩ :: locate stop rest

/-- All tokens of a text, with their places. Nothing is skipped. -/
def tokenize (input : String) : List (Located Token) :=
  locate 0 (scan [] input.toList)

end Token

end TypedRoutes
