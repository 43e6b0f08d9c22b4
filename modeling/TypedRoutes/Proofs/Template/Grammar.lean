import Mathlib.Computability.Language
import TypedRoutes.Proofs.Template.Token

/-! The grammar of route templates, with each rule as the token sequences that it derives. -/

namespace TypedRoutes.Grammar

/-- The token sequences that a rule derives; a product is one rule behind another. -/
abbrev Rule := Language Token

/-- A single token of some kind. -/
def single (kind : Token → Prop) : Rule := {tokens | ∃ token, kind token ∧ tokens = [token]}

/-- One particular token. -/
def only (token : Token) : Rule := single fun other => other = token

/-- A run of text. -/
def word : Rule := single fun token => token.isRun = true

/-- Any number of repetitions. -/
def many (rule : Rule) : Rule := KStar.kstar rule

/-- At least one repetition. -/
def oneOrMore (rule : Rule) : Rule := rule * many rule

/-- A part that may be missing. -/
def optional (rule : Rule) : Rule := 1 + rule

/-- What literal text is made of; outside braces these tokens have no meaning of their own. -/
def literalToken : Rule := word + only .colon + only .equals + only .ampersand

/-- Literal text in the path. -/
def literal : Rule := oneOrMore literalToken

/-- What a default is made of: anything but braces. -/
def defaultToken : Rule := single fun token => token ≠ .openBrace ∧ token ≠ .closeBrace

/-- The text of a default. -/
def defaultTokens : Rule := oneOrMore defaultToken

/-- The default of a declaration, where it has one. -/
def defaultClause : Rule := optional (only .equals * defaultTokens)

/-- A declaration in the path. -/
def placeholder : Rule :=
  only .openBrace * word * only .colon * word * defaultClause * only .closeBrace

/-- A part of a path segment. -/
def segmentPart : Rule := literal + placeholder

/-- A segment of the path. -/
def segment : Rule := only .slash * many segmentPart

/-- A declaration in the query. -/
def queryDeclaration : Rule :=
  word * only .equals * only .openBrace * word * defaultClause * only .closeBrace

/-- The query with its question mark. -/
def query : Rule := only .question * queryDeclaration * many (only .ampersand * queryDeclaration)

/-- A whole template. -/
def template : Rule := oneOrMore segment * optional query

/-- A rule of one token derives that token alone. -/
theorem mem_single {kind : Token → Prop} {tokens : List Token} :
    tokens ∈ single kind ↔ ∃ token, kind token ∧ tokens = [token] := Iff.rfl

/-- A single token derives no empty sequence, whatever follows. -/
@[simp] theorem nil_mem_single_mul (kind : Token → Prop) (rule : Rule) :
    [] ∈ single kind * rule ↔ False := by
  -- The first factor is a list with one token.
  simp [Language.mem_mul, mem_single]

/-- A single token is the head, and what follows it is the tail. -/
@[simp] theorem cons_mem_single_mul (kind : Token → Prop) (rule : Rule) (token : Token)
    (tokens : List Token) : token :: tokens ∈ single kind * rule ↔ kind token ∧ tokens ∈ rule := by
  constructor
  -- The first factor is one token, so it is the head of what was derived.
  · intro derived
    obtain ⟨first, ⟨head, accepted, rfl⟩, rest, behind, joined⟩ := Language.mem_mul.mp derived
    cases joined
    exact ⟨accepted, behind⟩
  · rintro ⟨accepted, behind⟩
    exact Language.mem_mul.mpr ⟨[token], ⟨token, accepted, rfl⟩, tokens, behind, rfl⟩

/-- Before a rule, an alternative is one of two ways to begin. -/
theorem mem_add_mul {first second rule : Rule} {tokens : List Token} :
    tokens ∈ (first + second) * rule ↔ tokens ∈ first * rule ∨ tokens ∈ second * rule := by
  -- The rules form a semiring, in which products distribute over alternatives.
  rw [add_mul, Language.mem_add]

/-- Before a rule, a part that may be missing is skipped or derived. -/
theorem mem_optional_mul {first rule : Rule} {tokens : List Token} :
    tokens ∈ optional first * rule ↔ tokens ∈ rule ∨ tokens ∈ first * rule := by
  -- The empty sequence is the unit of the product.
  rw [optional, mem_add_mul, one_mul]

/-- A part that may be missing is empty or derived. -/
theorem mem_optional {rule : Rule} {tokens : List Token} :
    tokens ∈ optional rule ↔ tokens = [] ∨ tokens ∈ rule := by
  rw [optional, Language.mem_add, Language.mem_one]

/-- A repetition ends, or it goes on with one more of its kind. -/
theorem many_eq (rule : Rule) : many rule = 1 + rule * many rule :=
  -- This is the unfolding of the star of a Kleene algebra.
  one_add_mul_kstar.symm

/-- Before a rule, a repetition ends or goes on. -/
theorem mem_many_mul {first rule : Rule} {tokens : List Token} :
    tokens ∈ many first * rule ↔ tokens ∈ rule ∨ tokens ∈ first * (many first * rule) := by
  -- Only the repetition on the left is unfolded; the one that remains is on the right.
  conv_lhs => rw [many_eq, mem_add_mul, one_mul, mul_assoc]

/-- Before a rule, a single token is the head of what is derived. -/
theorem mem_single_mul {kind : Token → Prop} {rule : Rule} {tokens : List Token} :
    tokens ∈ single kind * rule ↔ ∃ token rest, tokens = token :: rest ∧ kind token ∧ rest ∈ rule := by
  -- The empty sequence has no head, and a head is the token or is not.
  cases tokens with
  | nil => simp
  | cons token rest => simp

/-- A repetition of single tokens is any sequence of such tokens. -/
theorem mem_many_single {kind : Token → Prop} {tokens : List Token} :
    tokens ∈ many (single kind) ↔ ∀ token ∈ tokens, kind token := by
  -- The repetition takes one token at a time.
  induction tokens with
  | nil =>
    rw [many_eq, Language.mem_add]
    simp
  | cons token rest ih =>
    rw [many_eq, Language.mem_add, cons_mem_single_mul, ih]
    simp

/-- A repetition of single tokens that is not empty. -/
theorem mem_oneOrMore_single {kind : Token → Prop} {tokens : List Token} :
    tokens ∈ oneOrMore (single kind) ↔ tokens ≠ [] ∧ ∀ token ∈ tokens, kind token := by
  -- There is a first token, and any number of others.
  rw [oneOrMore, mem_single_mul]
  cases tokens with
  | nil => simp
  | cons token rest => simp [mem_many_single]

/-- Literal text that is split into several literals is the same text: parts can be read one token
at a time. -/
theorem many_segmentPart : many segmentPart = many (literalToken + placeholder) := by
  -- Each of the two repetitions contains what the other repeats.
  have token : literalToken ≤ segmentPart := by
    have longer : literalToken * 1 ≤ literal := mul_le_mul_right one_le_kstar literalToken
    rw [mul_one] at longer
    exact le_trans longer le_self_add
  apply le_antisymm
  · have part : segmentPart ≤ many (literalToken + placeholder) := by
      apply add_le
      -- A literal is itself a repetition of what is repeated.
      · calc literal ≤ (literalToken + placeholder) * many (literalToken + placeholder) :=
              mul_le_mul' le_self_add (kstar_mono le_self_add)
          _ ≤ many (literalToken + placeholder) := mul_kstar_le_kstar
      · exact le_trans le_add_self le_kstar
    calc many segmentPart ≤ many (many (literalToken + placeholder)) := kstar_mono part
      _ = many (literalToken + placeholder) := kstar_idem _
  · exact kstar_mono (add_le token le_add_self)

end TypedRoutes.Grammar
