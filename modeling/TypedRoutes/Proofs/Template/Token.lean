import Mathlib.Data.List.Chain
import TypedRoutes.Template.Token

/-! Cutting a text into tokens and spelling the tokens out undo each other. -/

namespace TypedRoutes.Token

/-- A character that belongs to a run of text. -/
def IsPlain (c : Char) : Prop := ofStructural? c = none

instance (c : Char) : Decidable (IsPlain c) := inferInstanceAs (Decidable (_ = _))

/-- Whether a token is a run of text. -/
def isRun : Token → Bool
  | text _ => true
  | _ => false

/-- The tokens that are literal text outside braces. -/
def IsLiteral (token : Token) : Prop :=
  token.isRun = true ∨ token = .ampersand ∨ token = .colon ∨ token = .equals

/-- The tokens that a default is made of. -/
def IsDefault (token : Token) : Prop :=
  token ≠ .openBrace ∧ token ≠ .closeBrace

/-- What a token can hold: a run has at least one character, and only plain ones. -/
def Proper : Token → Prop
  | text run => run ≠ "" ∧ ∀ c ∈ run.toList, IsPlain c
  | _ => True

/-- Tokens that keep their boundary when they are written side by side. -/
def Apart (left right : Token) : Prop := ¬ (left.isRun = true ∧ right.isRun = true)

/-- The characters of some tokens, side by side. -/
def spell (tokens : List Token) : List Char := tokens.flatMap fun token => token.source.toList

/-- Token sequences that are the cut of some text. -/
structure Settled (tokens : List Token) : Prop where
  /-- Every token can stand for itself. -/
  proper : ∀ token ∈ tokens, token.Proper
  /-- No two runs touch. -/
  apart : tokens.IsChain Apart

/-- Characters that cannot lengthen a run before them. -/
def Breaks (text : List Char) : Prop := ∀ c ∈ text.head?, ¬ IsPlain c

/-- No tokens spell no characters. -/
@[simp] theorem spell_nil : spell [] = [] := rfl

/-- The first token is spelled first. -/
@[simp] theorem spell_cons (token : Token) (rest : List Token) :
    spell (token :: rest) = token.source.toList ++ spell rest := rfl

/-- Tokens side by side are spelled side by side. -/
@[simp] theorem spell_append (first second : List Token) :
    spell (first ++ second) = spell first ++ spell second := by
  simp [spell]

/-- A structural character is spelled as itself. -/
theorem source_ofStructural {c : Char} {token : Token} (found : ofStructural? c = some token) :
    token.source.toList = [c] ∧ token.isRun = false := by
  -- The lookup tries seven characters, and each is the whole spelling of its token.
  unfold ofStructural? at found
  split_ifs at found with slash question ampersand openBrace closeBrace colon equals
  all_goals
    cases found
    subst c
    exact ⟨rfl, rfl⟩

/-- A token that is no run is spelled with one character, which stands for it. -/
theorem ofStructural_source {token : Token} (structural : token.isRun = false) :
    ∃ c, token.source.toList = [c] ∧ ofStructural? c = some token := by
  -- Each of the seven tokens has a character of its own.
  cases token with
  | text run => simp [isRun] at structural
  | slash => exact ⟨'/', rfl, rfl⟩
  | question => exact ⟨'?', rfl, rfl⟩
  | ampersand => exact ⟨'&', rfl, rfl⟩
  | openBrace => exact ⟨'{', rfl, rfl⟩
  | closeBrace => exact ⟨'}', rfl, rfl⟩
  | colon => exact ⟨':', rfl, rfl⟩
  | equals => exact ⟨'=', rfl, rfl⟩

/-- A token that is no run is proper. -/
theorem proper_of_structural {token : Token} (structural : token.isRun = false) : token.Proper := by
  -- Only runs have something to prove.
  cases token with
  | text run => simp [isRun] at structural
  | _ => trivial

/-- A token alone is settled. -/
theorem settled_singleton {token : Token} (proper : token.Proper) : Settled [token] :=
  -- There is no second token to touch.
  ⟨by simpa using proper, .singleton token⟩

/-- A run that holds characters is one token. -/
theorem ofRun_of_ne_nil {run : List Char} (filled : run ≠ []) :
    ofRun run = [text (String.ofList run.reverse)] := by
  -- Only the empty run gives no token.
  cases run with
  | nil => exact absurd rfl filled
  | cons c rest => rfl

/-- A token that is a run has a text. -/
theorem exists_run {token : Token} (worded : token.isRun = true) : ∃ run, token = text run := by
  -- Every other constructor is no run.
  cases token with
  | text run => exact ⟨run, rfl⟩
  | _ => simp [isRun] at worded

/-- A run is gathered backwards and spelled forwards. -/
@[simp] theorem spell_ofRun (run : List Char) : spell (ofRun run) = run.reverse := by
  -- Without characters there is no token, and otherwise the token holds the run in reading order.
  cases run with
  | nil => rfl
  | cons c rest => simp [ofRun, source]

/-- The tokens of a text are spelled as the text. -/
theorem spell_scan (run rest : List Char) : spell (scan run rest) = run.reverse ++ rest := by
  -- The run that has been read goes in front, and a structural token spells its own character.
  induction rest generalizing run with
  | nil => simp [scan]
  | cons c rest ih =>
    unfold scan
    cases found : ofStructural? c with
    | none => simp [ih]
    | some token => simp [ih, (source_ofStructural found).1]

/-- The token of a run of plain characters is proper. -/
theorem proper_ofRun {run : List Char} (plain : ∀ c ∈ run, IsPlain c) :
    ∀ token ∈ ofRun run, token.Proper := by
  intro token member
  cases run with
  | nil => simp [ofRun] at member
  | cons c rest =>
    rw [ofRun_of_ne_nil (by simp), List.mem_singleton] at member
    subst member
    -- The run is not empty, and its characters are those that were gathered.
    refine ⟨by simp, ?_⟩
    intro d inside
    apply plain d
    simpa only [String.toList_ofList, List.mem_reverse] using inside

/-- The cut of a text into tokens is settled. -/
theorem settled_scan {run : List Char} (plain : ∀ c ∈ run, IsPlain c) (rest : List Char) :
    Settled (scan run rest) := by
  -- A run ends only at a structural token, and such a token stands apart from all others.
  induction rest generalizing run with
  | nil =>
    refine ⟨proper_ofRun plain, ?_⟩
    cases run <;> simp [scan, ofRun]
  | cons c rest ih =>
    unfold scan
    cases found : ofStructural? c with
    | none =>
      apply ih
      intro d member
      rcases List.mem_cons.mp member with same | member
      · subst same
        exact found
      · exact plain d member
    | some token =>
      -- The structural token separates the run from the tokens behind it.
      have structural := (source_ofStructural found).2
      have tail : Settled (scan [] rest) := ih (by simp)
      have proper : token.Proper := proper_of_structural structural
      constructor
      -- Tokens come from the run, from the character, or from the text behind it.
      · intro other member
        rcases List.mem_append.mp member with member | member
        · exact proper_ofRun plain other member
        · rcases List.mem_cons.mp member with same | member
          · exact same ▸ proper
          · exact tail.proper other member
      · apply List.isChain_append.mpr
        refine ⟨by cases run <;> simp [ofRun], ?_, ?_⟩
        · apply List.isChain_cons.mpr
          exact ⟨fun other _ => by simp [Apart, structural], tail.apart⟩
        · intro left _ right first
          simp only [List.head?_cons, Option.mem_def, Option.some.injEq] at first
          simp [Apart, ← first, structural]

/-- Part of a settled sequence is settled. -/
theorem Settled.part {tokens part : List Token} (settled : Settled tokens)
    (inside : part <:+: tokens) : Settled part :=
  -- What holds of all tokens and of all neighbours holds of those in the part.
  ⟨fun token member => settled.proper token (inside.subset member), List.IsChain.infix settled.apart inside⟩

/-- No run stands behind a run. -/
theorem Settled.behind_run {token : Token} {rest : List Token} (settled : Settled (token :: rest))
    (worded : token.isRun = true) : ∀ next ∈ rest.head?, next.isRun = false := by
  -- The next token and the run are neighbours, and two runs never are.
  intro next first
  have apart := (List.isChain_cons.mp settled.apart).1 next first
  simpa [Apart, worded] using apart

/-- Settled sequences side by side are settled if they do not touch with runs. -/
theorem Settled.append {first second : List Token} (begun : Settled first) (ended : Settled second)
    (between : ∀ left ∈ first.getLast?, ∀ right ∈ second.head?, Apart left right) :
    Settled (first ++ second) := by
  constructor
  · intro token member
    rcases List.mem_append.mp member with early | late
    · exact begun.proper token early
    · exact ended.proper token late
  -- Runs could only touch where the two sequences meet.
  · exact List.isChain_append.mpr ⟨begun.apart, ended.apart, between⟩

/-- Plain characters are gathered into the run before them. -/
theorem scan_plain {text : List Char} (plain : ∀ c ∈ text, IsPlain c) (run rest : List Char) :
    scan run (text ++ rest) = scan (text.reverse ++ run) rest := by
  -- Each plain character goes on top of the run.
  induction text generalizing run with
  | nil => rfl
  | cons c text ih =>
    have found : ofStructural? c = none := plain c (by simp)
    rw [List.cons_append, scan]
    simp only [found]
    rw [ih (fun d member => plain d (by simp [member]))]
    simp

/-- A run is complete before characters that cannot lengthen it. -/
theorem scan_breaks {rest : List Char} (breaks : Breaks rest) (run : List Char) :
    scan run rest = ofRun run ++ scan [] rest := by
  -- The first character of the rest is structural, so it ends the run.
  cases rest with
  | nil => simp [scan, ofRun]
  | cons c rest =>
    have structural : ¬ IsPlain c := breaks c (by simp)
    cases found : ofStructural? c with
    | none => exact absurd found structural
    | some token => simp [scan, found, ofRun]

/-- A run that has begun is the first token, and it may still be lengthened. -/
theorem scan_run {run : List Char} (filled : run ≠ []) (rest : List Char) :
    ∃ longer others, scan run rest = text longer :: others := by
  -- The run can only grow until a structural character or the end completes it.
  induction rest generalizing run with
  | nil => exact ⟨_, [], ofRun_of_ne_nil filled⟩
  | cons c rest ih =>
    unfold scan
    cases found : ofStructural? c with
    | none => exact ih (by simp)
    | some token =>
      exact ⟨String.ofList run.reverse, token :: scan [] rest, by simp [ofRun_of_ne_nil filled]⟩

/-- Spelling out tokens other than runs leaves characters that cannot lengthen a run. -/
theorem breaks_spell {tokens : List Token} (starts : ∀ token ∈ tokens.head?, token.isRun = false)
    {more : List Char} (breaks : tokens = [] → Breaks more) : Breaks (spell tokens ++ more) := by
  -- The first token is structural, and its one character is the first of the text.
  cases tokens with
  | nil => exact breaks rfl
  | cons token rest =>
    obtain ⟨c, spelled, found⟩ := ofStructural_source (starts token (by simp))
    intro d first
    simp only [spell_cons, spelled, List.cons_append, List.head?_cons, Option.mem_def,
      Option.some.injEq] at first
    simp [IsPlain, ← first, found]

/-- Settled tokens are read back from their spelling, whatever stands apart from them behind. -/
theorem scan_spell_append {tokens : List Token} (settled : Settled tokens) {more : List Char}
    (breaks : ∀ token ∈ tokens.getLast?, token.isRun = true → Breaks more) :
    scan [] (spell tokens ++ more) = tokens ++ scan [] more := by
  -- From the last token to the first: the tokens behind are read back already, and the first one
  -- ends where they begin.
  induction tokens with
  | nil => rfl
  | cons token rest ih =>
    -- The other tokens are read back, whether or not they reach the text behind.
    have later : scan [] (spell rest ++ more) = rest ++ scan [] more := by
      apply ih (settled.part (List.suffix_cons token rest).isInfix)
      intro last member
      exact breaks last (by cases rest <;> simp_all [List.getLast?_cons])
    rw [spell_cons, List.append_assoc, List.cons_append, ← later]
    cases kind : token.isRun with
    | false =>
      -- A structural token is one character, after which the cut starts anew.
      obtain ⟨c, spelled, found⟩ := ofStructural_source kind
      simp [spelled, scan, found, ofRun]
    | true =>
      -- A run takes in its own characters and ends where the next token begins.
      cases token with
      | text run =>
        obtain ⟨filled, plain⟩ := settled.proper (text run) (by simp)
        -- What follows the run is a structural token or the text behind.
        have follows : Breaks (spell rest ++ more) := by
          apply breaks_spell (settled.behind_run kind)
          rintro rfl
          exact breaks _ rfl kind
        have reversed : run.toList.reverse ≠ [] := by simpa using filled
        simp only [source]
        rw [scan_plain plain, scan_breaks follows, List.append_nil, ofRun_of_ne_nil reversed]
        simp
      | _ => simp [isRun] at kind

/-- Settled tokens are the cut of their spelling. -/
theorem scan_spell {tokens : List Token} (settled : Settled tokens) :
    scan [] (spell tokens) = tokens := by
  -- With nothing behind, there is nothing to stand apart from.
  have whole : scan [] (spell tokens ++ []) = tokens ++ scan [] [] :=
    scan_spell_append settled (by simp [Breaks])
  simpa [scan, ofRun] using whole

/-- Tokens that can stand in the same places: the same one, or two runs. -/
def Alike (left right : Token) : Prop := left = right ∨ (left.isRun = true ∧ right.isRun = true)

/-- However a text goes on behind its tokens, the last of them can only become a longer run. -/
theorem scan_spell_concat {before : List Token} {token : Token}
    (settled : Settled (before ++ [token])) (more : List Char) :
    ∃ last others, scan [] (spell (before ++ [token]) ++ more) = before ++ last :: others ∧
      Alike token last := by
  -- A structural token is complete, while a run may take in what stands behind it.
  cases kind : token.isRun with
  | false =>
    -- After a structural token the cut starts anew.
    refine ⟨token, scan [] more, ?_, Or.inl rfl⟩
    rw [scan_spell_append settled (by simp [kind])]
    simp
  | true =>
    cases token with
    -- A run takes in plain characters of the text behind, and the tokens before it are complete.
    | text run =>
      obtain ⟨filled, plain⟩ := settled.proper (text run) (by simp)
      have early : Settled before := settled.part (List.prefix_append before [text run]).isInfix
      have reversed : run.toList.reverse ≠ [] := by simpa using filled
      obtain ⟨longer, others, begun⟩ := scan_run reversed more
      refine ⟨text longer, others, ?_, Or.inr ⟨rfl, rfl⟩⟩
      rw [spell_append, List.append_assoc, scan_spell_append early]
      · simp only [spell_cons, spell_nil, List.append_nil, source]
        rw [scan_plain plain, List.append_nil, begun]
      -- The token before a run is no run itself.
      · intro last final isRun
        have apart := (List.isChain_append.mp settled.apart).2.2 last final (text run) (by simp)
        exact absurd ⟨isRun, rfl⟩ apart
    | _ => simp [isRun] at kind

/-- Tokens behind others begin where those end. -/
theorem locate_append (offset : Nat) (first second : List Token) :
    locate offset (first ++ second) =
      locate offset first ++ locate (offset + byteSize (spell first)) second := by
  -- Each token moves the start of those behind it by its own size.
  induction first generalizing offset with
  | nil => simp [locate]
  | cons token rest ih => simp [locate, ih, Nat.add_assoc]

/-- Placing tokens does not change them. -/
@[simp] theorem map_value_locate (offset : Nat) (tokens : List Token) :
    (locate offset tokens).map Located.value = tokens := by
  -- The offset moves on from token to token, and no value depends on it.
  induction tokens generalizing offset with
  | nil => rfl
  | cons token rest ih => simp [locate, ih]

/-- The first tokens of a text stand in the same places without the others. -/
theorem take_locate (offset : Nat) (tokens : List Token) (count : Nat) :
    (locate offset tokens).take count = locate offset (tokens.take count) := by
  -- The place of a token depends on those before it only.
  induction tokens generalizing offset count with
  | nil => simp [locate]
  | cons token rest ih =>
    cases count with
    | zero => simp [locate]
    | succ count => simp [locate, ih]

/-- The tokens of a template without their places. -/
def cut (input : String) : List Token := (tokenize input).map Located.value

/-- The cut begins without a run. -/
theorem cut_eq (input : String) : cut input = scan [] input.toList := by
  -- The places are dropped again.
  simp [cut, tokenize]

/-- The tokens of a text are its cut, placed from the start. -/
theorem tokenize_eq (input : String) : tokenize input = locate 0 (cut input) := by
  -- Both begin with nothing read and at the first byte.
  rw [cut_eq, tokenize]

/-- The tokens of a text are settled. -/
theorem settled_cut (input : String) : Settled (cut input) := by
  -- The run before the first character is empty, so it holds plain characters only.
  rw [cut_eq]
  exact settled_scan (by simp) _

/-- Settled tokens spell a text whose tokens they are. -/
theorem cut_ofList_spell {tokens : List Token} (settled : Settled tokens) :
    cut (String.ofList (spell tokens)) = tokens := by
  simp [cut_eq, scan_spell settled]

/-- The tokens of a text spell it. -/
@[simp] theorem spell_cut (input : String) : spell (cut input) = input.toList := by
  -- Nothing has been read before the first character.
  simp [cut_eq, spell_scan]

/-- The characters of a token of a text are characters of the text. -/
theorem source_subset {token : Token} {text : String} (member : token ∈ cut text) :
    ∀ c ∈ token.source.toList, c ∈ text.toList := by
  -- The text is the spelling of its tokens side by side.
  intro c inside
  rw [← spell_cut text]
  exact List.mem_flatMap.mpr ⟨token, member, inside⟩

/-- A text with characters has tokens. -/
theorem cut_ne_nil {text : String} (filled : text ≠ "") : cut text ≠ [] := by
  -- Without tokens there would be nothing to spell.
  intro empty
  have spelled := spell_cut text
  rw [empty, spell_nil] at spelled
  exact filled (String.toList_eq_nil_iff.mp spelled.symm)

end TypedRoutes.Token
