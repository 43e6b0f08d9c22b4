import TypedRoutes.Proofs.Template.Places

/-! A text has one tokenization: tokens that fill it without a gap, each at its own place, with no
run beside another. A scanner that takes the longest token at every place finds just those tokens,
and never meets a character where none starts. -/

namespace TypedRoutes.Token

/-- Tokens that can stand side by side. -/
structure SideBySide (tokens : List Token) : Prop where
  /-- A run has characters, and none of them is structural. -/
  filled : ∀ run, text run ∈ tokens → FilledWithout ['/', '?', '&', '{', '}', ':', '='] run
  /-- No two runs touch. -/
  apart : tokens.IsChain Apart

/-- A text as a row of tokens with their places. -/
structure Tokenization (text : String) (tokens : List (Located Token)) : Prop where
  /-- Nothing of the text is lost. -/
  joined : String.join (tokens.map fun token => token.value.source) = text
  /-- The places go from the start of the text to its end without a gap. -/
  tiled : Contiguous 0 (tokens.map Located.span) text.utf8ByteSize
  /-- Each place starts and stops between two characters, and the token stands there. -/
  covers : ∀ token ∈ tokens, token.span.Covers text token.value.source
  /-- The tokens can stand side by side. -/
  sideBySide : SideBySide (tokens.map Located.value)

/-- The longest token that a text can start with. -/
structure Longest (token : Token) (text : List Char) : Prop where
  /-- A run has characters, and only plain ones. -/
  proper : token.Proper
  /-- The text starts with the token. -/
  starts : token.source.toList <+: text
  /-- It starts with no longer one. -/
  longest : ∀ other : Token, other.Proper → other.source.toList <+: text →
    other.source.toList.length ≤ token.source.toList.length

/-- What a scanner finds that goes through a text from an offset on. It takes the longest token at
each place, and reports a character where no token starts. -/
inductive Scans : Nat → List Char → List (Located (Option Token)) → Prop where
  /-- The end of the text. -/
  | done (offset : Nat) : Scans offset [] []
  /-- The longest token, and what is found behind it. -/
  | token {offset : Nat} {token : Token} {rest : List Char} {found : List (Located (Option Token))}
    (longest : Longest token (token.source.toList ++ rest))
    (behind : Scans (offset + byteSize token.source.toList) rest found) :
    Scans offset (token.source.toList ++ rest)
      (⟨some token, ⟨offset, offset + byteSize token.source.toList⟩⟩ :: found)
  /-- A character where no token starts, and what is found behind it. -/
  | stray {offset : Nat} {c : Char} {rest : List Char} {found : List (Located (Option Token))}
    (unknown : ∀ token, ¬ Longest token (c :: rest))
    (behind : Scans (offset + c.utf8Size) rest found) :
    Scans offset (c :: rest) (⟨none, ⟨offset, offset + c.utf8Size⟩⟩ :: found)

/-- A token that a scanner finds. -/
def hit (token : Located Token) : Located (Option Token) := ⟨some token.value, token.span⟩

/-- Settled tokens are those that can stand side by side. -/
theorem settled_iff {tokens : List Token} : Settled tokens ↔ SideBySide tokens := by
  constructor
  · intro settled
    refine ⟨?_, settled.apart⟩
    intro run member
    exact filledWithout_of_proper (settled.proper _ member)
  · intro sideBySide
    refine ⟨?_, sideBySide.apart⟩
    intro token member
    cases kind : token.isRun with
    | false => exact proper_of_structural kind
    | true =>
      obtain ⟨run, rfl⟩ := exists_run kind
      obtain ⟨filled, free⟩ := sideBySide.filled run member
      exact ⟨filled, fun c inside => isPlain_iff.mpr (free c inside)⟩

/-! Places of tokens. -/

/-- Joined sources are the spelling of the tokens. -/
theorem toList_join_source (tokens : List Token) :
    (String.join (tokens.map source)).toList = spell tokens := by
  -- Joining the sources is spelling the tokens.
  simp [spell, List.flatMap_map]

/-- A proper token has at least one byte. -/
theorem byteSize_source_pos {token : Token} (proper : token.Proper) :
    0 < byteSize token.source.toList := by
  -- The characters of a run are there, and every other token is one character.
  cases token with
  | text run =>
    obtain ⟨c, rest, shape⟩ := List.exists_cons_of_ne_nil (mt String.toList_eq_nil_iff.mp proper.1)
    have positive : 0 < c.utf8Size := Char.utf8Size_pos c
    simp only [source, shape, byteSize_cons]
    omega
  | _ => decide

/-- Tokens that are placed side by side leave no gap. -/
theorem contiguous_locate {tokens : List Token} (proper : ∀ token ∈ tokens, token.Proper)
    (offset : Nat) : Contiguous offset ((locate offset tokens).map Located.span)
      (offset + byteSize (spell tokens)) := by
  -- Every token has bytes, and the next one starts behind them.
  induction tokens generalizing offset with
  | nil => simp [locate, Contiguous]
  | cons token rest ih =>
    have positive := byteSize_source_pos (proper token (by simp))
    have later := ih (fun other member => proper other (by simp [member]))
      (offset + byteSize token.source.toList)
    refine ⟨rfl, ?_, ?_⟩
    · show offset < offset + byteSize token.source.toList
      omega
    · simpa [Nat.add_assoc] using later

/-- Tokens whose places have their sizes and leave no gap are placed side by side. -/
theorem eq_locate {tokens : List (Located Token)} {offset stop : Nat}
    (tiled : Contiguous offset (tokens.map Located.span) stop)
    (sized : ∀ token ∈ tokens,
      token.span.stop = token.span.start + byteSize token.value.source.toList) :
    tokens = locate offset (tokens.map Located.value) := by
  -- Where one token stops the next one starts.
  induction tokens generalizing offset with
  | nil => rfl
  | cons token rest ih =>
    obtain ⟨value, start, stop⟩ := token
    obtain ⟨begun, -, behind⟩ := tiled
    have size := sized _ List.mem_cons_self
    dsimp only at begun size behind
    subst begun size
    have later := ih behind fun other member => sized other (List.mem_cons_of_mem _ member)
    rw [List.map_cons, locate, ← later]

/-- The places of a text's tokens go from its start to its end. -/
theorem contiguous_tokenize (text : String) :
    Contiguous 0 ((tokenize text).map Located.span) text.utf8ByteSize := by
  -- The tokens are placed from the first byte on, and together they are as long as the text.
  have tiled := contiguous_locate (settled_cut text).proper 0
  rwa [← tokenize_eq, Nat.zero_add, spell_cut, byteSize_eq, String.ofList_toList] at tiled

/-- A token covers its own characters. -/
theorem covers_of_mem {text : String} {token : Located Token} (member : token ∈ tokenize text) :
    token.span.Covers text token.value.source := by
  obtain ⟨before, after, split⟩ := List.append_of_mem member
  have values : cut text = before.map Located.value ++ token.value :: after.map Located.value := by
    simp [cut, split]
  -- It stands behind the tokens before it.
  have located := split
  rw [tokenize_eq, values, locate_append] at located
  have counts := congrArg List.length (map_value_locate 0 (before.map Located.value))
  rw [List.length_map, List.length_map] at counts
  obtain ⟨-, behind⟩ := List.append_inj located counts
  have here := (List.cons.inj behind).1
  have written := spell_cut text
  rw [values, spell_append, spell_cons] at written
  refine Span.covers_of_split _ _ written.symm ?_ ?_
  all_goals rw [← here]
  simp

/-! The longest token at a place. -/

/-- Two proper tokens that are spelled alike are the same. -/
theorem eq_of_source_eq {token other : Token} (proper : token.Proper) (sound : other.Proper)
    (same : token.source.toList = other.source.toList) : token = other := by
  -- Each of them is the cut of its spelling.
  have spelled : spell [token] = spell [other] := by simpa using same
  have cuts := scan_spell (settled_singleton proper)
  rw [spelled, scan_spell (settled_singleton sound)] at cuts
  exact (List.cons.inj cuts).1.symm

/-- A text starts with only one longest token. -/
theorem Longest.unique {token other : Token} {text : List Char} (longest : Longest token text)
    (again : Longest other text) : token = other := by
  -- Both are as long as the other and at the front of the same text.
  have lengths : token.source.toList.length = other.source.toList.length :=
    Nat.le_antisymm (again.longest token longest.proper longest.starts)
      (longest.longest other again.proper again.starts)
  have front : token.source.toList <+: other.source.toList :=
    List.prefix_of_prefix_length_le longest.starts again.starts lengths.le
  exact eq_of_source_eq longest.proper again.proper (front.eq_of_length lengths)

/-- A run is not longer than the run at the front of a text that breaks it. -/
theorem length_le_of_breaks {first second rest : List Char} (plain : ∀ c ∈ first, IsPlain c)
    (breaks : Breaks rest) (starts : first <+: second ++ rest) : first.length ≤ second.length := by
  -- A longer one would hold the character that breaks.
  by_contra longer
  have front : second <+: first :=
    List.prefix_of_prefix_length_le (List.prefix_append second rest) starts (by omega)
  obtain ⟨extra, rfl⟩ := front
  cases extra with
  | nil => simp at longer
  | cons c extra =>
    obtain ⟨more, rfl⟩ := (List.prefix_append_right_inj second).mp starts
    exact breaks c (by simp) (plain c (by simp))

/-- The first of some settled tokens is the longest that their spelling starts with. -/
theorem longest_spell {token : Token} {rest : List Token} (settled : Settled (token :: rest)) :
    Longest token (spell (token :: rest)) := by
  refine ⟨settled.proper token (by simp), List.prefix_append _ _, ?_⟩
  intro other proper starts
  -- Another token at the front of the text is the same one, or both are runs.
  have alike : Alike other token := by
    obtain ⟨more, whole⟩ := starts
    have single : Settled ([] ++ [other]) := settled_singleton proper
    obtain ⟨last, others, cut, alike⟩ := scan_spell_concat single more
    rw [List.nil_append, spell_cons, spell_nil, List.append_nil, whole, scan_spell settled,
      List.nil_append, List.cons.injEq] at cut
    exact cut.1 ▸ alike
  rcases alike with rfl | ⟨worded, wordedHere⟩
  · exact Nat.le_refl _
  · obtain ⟨run, rfl⟩ := exists_run worded
    -- What stands behind the first run is no run, so it breaks the other one too.
    have breaks : Breaks (spell rest ++ []) :=
      breaks_spell (settled.behind_run wordedHere) (by simp [Breaks])
    rw [List.append_nil] at breaks
    exact length_le_of_breaks proper.2 breaks starts

/-- Characters are cut into settled tokens that spell them. -/
theorem settled_scan_and_spell (text : List Char) :
    Settled (scan [] text) ∧ spell (scan [] text) = text := by
  -- Nothing has been read before the cut starts.
  refine ⟨settled_scan (by simp) text, ?_⟩
  rw [spell_scan, List.reverse_nil, List.nil_append]

/-- A text with characters starts with its first token, and this is the longest. -/
theorem exists_longest {text : List Char} (filled : text ≠ []) :
    ∃ token rest, scan [] text = token :: rest ∧ Settled (token :: rest) ∧
      Longest token text := by
  obtain ⟨settled, spelled⟩ := settled_scan_and_spell text
  cases cut : scan [] text with
  | nil =>
    rw [cut, spell_nil] at spelled
    exact absurd spelled.symm filled
  | cons token rest =>
    rw [cut] at settled spelled
    refine ⟨token, rest, rfl, settled, ?_⟩
    have longest := longest_spell settled
    rwa [spelled] at longest

/-- The longest token is the first of the cut, and the text behind it is cut by itself. -/
theorem scan_longest {token : Token} {rest : List Char}
    (longest : Longest token (token.source.toList ++ rest)) :
    scan [] (token.source.toList ++ rest) = token :: scan [] rest := by
  have filled : token.source.toList ++ rest ≠ [] := by
    intro empty
    have positive := byteSize_source_pos longest.proper
    simp [(List.append_eq_nil_iff.mp empty).1] at positive
  obtain ⟨first, others, cut, settled, again⟩ := exists_longest filled
  obtain rfl := longest.unique again
  -- What is left of the spelling is the text behind the token.
  have spelled := (settled_scan_and_spell (token.source.toList ++ rest)).2
  rw [cut, spell_cons, List.append_cancel_left_eq] at spelled
  rw [cut, ← spelled, scan_spell (settled.part (List.suffix_cons token others).isInfix)]

/-! The scanner. -/

/-- Settled tokens are found in their spelling. -/
theorem scans_spell {tokens : List Token} (settled : Settled tokens) (offset : Nat) :
    Scans offset (spell tokens) ((locate offset tokens).map hit) := by
  -- The first token is the longest at its place, and the scan goes on where the next one stands.
  induction tokens generalizing offset with
  | nil => exact .done offset
  | cons token rest ih =>
    exact .token (longest_spell settled)
      (ih (settled.part (List.suffix_cons token rest).isInfix) _)

/-- A scanner finds the tokens of the cut and nothing else. -/
theorem scans_iff {offset : Nat} {text : List Char} {found : List (Located (Option Token))} :
    Scans offset text found ↔ found = (locate offset (scan [] text)).map hit := by
  constructor
  -- What the scanner takes at a place is the token that the cut has there.
  · intro scans
    induction scans with
    | done offset => rfl
    | token longest _ ih =>
      rw [scan_longest longest, ih]
      rfl
    -- Every character starts a token, so this case does not arise.
    | stray unknown _ _ =>
      obtain ⟨token, _, _, _, longest⟩ := exists_longest (List.cons_ne_nil _ _)
      exact absurd longest (unknown token)
  · rintro rfl
    obtain ⟨settled, spelled⟩ := settled_scan_and_spell text
    have scans := scans_spell settled offset
    rwa [spelled] at scans

/-! The whole text. -/

/-- Joined tokens that can stand side by side are cut where they meet. -/
theorem cut_join_source {tokens : List Token} (settled : Settled tokens) :
    cut (String.join (tokens.map source)) = tokens := by
  -- The joined text is the spelling, and settled tokens are read back from it.
  rw [cut_eq, toList_join_source, scan_spell settled]

/-- The tokens of a text are a tokenization of it. -/
theorem tokenization_tokenize (text : String) : Tokenization text (tokenize text) := by
  -- The sources of the tokens are the pieces of the text in order.
  have joined : String.join ((tokenize text).map fun token => token.value.source) = text := by
    apply String.toList_injective
    have spelled := toList_join_source (cut text)
    rwa [spell_cut, cut, List.map_map] at spelled
  refine ⟨joined, contiguous_tokenize text, ?_, settled_iff.mp (settled_cut text)⟩
  intro token member
  exact covers_of_mem member

/-- A text has no other tokenization. -/
theorem Tokenization.eq_tokenize {text : String} {tokens : List (Located Token)}
    (tokenization : Tokenization text tokens) : tokens = tokenize text := by
  -- The values are the cut of what they spell, and they are placed by their sizes.
  have values : cut text = tokens.map Located.value := by
    have cuts := cut_join_source (settled_iff.mpr tokenization.sideBySide)
    rw [List.map_map] at cuts
    rwa [← tokenization.joined]
  rw [tokenize_eq, values]
  exact eq_locate tokenization.tiled fun token member => (tokenization.covers token member).stop_eq

/-- Cutting a text into tokens loses nothing and is the only way to do so: the tokens are the one
tokenization of the text, tokens that can stand side by side are what their joined text is cut into,
and a scanner that takes the longest token everywhere finds them and no stray character. -/
theorem tokenize_lossless :
    (∀ text placed, tokenize text = placed ↔ Tokenization text placed) ∧
    (∀ tokens, (tokenize (String.join (tokens.map source))).map Located.value = tokens ↔
      SideBySide tokens) ∧
    (∀ text found, Scans 0 text.toList found ↔ found = (tokenize text).map hit) := by
  refine ⟨?_, ?_, fun text found => scans_iff⟩
  · intro text placed
    constructor
    · rintro rfl
      exact tokenization_tokenize text
    · intro tokenization
      exact tokenization.eq_tokenize.symm
  · intro tokens
    constructor
    -- What a text is cut into can stand side by side.
    · intro same
      rw [← same]
      exact (tokenization_tokenize _).sideBySide
    · intro sideBySide
      exact cut_join_source (settled_iff.mpr sideBySide)

/-- A run of a character of two bytes, between tokens of one byte. -/
example : tokenize "/é:\x7b" =
    [⟨.slash, ⟨0, 1⟩⟩, ⟨.text "é", ⟨1, 3⟩⟩, ⟨.colon, ⟨3, 4⟩⟩, ⟨.openBrace, ⟨4, 5⟩⟩] := by
  decide

end TypedRoutes.Token
