import Questionnaire.Proofs.Relevance.Sentence
import Questionnaire.Proofs.Text.JoinedWords

/-!
# Steps of a condition

The steps of an expression go from its tokens to a sentence. The first of them are the same in all
languages: although tokens are rendered in pieces, what is not put into words yet shows the tokens
one by one.

Main definitions:

* `displayed`: tokens with spaces between them.
* `Phrasing.Recounts`: the steps tell how the expression is put into words.

Results:

* `Reader.render_tokens`: at the first stage, the tokens are displayed.
* `recounts_phrase`: the steps of every expression that is put into words.
-/

namespace Questionnaire.Relevance

/-! ## Tokens that are not put into words -/

theorem Fragment.append_concatAfter (text : String) (texts : List String) :
    text ++ Fragment.concatAfter true (texts.map .plain) = Text.joinWith " " (text :: texts) := by
  induction texts generalizing text with
  | nil => rw [List.map_nil, concatAfter, String.append_empty]; rfl
  | cons next texts ih =>
    rw [List.map_cons, concatAfter, String.append_assoc, ih next, ← String.append_assoc]
    rfl

theorem Fragment.concat_plain (texts : List String) :
    Fragment.concat (texts.map .plain) = Text.joinWith " " texts := by
  cases texts with
  | nil => rfl
  | cons text texts => exact append_concatAfter text texts

/-- The tokens as they are shown, with spaces between them. -/
def displayed (tokens : List Token) : String := Text.joinWith " " (tokens.map Token.display)

namespace Reader

variable (reader : Reader)

theorem tokenText_tokens (token : Token) : reader.tokenText .tokens token = token.display := by
  cases token <;> rfl

theorem fragment_tokens (piece : Piece) :
    reader.fragment .tokens piece = .plain (displayed piece.tokens) := by
  cases piece with
  | comparison question operator value =>
    refine congrArg Fragment.plain ?_
    show referenceText question ++ " " ++ operator.operator ++ " " ++ literalText value =
      referenceText question ++ " " ++ (operator.operator ++ " " ++ literalText value)
    simp only [String.append_assoc]
  | reference question tail =>
    have htail : tail.map (reader.tokenText .tokens) = tail.map Token.display :=
      List.map_congr_left fun token _ => reader.tokenText_tokens token
    show Fragment.plain (Text.joinWith " " (_ :: tail.map (reader.tokenText .tokens))) = _
    rw [htail]
    rfl
  | single token => cases token <;> rfl

/-- At the first stage the pieces cannot be told from the tokens. -/
theorem render_tokens (tokens : List Token) : reader.render .tokens tokens = displayed tokens := by
  have hpieces : (pieces tokens).map (reader.fragment .tokens) =
      ((pieces tokens).map fun piece => displayed piece.tokens).map Fragment.plain := by
    rw [List.map_map]
    exact List.map_congr_left fun piece _ => reader.fragment_tokens piece
  have hnonempty (piece : Piece) : piece.tokens.map Token.display ≠ [] := by
    cases piece <;> exact List.cons_ne_nil _ _
  rw [render, hpieces, Fragment.concat_plain]
  unfold displayed
  rw [← Text.joinWith_flatMap " " hnonempty, ← List.map_flatMap, tokens_pieces]

end Reader

/-! ## What the steps tell -/

section

variable (items : Forest) {languages : List Language} (options : Options) {expression : String}

/-- The steps tell how the expression is put into words, from the expression itself on. -/
structure Phrasing.Recounts (phrasing : Phrasing) (items : Forest) (languages : List Language)
    (options : Options) (expression : String) : Prop where
  /-- There is one more step if a language still lacks its period. -/
  length : phrasing.steps.length =
    if ∃ language ∈ languages,
      ¬ EndsInPeriod (lastRendering items options (tokenize (Text.trim expression)) language)
    then 14 else 13
  source : phrasing.steps.head? = some (.ofTexts languages fun _ => Text.trim expression)
  /-- The tokens, and the tokens after each of the rules. -/
  tokens : (phrasing.steps.drop 1).take 6 =
    (reductions (sugarRules ++ [answeredRule]) (tokenize (Text.trim expression))).map
      fun tokens => .ofTexts languages fun _ => displayed tokens
  stages : (phrasing.steps.drop 7).take 6 = Stage.worded.map fun stage =>
    .ofTexts languages (rendering items options stage (reduced (tokenize (Text.trim expression))))
  /-- Every step has a text for the first occurrence of each language, and nothing else. -/
  entries : ∀ step ∈ phrasing.steps, ∃ text : Language → String,
    step.entries = languages.eraseDups.map fun language => (language, some (text language))
  last : phrasing.steps.getLast? = some phrasing.text
  sentences : ∀ language ∈ languages, ∃ text, phrasing.text.text? language = some text ∧
    EndsInPeriod text ∧
      (text = lastRendering items options (tokenize (Text.trim expression)) language ∨
        text = lastRendering items options (tokenize (Text.trim expression)) language ++ ".")

/-- The steps of every expression that is put into words. -/
theorem recounts_phrase (hworded : IsWorded expression) (hlanguages : languages ≠ []) :
    (phrase items languages options expression).Recounts items languages options expression := by
  have hsteps := steps_phrase items options hworded hlanguages
  constructor
  case length =>
    rw [hsteps, List.length_map, stepTexts, List.length_append]
    by_cases hall : ∀ language ∈ languages,
        EndsInPeriod (lastRendering items options (tokenize (Text.trim expression)) language)
    · rw [if_pos hall, if_neg (by simpa using hall)]
      rfl
    · rw [if_neg hall, if_pos (by simpa using hall)]
      rfl
  case source =>
    rw [hsteps]
    rfl
  case tokens =>
    have htokens : ((phrase items languages options expression).steps.drop 1).take 6 =
        (reductions (sugarRules ++ [answeredRule]) (tokenize (Text.trim expression))).map
          fun tokens => .ofTexts languages (rendering items options .tokens tokens) := by
      rw [hsteps]
      rfl
    rw [htokens]
    exact List.map_congr_left fun tokens _ =>
      Localized.ofTexts_congr fun language _ => Reader.render_tokens _ tokens
  case stages =>
    rw [hsteps]
    rfl
  case entries =>
    intro step hm
    rw [hsteps] at hm
    obtain ⟨text, -, rfl⟩ := List.mem_map.1 hm
    exact ⟨text, rfl⟩
  case last => exact getLast?_steps_phrase items languages options expression
  case sentences =>
    intro language hm
    refine ⟨_, text?_phrase hworded hm, endsInPeriod_sentence _, ?_⟩
    unfold sentence
    split
    · exact .inl rfl
    · exact .inr rfl

end

/-- English is asked for twice. -/
theorem recounts_phrase_twice :
    let languages := [.ofLabel "English", .ofLabel "French", .ofLabel "English"]
    IsWorded "$\x7bage\x7d > 17" ∧ languages ≠ [] ∧
      (phrase .nil languages {} "$\x7bage\x7d > 17").Recounts .nil languages {}
        "$\x7bage\x7d > 17" :=
  ⟨by decide, by decide, recounts_phrase .nil {} (by decide) (by decide)⟩

/-- An expression that ends in a period takes no further step. -/
example : (phrase .nil [.ofLabel "English"] {} "later .").steps.length = 13 := by decide +kernel

end Questionnaire.Relevance
