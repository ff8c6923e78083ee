import Questionnaire.Proofs.Relevance.Tags

/-!
# Segments of tokens

A token list prescribes the segments of its condition: three for a comparison of a question with a
literal, one or two for any other question, and one for every parenthesis and connective. All other
tokens are plain text, unless they are about a question in front of them.

Results:

* `map_kind_segments`: the kinds of the segments.
* `sublist_segments`: no question, parenthesis or connective is missing.
* `flatMap_segments_pieces`, `plainAfter_pieces`: the pieces of a token list have the segments and
  the plain text that the tokens prescribe.
-/

namespace Questionnaire.Relevance

theorem joinWith_ne_empty {separator text : String} (h : text ≠ "") (texts : List String) :
    Text.joinWith separator (text :: texts) ≠ "" := by
  cases texts with
  | nil => exact h
  | cons next texts =>
    exact fun hempty =>
      h (String.append_eq_empty_iff.1 (String.append_eq_empty_iff.1 hempty).1).1

namespace Reader

/-! ## What tokens prescribe -/

/-- The segment of the tokens about a question, which start the rest of the tokens. -/
def tailSegments (reader : Reader) (rest : List Token) : List Segment :=
  if rest.head?.any belongsToTail then
    [⟨.tail, Text.joinWith " "
      ((rest.takeWhile belongsToTail).map (reader.tokenText .connectives))⟩]
  else []

/-- The segments of a token list in order. The tokens about a question give none on their own. -/
def segments (reader : Reader) : List Token → List Segment
  | [] => []
  | .reference name :: .comparison operator :: .literal value :: rest =>
    reader.comparisonSegments name operator value ++ reader.segments rest
  | .reference name :: rest =>
    reader.questionSegment name :: (reader.tailSegments rest ++ reader.segments rest)
  | .openParen :: rest => ⟨.parenthesis, "("⟩ :: reader.segments rest
  | .closeParen :: rest => ⟨.parenthesis, ")"⟩ :: reader.segments rest
  | .connective connective :: rest =>
    ⟨.connective, "&nbsp;" ++ reader.register.connective connective ++ "&nbsp;"⟩
      :: reader.segments rest
  | _ :: rest => reader.segments rest

/-- The text outside of all markup, what is in front of it being plain or not. -/
def plainText (reader : Reader) (spaced : Bool) : List Token → String
  | [] => ""
  | .reference _ :: .comparison _ :: .literal _ :: rest => reader.plainText false rest
  | .reference _ :: rest => reader.plainText false (rest.dropWhile belongsToTail)
  | .openParen :: rest => reader.plainText false rest
  | .closeParen :: rest => reader.plainText false rest
  | .connective _ :: rest => reader.plainText false rest
  | token :: rest =>
    (if spaced then " " else "") ++ reader.tokenText .connectives token
      ++ reader.plainText true rest
termination_by tokens => tokens.length
decreasing_by
  · simp; omega
  · have := (List.dropWhile_suffix belongsToTail (l := rest)).length_le
    simp; omega
  all_goals simp

/-! ## Kinds -/

def questionKind (reader : Reader) (name : String) : SegmentKind :=
  if (reader.items.question? name).isSome then .question else .notFound

/-- The kind of the segment of a literal with which a question is compared. -/
def valueKind (reader : Reader) (name value : String) : SegmentKind :=
  match reader.items.question? name with
  | none => .notFound
  | some question =>
    if question.type.type.requiresAnswers && (question.answer? value).isNone then .notFound
    else .answer

/-- The kinds of the segments of a token list in order. -/
def kinds (reader : Reader) : List Token → List SegmentKind
  | [] => []
  | .reference name :: .comparison _ :: .literal value :: rest =>
    reader.questionKind name :: .comparison :: reader.valueKind name value :: reader.kinds rest
  | .reference name :: rest =>
    reader.questionKind name
      :: ((if rest.head?.any belongsToTail then [.tail] else []) ++ reader.kinds rest)
  | .openParen :: rest => .parenthesis :: reader.kinds rest
  | .closeParen :: rest => .parenthesis :: reader.kinds rest
  | .connective _ :: rest => .connective :: reader.kinds rest
  | _ :: rest => reader.kinds rest

theorem kind_questionLabel (reader : Reader) (name : String) (question : Question) :
    (reader.questionLabel name question).kind = .question := by
  unfold questionLabel
  split <;> rfl

theorem kind_questionSegment (reader : Reader) (name : String) :
    (reader.questionSegment name).kind = reader.questionKind name := by
  unfold questionSegment questionKind
  cases reader.items.question? name with
  | none => rfl
  | some question => exact kind_questionLabel reader name question

theorem kind_answerSegment (reader : Reader) (question : Question) (id : String) :
    (reader.answerSegment question id).kind =
      if (question.answer? id).isNone then .notFound else .answer := by
  unfold answerSegment
  cases question.answer? id with
  | none => rfl
  | some answer => dsimp only; split <;> rfl

theorem map_kind_comparisonSegments (reader : Reader) (name : String) (operator : Comparison)
    (value : String) :
    (reader.comparisonSegments name operator value).map Segment.kind =
      [reader.questionKind name, .comparison, reader.valueKind name value] := by
  unfold comparisonSegments questionKind valueKind
  cases reader.items.question? name with
  | none => rfl
  | some question =>
    dsimp only
    cases question.type.type.requiresAnswers with
    | true => simp [kind_questionLabel, kind_answerSegment]
    | false =>
      -- a truth value has a segment of its own, which tells an answer as well
      cases reader.isBoolean question <;> cases truthValue? value <;> simp [kind_questionLabel]

theorem map_kind_segments (reader : Reader) (tokens : List Token) :
    (reader.segments tokens).map Segment.kind = reader.kinds tokens := by
  fun_induction segments reader tokens with
  | case1 => rfl
  | case2 name operator value rest ih =>
    rw [List.map_append, map_kind_comparisonSegments, ih, kinds]
    rfl
  | case3 name rest hrest ih =>
    rw [kinds.eq_3 _ _ _ hrest, List.map_cons, kind_questionSegment, List.map_append, ih,
      tailSegments]
    split <;> rfl
  | case4 rest ih => rw [List.map_cons, ih, kinds]
  | case5 rest ih => rw [List.map_cons, ih, kinds]
  | case6 connective rest ih => rw [List.map_cons, ih, kinds]
  | case7 token rest hcomparison hreference hopen hclose hconnective ih =>
    rw [ih, kinds] <;> assumption

/-! ## No segment is missing -/

/-- The segment of a token that has one of its own: a question, a parenthesis or a connective. -/
def ownSegment? (reader : Reader) : Token → Option Segment
  | .reference name => some (reader.questionSegment name)
  | .openParen => some ⟨.parenthesis, "("⟩
  | .closeParen => some ⟨.parenthesis, ")"⟩
  | .connective connective =>
    some ⟨.connective, "&nbsp;" ++ reader.register.connective connective ++ "&nbsp;"⟩
  | _ => none

theorem comparisonSegments_eq_cons (reader : Reader) (name : String) (operator : Comparison)
    (value : String) :
    ∃ others, reader.comparisonSegments name operator value =
      reader.questionSegment name :: others := by
  unfold comparisonSegments questionSegment
  cases reader.items.question? name with
  | none => exact ⟨_, rfl⟩
  | some question =>
    dsimp only
    split
    · exact ⟨_, rfl⟩
    · split <;> exact ⟨_, rfl⟩

/-- The questions, parentheses and connectives are all told, in their order. -/
theorem sublist_segments (reader : Reader) (tokens : List Token) :
    (tokens.filterMap reader.ownSegment?).Sublist (reader.segments tokens) := by
  fun_induction segments reader tokens with
  | case1 => exact .slnil
  | case2 name operator value rest ih =>
    obtain ⟨others, hsegments⟩ := reader.comparisonSegments_eq_cons name operator value
    rw [hsegments, List.cons_append]
    exact .cons_cons _ (ih.trans (List.sublist_append_right others _))
  | case3 name rest hrest ih =>
    exact .cons_cons _ (ih.trans (List.sublist_append_right _ _))
  | case4 rest ih => exact .cons_cons _ ih
  | case5 rest ih => exact .cons_cons _ ih
  | case6 connective rest ih => exact .cons_cons _ ih
  | case7 token rest hcomparison hreference hopen hclose hconnective ih =>
    cases token with
    | reference name => exact absurd rfl (hreference name)
    | openParen => exact absurd rfl hopen
    | closeParen => exact absurd rfl hclose
    | connective connective => exact absurd rfl (hconnective connective)
    | _ => exact ih

/-! ## Pieces -/

/-- Every token about a question shows some text. -/
theorem tokenText_ne_empty (reader : Reader) {token : Token} (hplain : token.IsPlain)
    (htail : belongsToTail token = true) : reader.tokenText .connectives token ≠ "" := by
  cases token with
  | reference | literal | connective | openParen | closeParen => cases htail
  | number | word => exact hplain.1
  | comparison operator =>
    show reader.register.comparison operator ≠ ""
    cases reader.register <;> cases operator <;> decide
  | comma => exact (by decide : "," ≠ "")
  | notAnswered => exact (by decide : "was NOT answered" ≠ "")
  | symbol char => exact fun h => List.cons_ne_nil _ _ (String.ofList_eq_empty_iff.1 h)
  | selectedMoreThan count =>
    exact fun h => absurd (String.append_eq_empty_iff.1 h).1 (by decide)
  | lengthEquals count =>
    exact fun h => absurd (String.append_eq_empty_iff.1 h).1 (by decide)

theorem referenceSegments_eq (reader : Reader) (name : String) {rest : List Token}
    (h : ∀ token ∈ rest, token.IsPlain) :
    reader.referenceSegments name (Text.joinWith " "
        ((rest.takeWhile belongsToTail).map (reader.tokenText .connectives))) =
      reader.questionSegment name :: reader.tailSegments rest := by
  unfold referenceSegments tailSegments
  cases rest with
  | nil => rfl
  | cons token rest =>
    cases htail : belongsToTail token with
    | false => simp [htail, Text.joinWith]
    | true =>
      have htext := reader.tokenText_ne_empty (h token List.mem_cons_self) htail
      rw [List.takeWhile_cons_of_pos htail, List.map_cons, if_neg (joinWith_ne_empty htext _)]
      simp [htail]

theorem segments_dropWhile (reader : Reader) (tokens : List Token) :
    reader.segments (tokens.dropWhile belongsToTail) = reader.segments tokens := by
  induction tokens with
  | nil => rfl
  | cons token tokens ih =>
    cases h : belongsToTail token with
    | false => rw [List.dropWhile_cons_of_neg (by simp [h])]
    | true =>
      rw [List.dropWhile_cons_of_pos h, ih]
      cases token with
      | reference | literal | connective | openParen | closeParen => cases h
      | _ => rfl

/-- The pieces of a token list have the segments that the tokens prescribe. -/
theorem flatMap_segments_pieces (reader : Reader) {tokens : List Token}
    (h : ∀ token ∈ tokens, token.IsPlain) :
    ((pieces tokens).map (reader.fragment .connectives)).flatMap Fragment.segments =
      reader.segments tokens := by
  fun_induction pieces tokens with
  | case1 => rfl
  | case2 name operator value rest ih =>
    have hrest : ∀ token ∈ rest, token.IsPlain := fun token hm => h token (by simp [hm])
    rw [List.map_cons, List.flatMap_cons, ih hrest, segments]
    rfl
  | case3 name rest hcomparison ih =>
    have hrest : ∀ token ∈ rest, token.IsPlain := (List.forall_mem_cons.1 h).2
    have hdrop : ∀ token ∈ rest.dropWhile belongsToTail, token.IsPlain :=
      fun token hm => hrest token ((List.dropWhile_suffix _).subset hm)
    rw [List.map_cons, List.flatMap_cons, ih hdrop, segments_dropWhile,
      segments.eq_3 _ _ _ hcomparison]
    show reader.referenceSegments name _ ++ _ = _
    rw [referenceSegments_eq reader name hrest]
    rfl
  | case4 token rest hcomparison hreference ih =>
    rw [List.map_cons, List.flatMap_cons, ih (List.forall_mem_cons.1 h).2]
    cases token with
    | reference name => exact absurd rfl (hreference name)
    | _ => rfl

/-- Outside of the markup, the pieces of a token list have the plain text of the tokens. -/
theorem plainAfter_pieces (reader : Reader) (tokens : List Token) (spaced : Bool) :
    Fragment.plainAfter spaced ((pieces tokens).map (reader.fragment .connectives)) =
      reader.plainText spaced tokens := by
  fun_induction pieces tokens generalizing spaced with
  | case1 => rw [plainText]; rfl
  | case2 name operator value rest ih =>
    rw [plainText, ← ih]
    cases spaced <;> rfl
  | case3 name rest hcomparison ih =>
    rw [plainText.eq_3 _ _ _ _ hcomparison, ← ih]
    cases spaced <;> rfl
  | case4 token rest hcomparison hreference ih =>
    cases token with
    | reference name => exact absurd rfl (hreference name)
    | openParen | closeParen | connective =>
      rw [plainText, ← ih]
      cases spaced <;> rfl
    | _ =>
      rw [plainText, ← ih]
      · cases spaced <;> simp [Fragment.plainAfter, fragment]
      all_goals simp

end Reader

end Questionnaire.Relevance
