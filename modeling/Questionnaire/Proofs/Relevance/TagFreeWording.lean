import Questionnaire.Proofs.Relevance.Tags

/-!
# Wording without tags

No tag begins in the words that are put in place of tokens. So a condition has no tags but those of
its own spans, as long as there are none in the labels of the questions and answers, nor in the
tokens.

Results:

* `tagFree_comparisonSegments`: the segments of a comparison.
* `isTagFree_fragment`: the texts of a piece.
-/

namespace Questionnaire.Relevance

/-! ## Words -/

theorem tagFree_comparison (register : Register) (operator : Comparison) :
    TagFree (register.comparison operator) := by
  cases register <;> cases operator <;> decide

theorem tagFree_connective (register : Register) (connective : Connective) :
    TagFree (register.connective connective) := by
  cases register <;> cases connective <;> decide

theorem tagFree_counted {count singular plural : String} (hcount : TagFree count)
    (hsingular : TagFree singular) (hplural : TagFree plural) :
    TagFree (counted count singular plural) := by
  refine tagFree_append.2 ⟨tagFree_append.2 ⟨hcount, by decide⟩, ?_⟩
  split
  · exact hsingular
  · exact hplural

theorem tagFree_between {front back text : String} (hfront : TagFree front) (htext : TagFree text)
    (hback : TagFree back) : TagFree (front ++ text ++ back) :=
  tagFree_append.2 ⟨tagFree_append.2 ⟨hfront, htext⟩, hback⟩

theorem tagFree_truthValue {value truth : String} (h : Reader.truthValue? value = some truth) :
    TagFree truth := by
  unfold Reader.truthValue? at h
  split at h
  · cases h; decide
  · split at h
    · cases h; decide
    · cases h

/-! ## Several segments -/

theorem tagFree_three {first second third : Segment} (hfirst : TagFree first.content)
    (hsecond : TagFree second.content) (hthird : TagFree third.content) :
    ∀ segment ∈ [first, second, third], TagFree segment.content :=
  List.forall_mem_cons.2 ⟨hfirst, List.forall_mem_cons.2
    ⟨hsecond, List.forall_mem_singleton.2 hthird⟩⟩

theorem isTagFree_ofSegments {segments : List Segment}
    (h : ∀ segment ∈ segments, TagFree segment.content) :
    (Precondition.ofSegments segments).IsTagFree :=
  ⟨(by decide : TagFree ""), h, (by decide : TagFree "")⟩

namespace Reader

/-! ## Tokens -/

theorem tagFree_tokenText (reader : Reader) {token : Token} (h : token.IsPlain) :
    TagFree (reader.tokenText .connectives token) := by
  cases token with
  | reference | literal => exact tagFree_append.2 ⟨tagFree_append.2 ⟨by decide, h⟩, by decide⟩
  | number | word => exact h.2
  | comparison operator => exact tagFree_comparison reader.register operator
  | connective connective =>
    show TagFree (Token.connective connective).display
    cases connective <;> decide
  | openParen => exact (by decide : TagFree "(")
  | closeParen => exact (by decide : TagFree ")")
  | comma => exact (by decide : TagFree ",")
  | notAnswered => exact (by decide : TagFree "was NOT answered")
  | symbol char =>
    show '<' ∉ (String.ofList [char]).toList
    rw [String.toList_ofList, List.mem_singleton]
    exact Ne.symm h
  | selectedMoreThan count | lengthEquals count =>
    exact tagFree_append.2 ⟨by decide, tagFree_counted h.2 (by decide) (by decide)⟩

/-! ## Questions and answers -/

/-- No tag begins in the labels of the questions and answers. -/
structure HasTagFreeLabels (reader : Reader) : Prop where
  questions : ∀ question ∈ reader.items.questions,
    ∀ label ∈ question.label.text? reader.language, TagFree label
  answers : ∀ question ∈ reader.items.questions, ∀ answer ∈ question.answers,
    ∀ label ∈ answer.label.text? reader.language, TagFree label

theorem tagFree_questionLabel {reader : Reader} (h : reader.HasTagFreeLabels) {name : String}
    (hname : TagFree name) {question : Question} (hm : question ∈ reader.items.questions) :
    TagFree (reader.questionLabel name question).content := by
  unfold questionLabel
  split
  · rename_i label hlabel
    exact h.questions question hm label hlabel
  · exact tagFree_between (by decide) hname (by decide)

theorem tagFree_questionSegment {reader : Reader} (h : reader.HasTagFreeLabels) {name : String}
    (hname : TagFree name) : TagFree (reader.questionSegment name).content := by
  unfold questionSegment
  split
  · rename_i question hquestion
    exact tagFree_questionLabel h hname (List.mem_of_find?_eq_some hquestion)
  · exact tagFree_between (by decide) hname (by decide)

theorem tagFree_answerSegment {reader : Reader} (h : reader.HasTagFreeLabels) {id : String}
    (hid : TagFree id) {question : Question} (hm : question ∈ reader.items.questions) :
    TagFree (reader.answerSegment question id).content := by
  unfold answerSegment
  split
  · exact tagFree_between (by decide) hid (by decide)
  · rename_i answer hanswer
    split
    · rename_i label hlabel
      exact h.answers question hm answer (List.mem_of_find?_eq_some hanswer) label hlabel
    · exact tagFree_between (by decide) hid (by decide)

theorem tagFree_comparisonSegments {reader : Reader} (h : reader.HasTagFreeLabels) {name : String}
    (hname : TagFree name) (operator : Comparison) {value : String} (hvalue : TagFree value) :
    ∀ segment ∈ reader.comparisonSegments name operator value, TagFree segment.content := by
  have hworded := tagFree_comparison reader.register operator
  unfold comparisonSegments
  cases hquestion : reader.items.question? name with
  | none =>
    exact tagFree_three (tagFree_between (by decide) hname (by decide)) hworded
      (tagFree_between (by decide) hvalue (by decide))
  | some question =>
    have hm := List.mem_of_find?_eq_some hquestion
    have hlabel := tagFree_questionLabel h hname hm
    dsimp only
    split
    · exact tagFree_three hlabel hworded (tagFree_answerSegment h hvalue hm)
    · split
      · rename_i truth _ htruth
        exact tagFree_three hlabel (by decide) (tagFree_truthValue htruth)
      · exact tagFree_three hlabel hworded hvalue

/-! ## Pieces -/

/-- No tag begins in the texts of a piece whose tokens are plain. -/
theorem isTagFree_fragment {reader : Reader} (h : reader.HasTagFreeLabels) {piece : Piece}
    (hplain : ∀ token ∈ piece.tokens, token.IsPlain) :
    (reader.fragment .connectives piece).IsTagFree := by
  cases piece with
  | comparison name operator value =>
    simp only [Piece.tokens, List.forall_mem_cons, Token.IsPlain] at hplain
    exact isTagFree_ofSegments (tagFree_comparisonSegments h hplain.1 operator hplain.2.2.1)
  | reference name tail =>
    obtain ⟨hname, htail⟩ := List.forall_mem_cons.1 hplain
    have htext : TagFree (Text.joinWith " " (tail.map (reader.tokenText .connectives))) := by
      refine tagFree_joinWith (by decide) fun text htext => ?_
      obtain ⟨token, hm, rfl⟩ := List.mem_map.1 htext
      exact tagFree_tokenText reader (htail token hm)
    refine isTagFree_ofSegments (List.forall_mem_cons.2 ⟨tagFree_questionSegment h hname, ?_⟩)
    split
    · exact fun _ hm => absurd hm List.not_mem_nil
    · exact List.forall_mem_singleton.2 htext
  | single token =>
    have htoken : token.IsPlain := hplain token (List.mem_singleton.2 rfl)
    cases token with
    | openParen | closeParen => exact ⟨by decide, by decide, by decide⟩
    | connective connective =>
      have hcontent := tagFree_between (by decide : TagFree "&nbsp;")
        (tagFree_connective reader.register connective) (by decide : TagFree "&nbsp;")
      exact ⟨(by decide : TagFree " "), List.forall_mem_singleton.2 hcontent,
        (by decide : TagFree " ")⟩
    | _ => exact tagFree_tokenText reader htoken

end Reader

end Questionnaire.Relevance
