import Questionnaire.Proofs.Relevance.Segments
import Questionnaire.Proofs.Relevance.Sentence
import Questionnaire.Proofs.Relevance.TagFreeWording

/-!
# The order of segments

Read from left to right, a finished condition is made of the segments that the reduced tokens
prescribe, one after the other, with the plain text of the other tokens around them.

Results:

* `shows_render`: a finished text shows what its tokens prescribe.
* `text?_phrase_shows`: so does the text of an expression in each of its languages.
-/

namespace Questionnaire.Relevance

/-! ## Finished texts -/

/-- A finished text shows what its tokens prescribe. -/
theorem Reader.shows_render {reader : Reader} (h : reader.HasTagFreeLabels) {tokens : List Token}
    (hplain : ∀ token ∈ tokens, token.IsPlain) :
    Shows (reader.render .connectives tokens).toList (reader.segments tokens)
      (reader.plainText false tokens).toList := by
  have hfragments : ∀ fragment ∈ (pieces tokens).map (reader.fragment .connectives),
      fragment.IsTagFree := by
    intro fragment hm
    obtain ⟨piece, hpiece, rfl⟩ := List.mem_map.1 hm
    refine Reader.isTagFree_fragment h fun token htoken => hplain token ?_
    rw [← tokens_pieces tokens]
    exact List.mem_flatMap.2 ⟨piece, hpiece, htoken⟩
  have hshows := shows_concatAfter hfragments false
  rwa [reader.flatMap_segments_pieces hplain, Reader.plainAfter_pieces] at hshows

theorem shows_sentence {text plain : String} {segments : List Segment}
    (h : Shows text.toList segments plain.toList) :
    ∃ ending ∈ ["", "."], Shows (sentence text).toList segments (plain ++ ending).toList := by
  unfold sentence
  split
  · exact ⟨"", by simp, by rwa [String.append_empty]⟩
  · refine ⟨".", by simp, ?_⟩
    have hperiod : Shows ".".toList [] ".".toList := .plain (by decide)
    have hshows := h.append hperiod
    rwa [List.append_nil, ← String.toList_append, ← String.toList_append] at hshows

/-! ## Expressions in words -/

/-- The text of an expression in each of its languages is well-formed markup. The segments in it
are those that the reduced tokens prescribe, in their order, so that no question, parenthesis or
connective is missing; outside of the markup stands the plain text of the other tokens. -/
theorem text?_phrase_shows {items : Forest} {languages : List Language} {options : Options}
    {expression : String} {language : Language} (hworded : IsWorded expression)
    (hlanguage : language ∈ languages)
    (hlabels : (Reader.mk items language options).HasTagFreeLabels)
    (hreferences : ∀ name, .reference name ∈ tokenize (Text.trim expression) → TagFree name)
    (hliterals : ∀ text, .literal text ∈ tokenize (Text.trim expression) → TagFree text) :
    let reader := Reader.mk items language options
    let tokens := reduced (tokenize (Text.trim expression))
    ∃ text marks,
      (phrase items languages options expression).text.text? language = some text ∧
      readMarkup 0 text.toList = some marks ∧
      marks.filterMap Mark.segment? =
        (reader.segments tokens).map (fun segment => (segment.kind.className, segment.content)) ∧
      (reader.segments tokens).map Segment.kind = reader.kinds tokens ∧
      (tokens.filterMap reader.ownSegment?).Sublist (reader.segments tokens) ∧
      ∃ ending ∈ ["", "."],
        marks.filterMap Mark.outside? = (reader.plainText false tokens ++ ending).toList := by
  intro reader tokens
  have hplain : ∀ token ∈ tokens, token.IsPlain :=
    isPlain_of_mem_reduced (isPlain_of_mem_tokenize hreferences hliterals)
  obtain ⟨ending, hending, marks, hread, hsegments, houtside⟩ :=
    shows_sentence (reader.shows_render hlabels hplain)
  exact ⟨_, marks, text?_phrase hworded hlanguage, hread.readMarkup, hsegments,
    reader.map_kind_segments tokens, reader.sublist_segments tokens, ending, hending, houtside⟩

/-! ## A question that exists and one that does not -/

/-- An English reader of a survey that only asks for the age. -/
def ageReader : Reader :=
  let english := Language.ofLabel "English"
  ⟨.question { Reader.calculation "age" with label := .constant [english] "Age" } .nil, english, {}⟩

def ageExpression : String :=
  "(" ++ referenceText "age" ++ " > 3 or " ++ referenceText "sex" ++ " = 'f') and later"

theorem tokenize_ageExpression :
    tokenize (Text.trim ageExpression) =
      [.openParen, .reference "age", .comparison .greater, .number "3", .connective .or,
        .reference "sex", .comparison .equal, .literal "f", .closeParen, .connective .and,
        .word "later"] := by
  decide +kernel

theorem hasTagFreeLabels_ageReader : ageReader.HasTagFreeLabels :=
  ⟨by decide, by decide⟩

theorem text?_phrase_ageExpression :
    ∃ text marks,
      (phrase ageReader.items [ageReader.language] ageReader.options ageExpression).text.text?
        ageReader.language = some text ∧
      readMarkup 0 text.toList = some marks ∧
      (marks.filterMap Mark.segment?).map Prod.fst =
        ([.parenthesis, .question, .tail, .connective, .notFound, .comparison, .notFound,
          .parenthesis, .connective] : List SegmentKind).map SegmentKind.className := by
  have hworded : IsWorded ageExpression := by decide
  obtain ⟨text, marks, htext, hread, hsegments, hkinds, -⟩ :=
    text?_phrase_shows hworded (List.mem_singleton.2 rfl) hasTagFreeLabels_ageReader
      (by rw [tokenize_ageExpression]; simp; decide) (by rw [tokenize_ageExpression]; simp; decide)
  refine ⟨text, marks, htext, hread, ?_⟩
  rw [hsegments, List.map_map]
  show List.map (SegmentKind.className ∘ Segment.kind) _ = _
  rw [← List.map_map, hkinds, tokenize_ageExpression]
  decide +kernel

end Questionnaire.Relevance
