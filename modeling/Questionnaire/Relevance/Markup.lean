import Questionnaire.Text.Search

/-!
# Markup of conditions

A condition in words is markup: spans of class `relevance-precondition`, each holding segments of
classes that tell questions, comparisons, answers and so on apart. What is not put into words yet
stays plain text.

Main definitions:

* `Segment`, `Precondition`, `Fragment`: the markup, with the text of each.
* `Fragment.concat`: the text of several fragments, with a space between two plain ones.
-/

namespace Questionnaire.Relevance

/-! ## Segments -/

inductive SegmentKind where
  | question
  | comparison
  | answer
  | notFound
  | tail
  | parenthesis
  | connective
  deriving DecidableEq

/-- The class of a segment behind `rsg-`. -/
def SegmentKind.code : SegmentKind → String
  | .question => "qs"
  | .comparison => "co"
  | .answer => "as"
  | .notFound => "nf"
  | .tail => "tp"
  | .parenthesis => "lp"
  | .connective => "lo"

structure Segment where
  kind : SegmentKind
  content : String
  deriving DecidableEq

/-- A span of a class around a text. -/
def span (className content : String) : String :=
  "<span class=\"" ++ className ++ "\">" ++ content ++ "</span>"

def Segment.text (segment : Segment) : String :=
  span ("relevance-segment rsg-" ++ segment.kind.code) segment.content

/-! ## Preconditions -/

/-- Segments with spaces between them, and the text around them. -/
structure Precondition where
  before : String
  segments : List Segment
  after : String
  deriving DecidableEq

/-- Segments with nothing around them. -/
def Precondition.ofSegments (segments : List Segment) : Precondition := ⟨"", segments, ""⟩

def Precondition.text (precondition : Precondition) : String :=
  span "relevance-precondition"
    (precondition.before ++ Text.joinWith " " (precondition.segments.map Segment.text)
      ++ precondition.after)

/-! ## Fragments -/

/-- A part of a condition that is being put into words. -/
inductive Fragment where
  | plain (text : String)
  | markup (precondition : Precondition)
  deriving DecidableEq

/-- The text of fragments, the one in front of them being plain or not. -/
def Fragment.concatAfter : Bool → List Fragment → String
  | _, [] => ""
  | true, .plain text :: rest => " " ++ text ++ concatAfter true rest
  | false, .plain text :: rest => text ++ concatAfter true rest
  | _, .markup precondition :: rest => precondition.text ++ concatAfter false rest

def Fragment.concat (fragments : List Fragment) : String := concatAfter false fragments

end Questionnaire.Relevance
