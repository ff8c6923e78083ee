import Questionnaire.Proofs.Relevance.Operators
import Questionnaire.Proofs.Relevance.PlainTokens

/-!
# Reading markup

A reader of markup goes through a text from left to right. It knows the tags of spans only and
counts how many spans are open: every `<` must begin a tag, no tag may close a span that is not
open, and none may stay open. It meets the spans in the order in which they are opened, and the
characters outside of them.

Results:

* `Reads.append`, `reads_span`: reading texts one behind the other, and one inside a span.
* `reads_precondition`: the spans of a condition.
* `shows_concatAfter`: the segments of several fragments, and what stands outside of them.
-/

namespace Questionnaire.Relevance

/-! ## The reader -/

/-- What is met in a text with markup. -/
inductive Mark where
  /-- A span is opened. Its class, and the text up to the next tag. -/
  | opened (className content : String)
  /-- A character outside all spans. -/
  | outside (c : Char)
  deriving DecidableEq

/-- What follows the tag at the start of a text that closes a span. -/
def closingTag? (cs : List Char) : Option (List Char) := Text.dropPrefix? "</span>".toList cs

/-- The class in the tag at the start of a text that opens a span, and what follows the tag. -/
def openingTag? (cs : List Char) : Option (List Char × List Char) :=
  (Text.dropPrefix? "<span class=\"".toList cs).bind fun quoted =>
    (splitAt? '\x22' quoted).bind fun parts =>
      (Text.dropPrefix? [ '>' ] parts.2).map fun inner => (parts.1, inner)

theorem openingTag?_eq_some_iff {cs className inner : List Char} :
    openingTag? cs = some (className, inner) ↔
      cs = "<span class=\"".toList ++ (className ++ '\x22' :: '>' :: inner) ∧
        '\x22' ∉ className := by
  simp only [openingTag?, Option.bind_eq_some_iff, Option.map_eq_some_iff, Prod.exists,
    Text.dropPrefix?_eq_some_iff, splitAt?_eq_some_iff]
  constructor
  · rintro ⟨_, rfl, _, _, ⟨rfl, hclass⟩, _, rfl, heq⟩
    obtain ⟨rfl, rfl⟩ := Prod.mk.inj heq
    exact ⟨rfl, hclass⟩
  · rintro ⟨rfl, hclass⟩
    exact ⟨_, rfl, _, _, ⟨rfl, hclass⟩, inner, rfl, rfl⟩

theorem closingTag?_length {cs rest : List Char} (h : closingTag? cs = some rest) :
    rest.length < cs.length := by
  rw [Text.dropPrefix?_eq_some_iff.1 h, List.length_append]
  exact Nat.lt_add_of_pos_left (by decide)

theorem openingTag?_length {cs className inner : List Char}
    (h : openingTag? cs = some (className, inner)) : inner.length < cs.length := by
  rw [(openingTag?_eq_some_iff.1 h).1]
  simp only [List.length_append, List.length_cons]
  omega

/-- The text up to the next tag. -/
def upToTag (cs : List Char) : String := String.ofList (cs.takeWhile (· ≠ '<'))

/-- Reads a text in front of which `depth` spans are open. -/
def readMarkup (depth : Nat) : List Char → Option (List Mark)
  | [] => if depth = 0 then some [] else none
  | c :: cs =>
    if c = '<' then
      match hclosing : closingTag? (c :: cs) with
      | some rest => if depth = 0 then none else readMarkup (depth - 1) rest
      | none =>
        match hopening : openingTag? (c :: cs) with
        | some (className, inner) =>
          (readMarkup (depth + 1) inner).map
            (.opened (String.ofList className) (upToTag inner) :: ·)
        | none => none
    else (readMarkup depth cs).map fun marks => if depth = 0 then .outside c :: marks else marks
termination_by cs => cs.length
decreasing_by
  · exact closingTag?_length hclosing
  · exact openingTag?_length hopening
  · exact Nat.lt_succ_self _

/-! ## One step -/

theorem readMarkup_cons {c : Char} (hc : c ≠ '<') (depth : Nat) (cs : List Char) :
    readMarkup depth (c :: cs) =
      (readMarkup depth cs).map fun marks => if depth = 0 then .outside c :: marks else marks := by
  rw [readMarkup, if_neg hc]

theorem readMarkup_closing (depth : Nat) (rest : List Char) :
    readMarkup (depth + 1) ("</span>".toList ++ rest) = readMarkup depth rest := by
  have hclosing : closingTag? ("</span>".toList ++ rest) = some rest :=
    Text.dropPrefix?_eq_some_iff.2 rfl
  show readMarkup (depth + 1) ('<' :: ("/span>".toList ++ rest)) = _
  rw [readMarkup, if_pos rfl]
  split
  · rename_i found hfound
    rw [show found = rest from Option.some.inj (hfound.symm.trans hclosing)]
    rfl
  · rename_i hnone
    cases hnone.symm.trans hclosing

theorem readMarkup_opening {className : List Char} (hclass : '\x22' ∉ className) (depth : Nat)
    (inner : List Char) :
    readMarkup depth ("<span class=\"".toList ++ (className ++ '\x22' :: '>' :: inner)) =
      (readMarkup (depth + 1) inner).map
        (.opened (String.ofList className) (upToTag inner) :: ·) := by
  have hopening : openingTag? ("<span class=\"".toList ++ (className ++ '\x22' :: '>' :: inner)) =
      some (className, inner) := openingTag?_eq_some_iff.2 ⟨rfl, hclass⟩
  show readMarkup depth ('<' :: ("span class=\"".toList ++ (className ++ '\x22' :: '>' :: inner))) =
    _
  rw [readMarkup, if_pos rfl]
  split
  · rename_i found hfound
    -- the tag goes on with `s`, and one that closes a span goes on with a slash
    have hslash : some 's' = some '/' :=
      congrArg (·[1]?) (Text.dropPrefix?_eq_some_iff.1 hfound)
    cases hslash
  · split
    · rename_i found hfound
      cases hfound.symm.trans hopening
      rfl
    · rename_i hnone
      cases hnone.symm.trans hopening

/-! ## Texts in front of any others -/

/-- With `depth` spans open, the text is read as `marks`, whatever follows it. -/
def Reads (depth : Nat) (text : List Char) (marks : List Mark) : Prop :=
  ∀ rest, readMarkup depth (text ++ rest) = (readMarkup depth rest).map (marks ++ ·)

namespace Reads

theorem nil (depth : Nat) : Reads depth [] [] := fun _ => Option.map_id'.symm

theorem append {depth : Nat} {text other : List Char} {marks others : List Mark}
    (h : Reads depth text marks) (hother : Reads depth other others) :
    Reads depth (text ++ other) (marks ++ others) := by
  intro rest
  rw [List.append_assoc, h, hother, Option.map_map]
  congr 1
  funext last
  exact (List.append_assoc _ _ _).symm

/-- The whole text, with all its spans closed. -/
theorem readMarkup {text : List Char} {marks : List Mark} (h : Reads 0 text marks) :
    readMarkup 0 text = some marks := by
  have hnil := h []
  rwa [List.append_nil, Relevance.readMarkup, if_pos rfl, Option.map_some, List.append_nil] at hnil

end Reads

theorem reads_tagFree_inside {text : List Char} (h : '<' ∉ text) (depth : Nat) :
    Reads (depth + 1) text [] := by
  induction text with
  | nil => exact .nil _
  | cons c cs ih =>
    rw [List.mem_cons, not_or] at h
    intro rest
    rw [List.cons_append, readMarkup_cons (Ne.symm h.1), ih h.2 rest, Option.map_map]
    rfl

theorem reads_tagFree_outside {text : List Char} (h : '<' ∉ text) :
    Reads 0 text (text.map .outside) := by
  induction text with
  | nil => exact .nil _
  | cons c cs ih =>
    rw [List.mem_cons, not_or] at h
    intro rest
    rw [List.cons_append, readMarkup_cons (Ne.symm h.1), ih h.2 rest, Option.map_map]
    rfl

/-! ## Spans -/

theorem toList_span (className content : String) :
    (span className content).toList = "<span class=\"".toList ++
      (className.toList ++ '\x22' :: '>' :: (content.toList ++ "</span>".toList)) := by
  simp only [span, String.toList_append, List.append_assoc]
  rfl

theorem upToTag_append_closing (content rest : List Char) :
    upToTag (content ++ ("</span>".toList ++ rest)) = upToTag content :=
  congrArg String.ofList (takeWhile_append_stop content rfl _)

theorem upToTag_tagFree {text : String} (h : TagFree text) : upToTag text.toList = text := by
  have hall : ∀ c ∈ text.toList, decide (c ≠ '<') = true :=
    fun c hc => decide_eq_true fun hc' => h (hc' ▸ hc)
  have htake : (text.toList ++ []).takeWhile (· ≠ '<') = text.toList ++ [] :=
    List.takeWhile_append_of_pos hall
  rw [List.append_nil] at htake
  rw [upToTag, htake, String.ofList_toList]

theorem reads_span {depth : Nat} {className content : String} {marks : List Mark}
    (hclass : '\x22' ∉ className.toList) (h : Reads (depth + 1) content.toList marks) :
    Reads depth (span className content).toList
      (.opened className (upToTag content.toList) :: marks) := by
  intro rest
  rw [toList_span, List.append_assoc, List.append_assoc, List.cons_append, List.cons_append,
    List.append_assoc, readMarkup_opening hclass, upToTag_append_closing, h, readMarkup_closing,
    Option.map_map, String.ofList_toList]
  rfl

/-! ## Segments -/

namespace SegmentKind

/-- The class of the spans of segments of a kind. -/
def className (kind : SegmentKind) : String := "relevance-segment rsg-" ++ kind.code

theorem quote_not_mem_className (kind : SegmentKind) : '\x22' ∉ kind.className.toList := by
  cases kind <;> decide

theorem className_ne_precondition (kind : SegmentKind) :
    kind.className ≠ "relevance-precondition" := by
  cases kind <;> decide

end SegmentKind

def Segment.mark (segment : Segment) : Mark := .opened segment.kind.className segment.content

theorem reads_segment {segment : Segment} (h : TagFree segment.content) (depth : Nat) :
    Reads depth segment.text.toList [segment.mark] := by
  have hread := reads_span segment.kind.quote_not_mem_className (reads_tagFree_inside h depth)
  rwa [upToTag_tagFree h] at hread

theorem reads_segments {segments : List Segment} (h : ∀ segment ∈ segments, TagFree segment.content)
    (depth : Nat) :
    Reads (depth + 1) (Text.joinWith " " (segments.map Segment.text)).toList
      (segments.map Segment.mark) := by
  induction segments with
  | nil => exact .nil _
  | cons segment segments ih =>
    obtain ⟨hsegment, hsegments⟩ := List.forall_mem_cons.1 h
    cases segments with
    | nil => exact reads_segment hsegment _
    | cons next others =>
      rw [List.map_cons, List.map_cons, List.map_cons, Text.joinWith, String.toList_append,
        String.toList_append, List.append_assoc]
      have hspace : Reads (depth + 1) " ".toList [] := reads_tagFree_inside (by decide) depth
      exact (reads_segment hsegment _).append (hspace.append (ih hsegments))

/-! ## Fragments -/

namespace Precondition

/-- No tag begins in the parts of the condition. -/
structure IsTagFree (precondition : Precondition) : Prop where
  before : TagFree precondition.before
  segments : ∀ segment ∈ precondition.segments, TagFree segment.content
  after : TagFree precondition.after

end Precondition

theorem reads_precondition {precondition : Precondition} (h : precondition.IsTagFree)
    (depth : Nat) :
    ∃ content, Reads depth precondition.text.toList
      (.opened "relevance-precondition" content :: precondition.segments.map Segment.mark) := by
  refine ⟨_, reads_span (by decide) ?_⟩
  rw [String.toList_append, String.toList_append]
  have hbefore := reads_tagFree_inside h.before depth
  have hafter := reads_tagFree_inside h.after depth
  have hread := (hbefore.append (reads_segments h.segments depth)).append hafter
  rwa [List.nil_append, List.append_nil] at hread

namespace Fragment

def IsTagFree : Fragment → Prop
  | .plain text => TagFree text
  | .markup precondition => precondition.IsTagFree

/-- The segments of a fragment. -/
def segments : Fragment → List Segment
  | .plain _ => []
  | .markup precondition => precondition.segments

/-- What fragments show outside of all markup, the one in front of them being plain or not. -/
def plainAfter : Bool → List Fragment → String
  | _, [] => ""
  | true, .plain text :: rest => " " ++ text ++ plainAfter true rest
  | false, .plain text :: rest => text ++ plainAfter true rest
  | _, .markup _ :: rest => plainAfter false rest

end Fragment

namespace Mark

/-- The class and the text of a span, unless it is the span of a whole condition. -/
def segment? : Mark → Option (String × String)
  | .opened className content =>
    if className = "relevance-precondition" then none else some (className, content)
  | .outside _ => none

def outside? : Mark → Option Char
  | .opened _ _ => none
  | .outside c => some c

end Mark

theorem segment?_mark (segment : Segment) :
    segment.mark.segment? = some (segment.kind.className, segment.content) := by
  rw [Segment.mark, Mark.segment?, if_neg segment.kind.className_ne_precondition]

theorem filterMap_segment?_marks (segments : List Segment) :
    (segments.map Segment.mark).filterMap Mark.segment? =
      segments.map fun segment => (segment.kind.className, segment.content) := by
  induction segments with
  | nil => rfl
  | cons segment segments ih =>
    rw [List.map_cons, List.filterMap_cons_some (segment?_mark segment), ih, List.map_cons]

theorem filterMap_outside?_marks (segments : List Segment) :
    (segments.map Segment.mark).filterMap Mark.outside? = [] := by
  rw [List.filterMap_map]
  exact List.filterMap_eq_nil_iff.2 fun _ _ => rfl

theorem filterMap_segment?_outside (cs : List Char) :
    (cs.map Mark.outside).filterMap Mark.segment? = [] := by
  rw [List.filterMap_map]
  exact List.filterMap_eq_nil_iff.2 fun _ _ => rfl

theorem filterMap_outside?_outside (cs : List Char) :
    (cs.map Mark.outside).filterMap Mark.outside? = cs := by
  rw [List.filterMap_map]
  exact List.filterMap_some

/-- The text is read, and in this order it holds the segments, and outside of all spans the plain
text. -/
def Shows (text : List Char) (segments : List Segment) (plain : List Char) : Prop :=
  ∃ marks, Reads 0 text marks ∧
    marks.filterMap Mark.segment? =
      segments.map (fun segment => (segment.kind.className, segment.content)) ∧
    marks.filterMap Mark.outside? = plain

namespace Shows

theorem nil : Shows [] [] [] := ⟨[], .nil 0, rfl, rfl⟩

theorem append {text other : List Char} {segments others : List Segment}
    {plain plain' : List Char} (h : Shows text segments plain)
    (hother : Shows other others plain') :
    Shows (text ++ other) (segments ++ others) (plain ++ plain') := by
  obtain ⟨marks, hread, hsegments, hplain⟩ := h
  obtain ⟨marks', hread', hsegments', hplain'⟩ := hother
  refine ⟨marks ++ marks', hread.append hread', ?_, ?_⟩
  · rw [List.filterMap_append, hsegments, hsegments', List.map_append]
  · rw [List.filterMap_append, hplain, hplain']

theorem plain {text : String} (h : TagFree text) : Shows text.toList [] text.toList :=
  ⟨_, reads_tagFree_outside h, filterMap_segment?_outside _, filterMap_outside?_outside _⟩

theorem precondition {precondition : Precondition} (h : precondition.IsTagFree) :
    Shows precondition.text.toList precondition.segments [] := by
  obtain ⟨content, hread⟩ := reads_precondition h 0
  exact ⟨_, hread, filterMap_segment?_marks _, filterMap_outside?_marks _⟩

end Shows

theorem shows_concatAfter {fragments : List Fragment}
    (h : ∀ fragment ∈ fragments, fragment.IsTagFree) (spaced : Bool) :
    Shows (Fragment.concatAfter spaced fragments).toList (fragments.flatMap Fragment.segments)
      (Fragment.plainAfter spaced fragments).toList := by
  induction fragments generalizing spaced with
  | nil => exact .nil
  | cons fragment fragments ih =>
    obtain ⟨hfragment, hfragments⟩ := List.forall_mem_cons.1 h
    cases fragment with
    | markup precondition =>
      have hshows := (Shows.precondition hfragment).append (ih hfragments false)
      cases spaced <;> simpa only [Fragment.concatAfter, Fragment.plainAfter, List.flatMap_cons,
        Fragment.segments, String.toList_append, List.nil_append] using hshows
    | plain text =>
      have hshows := (Shows.plain hfragment).append (ih hfragments true)
      cases spaced with
      | false =>
        simpa only [Fragment.concatAfter, Fragment.plainAfter, List.flatMap_cons, Fragment.segments,
          String.toList_append] using hshows
      | true =>
        have hspace : Shows " ".toList [] " ".toList := .plain (by decide)
        simpa only [Fragment.concatAfter, Fragment.plainAfter, List.flatMap_cons, Fragment.segments,
          String.toList_append, List.nil_append, List.append_assoc] using hspace.append hshows

end Questionnaire.Relevance
