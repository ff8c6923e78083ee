import Mathlib.Data.List.Find
import Questionnaire.Proofs.Relevance.Tags
import Questionnaire.Proofs.Text.JoinedWords

/-!
# Visible texts

Who reads a condition sees no tags, and sees a space where the markup says `&nbsp;`. The labels of
a form may hold anything, also parts of tags. Still the visible text of a condition is put together
from those of its fragments, because no tag or `&nbsp;` reaches over the border of a fragment.

Main definitions:

* `visible`: the text without the tags of spans, with spaces for `&nbsp;`.
* `Seam`: nothing that is shown differently reaches over the border of two texts.
* `Fragment.shown`: what fragments show, one behind the other.

Results:

* `visible_append`: what is visible of two texts if nothing reaches over their border.
* `visible_text`: what is visible of a condition with its segments.
* `Fragment.visible_concat`: what is visible of fragments.
-/

namespace Questionnaire.Relevance

/-! ## What is shown -/

def SegmentKind.all : List SegmentKind :=
  [.question, .comparison, .answer, .notFound, .tail, .parenthesis, .connective]

theorem SegmentKind.mem_all (kind : SegmentKind) : kind ∈ all := by cases kind <;> decide

/-- The tag that opens a span of the class. -/
def openingTag (className : String) : List Char :=
  "<span class=\"".toList ++ className.toList ++ "\">".toList

/-- What is not shown as it is written, and what is shown in its place. -/
def replacements : List (List Char × List Char) :=
  ("&nbsp;".toList, [' ']) :: ("</span>".toList, []) ::
    (openingTag "relevance-precondition", []) ::
      SegmentKind.all.map fun kind => (openingTag kind.className, [])

/-- What the text begins with that is not shown as it is written. -/
def replaced? (cs : List Char) : Option (List Char × List Char) :=
  replacements.find? fun entry => entry.1.isPrefixOf cs

/-- The text as it is shown, but for its first `skip` characters. -/
def visibleFrom : Nat → List Char → List Char
  | _, [] => []
  | skip + 1, _ :: cs => visibleFrom skip cs
  | 0, c :: cs =>
    match replaced? (c :: cs) with
    | some (written, image) => image ++ visibleFrom (written.length - 1) cs
    | none => c :: visibleFrom 0 cs

/-- The text without the tags of spans, with spaces for `&nbsp;`. -/
def visible (cs : List Char) : List Char := visibleFrom 0 cs

theorem visibleFrom_append_of_length {skip : Nat} {front : List Char} (h : front.length = skip)
    (rest : List Char) : visibleFrom skip (front ++ rest) = visible rest := by
  induction front generalizing skip with
  | nil => subst h; rfl
  | cons c front ih => subst h; exact ih rfl

/-- Nothing in the table is the beginning of something else. A tag begins only with `<` and ends
only with `>`, and it has no period or quote in it. -/
theorem replacements_shape : ∀ entry ∈ replacements,
    (∀ other ∈ replacements, other.1.isPrefixOf entry.1 = true → other = entry) ∧
      entry.1 ≠ [] ∧ (entry.1.head? = some '<' ∨ ' ' ∉ entry.1) ∧
      ('<' ∉ entry.1.tail ∧ '.' ∉ entry.1.tail) ∧
      ('>' ∉ entry.1.dropLast ∧ '\x27' ∉ entry.1.dropLast) := by
  decide +kernel

theorem replaced?_append {entry : List Char × List Char} (hm : entry ∈ replacements)
    (rest : List Char) : replaced? (entry.1 ++ rest) = some entry := by
  have hprefix : entry.1 <+: entry.1 ++ rest := List.prefix_append _ _
  cases hfound : replaced? (entry.1 ++ rest) with
  | none => exact absurd (List.isPrefixOf_iff_prefix.2 hprefix) (List.find?_eq_none.1 hfound _ hm)
  | some other =>
    have hother := List.mem_of_find?_eq_some hfound
    have hfirst := List.find?_some hfound
    obtain h | h := List.prefix_or_prefix_of_prefix (List.isPrefixOf_iff_prefix.1 hfirst) hprefix
    · rw [(replacements_shape entry hm).1 other hother (List.isPrefixOf_iff_prefix.2 h)]
    · rw [(replacements_shape other hother).1 entry hm (List.isPrefixOf_iff_prefix.2 h)]

theorem visible_replaced {entry : List Char × List Char} (hm : entry ∈ replacements)
    (rest : List Char) : visible (entry.1 ++ rest) = entry.2 ++ visible rest := by
  have hfound := replaced?_append hm rest
  obtain ⟨c, written, hwritten⟩ := List.exists_cons_of_ne_nil (replacements_shape entry hm).2.1
  rw [hwritten, List.cons_append] at hfound ⊢
  rw [visible, visibleFrom, hfound]
  exact congrArg (entry.2 ++ ·) (visibleFrom_append_of_length (by rw [hwritten]; rfl) rest)

theorem visible_closing (rest : List Char) : visible ("</span>".toList ++ rest) = visible rest :=
  visible_replaced (List.mem_cons_of_mem _ List.mem_cons_self) rest

theorem visible_precondition (rest : List Char) :
    visible (openingTag "relevance-precondition" ++ rest) = visible rest :=
  visible_replaced (List.mem_cons_of_mem _ (List.mem_cons_of_mem _ List.mem_cons_self)) rest

theorem visible_className (kind : SegmentKind) (rest : List Char) :
    visible (openingTag kind.className ++ rest) = visible rest := by
  have hm : (openingTag kind.className, []) ∈
      SegmentKind.all.map fun kind => (openingTag kind.className, ([] : List Char)) :=
    List.mem_map.2 ⟨kind, kind.mem_all, rfl⟩
  exact visible_replaced (List.mem_cons_of_mem _ (List.mem_cons_of_mem _
    (List.mem_cons_of_mem _ hm))) rest

/-! ## Borders -/

/-- Nothing that is shown differently begins in the one text and ends in the other. -/
def Seam (cs rest : List Char) : Prop :=
  ∀ entry ∈ replacements, ∀ front back, entry.1 = front ++ back → front ≠ [] → back ≠ [] →
    front <:+ cs → ¬ back <+: rest

theorem Seam.of_suffix {cs suffix rest : List Char} (h : Seam cs rest) (hsuffix : suffix <:+ cs) :
    Seam suffix rest := fun entry hm front back hentry hfront hback hend =>
  h entry hm front back hentry hfront hback (hend.trans hsuffix)

theorem Seam.replaced?_append {c : Char} {cs rest : List Char} (h : Seam (c :: cs) rest) :
    replaced? (c :: cs ++ rest) = replaced? (c :: cs) := by
  refine List.find?_congr fun entry hm => ?_
  rw [Bool.eq_iff_iff, List.isPrefixOf_iff_prefix, List.isPrefixOf_iff_prefix]
  refine ⟨fun hprefix => ?_, fun hprefix => hprefix.trans (List.prefix_append _ _)⟩
  obtain hprefix' | ⟨back, hback⟩ :=
    List.prefix_or_prefix_of_prefix hprefix (List.prefix_append (c :: cs) rest)
  · exact hprefix'
  · by_cases hnil : back = []
    · exact ⟨[], by rw [← hback, hnil, List.append_nil, List.append_nil]⟩
    · rw [← hback, List.prefix_append_right_inj] at hprefix
      exact absurd hprefix
        (h entry hm _ back hback.symm (List.cons_ne_nil _ _) hnil (List.suffix_refl _))

theorem visibleFrom_append {skip : Nat} {cs rest : List Char} (h : Seam cs rest)
    (hskip : skip ≤ cs.length) :
    visibleFrom skip (cs ++ rest) = visibleFrom skip cs ++ visible rest := by
  induction cs generalizing skip with
  | nil =>
    obtain rfl := Nat.le_zero.1 hskip
    rfl
  | cons c cs ih =>
    have hcs : Seam cs rest := h.of_suffix (List.suffix_cons c cs)
    cases skip with
    | succ skip => exact ih hcs (Nat.le_of_succ_le_succ hskip)
    | zero =>
      rw [List.cons_append, visibleFrom, visibleFrom, ← List.cons_append, h.replaced?_append]
      cases hfound : replaced? (c :: cs) with
      | none =>
        exact congrArg (List.cons c) (ih hcs (Nat.zero_le _))
      | some entry =>
        obtain ⟨written, image⟩ := entry
        have hwritten : written.length ≤ cs.length + 1 := by
          have := List.find?_some hfound
          exact (List.isPrefixOf_iff_prefix.1 this).length_le
        dsimp only
        rw [ih hcs (by omega), List.append_assoc]

theorem visible_append {cs rest : List Char} (h : Seam cs rest) :
    visible (cs ++ rest) = visible cs ++ visible rest :=
  visibleFrom_append h (Nat.zero_le _)

/-! ## Borders that nothing crosses -/

theorem Seam.nil (cs : List Char) : Seam cs [] := fun _ _ _ _ _ _ hback _ hprefix =>
  hback (List.prefix_nil.1 hprefix)

/-- Nothing ends behind a character with which everything begins. -/
theorem Seam.of_head {c : Char} (hc : ∀ entry ∈ replacements, c ∉ entry.1.tail)
    (cs rest : List Char) : Seam cs (c :: rest) := by
  intro entry hm front back hentry hfront hback _ hprefix
  obtain ⟨first, front, rfl⟩ := List.exists_cons_of_ne_nil hfront
  obtain ⟨d, back, rfl⟩ := List.exists_cons_of_ne_nil hback
  obtain ⟨rfl, -⟩ := List.cons_prefix_cons.1 hprefix
  refine hc entry hm ?_
  rw [hentry]
  exact List.mem_append_right front List.mem_cons_self

/-- Nothing begins in front of a character with which everything ends. -/
theorem Seam.of_last {c : Char} (hc : ∀ entry ∈ replacements, c ∉ entry.1.dropLast)
    {cs : List Char} (hcs : cs.getLast? = some c) (rest : List Char) : Seam cs rest := by
  intro entry hm front back hentry hfront hback hsuffix _
  refine hc entry hm ?_
  have hlast : front.getLast? = some c := by
    obtain ⟨before, rfl⟩ := hsuffix
    rwa [List.getLast?_append, List.getLast?_eq_some_getLast hfront, Option.some_or,
      ← List.getLast?_eq_some_getLast] at hcs
  rw [hentry, List.dropLast_append_of_ne_nil hback]
  exact List.mem_append_left _ (List.mem_of_getLast? hlast)

/-- A space in a tag only ends what begins with `<`. -/
theorem Seam.of_tagFree {cs : List Char} (h : '<' ∉ cs) (rest : List Char) :
    Seam cs (' ' :: rest) := by
  intro entry hm front back hentry hfront hback hsuffix hprefix
  obtain ⟨first, front, rfl⟩ := List.exists_cons_of_ne_nil hfront
  obtain ⟨d, back, rfl⟩ := List.exists_cons_of_ne_nil hback
  obtain ⟨rfl, -⟩ := List.cons_prefix_cons.1 hprefix
  obtain hhead | hspace := (replacements_shape entry hm).2.2.1
  · rw [hentry] at hhead
    cases hhead
    exact h (hsuffix.subset List.mem_cons_self)
  · rw [hentry] at hspace
    exact hspace (List.mem_append_right _ List.mem_cons_self)

theorem Seam.less (cs rest : List Char) : Seam cs ('<' :: rest) :=
  .of_head (fun entry hm => (replacements_shape entry hm).2.2.2.1.1) cs rest

theorem Seam.period (cs rest : List Char) : Seam cs ('.' :: rest) :=
  .of_head (fun entry hm => (replacements_shape entry hm).2.2.2.1.2) cs rest

theorem Seam.greater {cs : List Char} (h : cs.getLast? = some '>') (rest : List Char) :
    Seam cs rest :=
  .of_last (fun entry hm => (replacements_shape entry hm).2.2.2.2.1) h rest

theorem Seam.quote {cs : List Char} (h : cs.getLast? = some '\x27') (rest : List Char) :
    Seam cs rest :=
  .of_last (fun entry hm => (replacements_shape entry hm).2.2.2.2.2) h rest

/-! ## Markup -/

theorem visible_append_closing (cs rest : List Char) :
    visible (cs ++ ("</span>".toList ++ rest)) = visible cs ++ visible rest := by
  have hseam : Seam cs ("</span>".toList ++ rest) := .less cs ("/span>".toList ++ rest)
  rw [visible_append hseam, visible_closing]

/-- What is visible of a segment. -/
def Segment.seen (segment : Segment) : List Char := visible segment.content.toList

theorem toList_span_eq (className content : String) :
    (span className content).toList =
      openingTag className ++ (content.toList ++ "</span>".toList) := by
  have htag : openingTag className =
      "<span class=\"".toList ++ className.toList ++ "\">".toList := rfl
  simp only [span, htag, String.toList_append, List.append_assoc]

theorem visible_segment_append (segment : Segment) (rest : List Char) :
    visible (segment.text.toList ++ rest) = segment.seen ++ visible rest := by
  have htext : segment.text.toList = openingTag segment.kind.className ++
      (segment.content.toList ++ "</span>".toList) := toList_span_eq _ _
  rw [htext, List.append_assoc, List.append_assoc, visible_className, visible_append_closing,
    Segment.seen]

/-- Segments are shown with spaces between them. -/
theorem visible_segments_append (segments : List Segment) (rest : List Char) :
    visible ((Text.joinWith " " (segments.map Segment.text)).toList ++ rest) =
      [' '].intercalate (segments.map Segment.seen) ++ visible rest := by
  induction segments with
  | nil => rfl
  | cons segment segments ih =>
    cases segments with
    | nil => exact (visible_segment_append segment rest).trans (by simp)
    | cons next segments =>
      have hspace (cs : List Char) : visible (" ".toList ++ cs) = [' '] ++ visible cs := rfl
      rw [List.map_cons, List.map_cons, Text.toList_joinWith_cons_cons, List.append_assoc,
        List.append_assoc, visible_segment_append, hspace, ← List.map_cons, ih, List.map_cons,
        List.map_cons, List.map_cons, List.intercalate_cons_cons]
      simp only [List.append_assoc]

theorem exists_segments_eq_cons {segments : List Segment} (h : segments ≠ []) :
    ∃ cs, (Text.joinWith " " (segments.map Segment.text)).toList = '<' :: cs := by
  obtain ⟨segment, segments, rfl⟩ := List.exists_cons_of_ne_nil h
  cases segments with
  | nil => exact ⟨_, toList_span_eq _ _⟩
  | cons next segments =>
    rw [List.map_cons, List.map_cons, Text.toList_joinWith_cons_cons, Segment.text, toList_span_eq]
    exact ⟨_, rfl⟩

/-- A condition shows its segments, and what stands around them. -/
theorem visible_text {precondition : Precondition} (h : precondition.segments ≠ []) :
    visible precondition.text.toList =
      visible precondition.before.toList
        ++ [' '].intercalate (precondition.segments.map Segment.seen)
        ++ visible precondition.after.toList := by
  have hafter : visible (precondition.after.toList ++ "</span>".toList) =
      visible precondition.after.toList := by
    have hclosing := visible_append_closing precondition.after.toList []
    have hnil : visible [] = [] := rfl
    rwa [List.append_nil, hnil, List.append_nil] at hclosing
  have hbefore (rest : List Char) : Seam precondition.before.toList
      ((Text.joinWith " " (precondition.segments.map Segment.text)).toList ++ rest) := by
    obtain ⟨cs, hcs⟩ := exists_segments_eq_cons h
    rw [hcs]
    exact .less _ _
  rw [Precondition.text, toList_span_eq, String.toList_append, String.toList_append,
    List.append_assoc, List.append_assoc, visible_precondition, visible_append (hbefore _),
    visible_segments_append, hafter, List.append_assoc]

theorem visible_ofSegments {segments : List Segment} (h : segments ≠ []) :
    visible (Precondition.ofSegments segments).text.toList =
      [' '].intercalate (segments.map Segment.seen) :=
  (visible_text h).trans (List.append_nil _)

/-! ## Fragments -/

namespace Fragment

def text : Fragment → String
  | .plain text => text
  | .markup precondition => precondition.text

/-- What is visible of a fragment. -/
def seen (fragment : Fragment) : List Char := visible fragment.text.toList

/-- What stands between two fragments. -/
def gap : Fragment → Fragment → List Char
  | .plain _, .plain _ => [' ']
  | _, _ => []

/-- What fragments show, one behind the other. -/
def shown : List Fragment → List Char
  | [] => []
  | [fragment] => fragment.seen
  | fragment :: next :: rest => fragment.seen ++ gap fragment next ++ shown (next :: rest)

/-- The fragment does not end inside a tag. -/
def IsSealed : Fragment → Prop
  | .plain text => TagFree text ∨ text.toList.getLast? = some '\x27'
  | .markup _ => True

theorem concat_singleton (fragment : Fragment) : concat [fragment] = fragment.text := by
  cases fragment with
  | plain text => exact String.append_empty
  | markup precondition => exact String.append_empty

theorem concat_cons_cons (fragment next : Fragment) (rest : List Fragment) :
    (concat (fragment :: next :: rest)).toList =
      fragment.text.toList ++ (gap fragment next ++ (concat (next :: rest)).toList) := by
  cases fragment <;> cases next <;> simp [concat, concatAfter, text, gap]

theorem getLast?_text_markup (precondition : Precondition) :
    (markup precondition).text.toList.getLast? = some '>' := by
  rw [text, Precondition.text, span, String.toList_append, List.getLast?_append]
  rfl

theorem exists_concat_markup (precondition : Precondition) (rest : List Fragment) :
    ∃ cs, (concat (markup precondition :: rest)).toList = '<' :: cs := by
  rw [concat, concatAfter, Precondition.text, String.toList_append, toList_span]
  exact ⟨_, rfl⟩

/-- A fragment that does not end inside a tag has a border to the next one. -/
theorem IsSealed.seam {fragment : Fragment} (h : fragment.IsSealed) (next : Fragment)
    (rest : List Fragment) :
    Seam fragment.text.toList (gap fragment next ++ (concat (next :: rest)).toList) := by
  cases fragment with
  | markup precondition => exact .greater (getLast?_text_markup _) _
  | plain text =>
    obtain htagFree | hquote := h
    · cases next with
      | plain other => exact .of_tagFree htagFree _
      | markup precondition =>
        obtain ⟨cs, hcs⟩ := exists_concat_markup precondition rest
        rw [hcs]
        exact .less _ _
    · exact .quote hquote _

theorem visible_gap_append (fragment next : Fragment) (cs : List Char) :
    visible (gap fragment next ++ cs) = gap fragment next ++ visible cs := by
  cases fragment <;> cases next <;> rfl

/-- What is visible of fragments is what they show, one behind the other. -/
theorem visible_concat {fragments : List Fragment}
    (h : ∀ fragment ∈ fragments, fragment.IsSealed) :
    visible (concat fragments).toList = shown fragments := by
  fun_induction shown fragments with
  | case1 => rfl
  | case2 fragment => rw [concat_singleton, seen]
  | case3 fragment next rest ih =>
    obtain ⟨hfragment, hrest⟩ := List.forall_mem_cons.1 h
    rw [concat_cons_cons, visible_append (hfragment.seam next rest), visible_gap_append, ih hrest,
      seen, List.append_assoc]

end Fragment

end Questionnaire.Relevance
