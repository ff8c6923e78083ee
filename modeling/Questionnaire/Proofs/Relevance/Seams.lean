import Questionnaire.Proofs.Relevance.Segments
import Questionnaire.Proofs.Relevance.Sentence
import Questionnaire.Proofs.Relevance.TagFreeWording
import Questionnaire.Proofs.Relevance.VisibleText

/-!
# Where pieces meet

The pieces of a finished condition stand one behind the other. Between two plain tokens there is a
space, and a connective brings blanks of its own. Nothing else separates a question from what stands
next to it: the last word that is said about it runs into the next label, number or word, unless one
of the two brings a blank.

Main definitions:

* `PieceKind`, `Piece.kind`: what a piece is made of.
* `MeetInBlank`: two texts have a blank where they meet.
* `ShownApart`: two texts stand in a whole one with blanks between them.

Results:

* `Reader.visible_render`: what is visible of tokens in words.
* `text?_phrase_visible`: what is visible of an expression, and which of its pieces meet in a blank.
* `not_apart_olderThanTall`: not all of them do.
-/

namespace Questionnaire.Relevance

/-! ## Kinds of pieces -/

inductive PieceKind where
  /-- A comparison, or a question with what is said about it. -/
  | question
  | parenthesis
  | connective
  /-- Any other token on its own. -/
  | plain
  deriving DecidableEq

def Piece.kind : Piece → PieceKind
  | .comparison _ _ _ | .reference _ _ => .question
  | .single .openParen | .single .closeParen => .parenthesis
  | .single (.connective _) => .connective
  | .single _ => .plain

/-- A single token is no reference. -/
theorem mem_of_single_mem_pieces {tokens : List Token} {token : Token}
    (h : .single token ∈ pieces tokens) : token ∈ tokens ∧ ∀ name, token ≠ .reference name := by
  fun_induction pieces tokens with
  | case1 => cases h
  | case2 question operator value rest ih =>
    obtain ⟨hm, hne⟩ := ih (by simpa using h)
    exact ⟨by simp [hm], hne⟩
  | case3 question rest hcomparison ih =>
    obtain ⟨hm, hne⟩ := ih (by simpa using h)
    exact ⟨List.mem_cons_of_mem _ ((List.dropWhile_suffix _).subset hm), hne⟩
  | case4 first rest hcomparison hreference ih =>
    obtain heq | h := List.mem_cons.1 h
    · cases heq
      exact ⟨List.mem_cons_self, hreference⟩
    · obtain ⟨hm, hne⟩ := ih h
      exact ⟨List.mem_cons_of_mem _ hm, hne⟩

/-! ## Texts that meet -/

/-- The first text ends in a blank, or the second begins with one. -/
def MeetInBlank (first second : List Char) : Prop :=
  first.getLast?.any Text.isBlank = true ∨ second.head?.any Text.isBlank = true

instance (first second : List Char) : Decidable (MeetInBlank first second) :=
  inferInstanceAs (Decidable (_ ∨ _))

theorem meetInBlank_space (first second : List Char) : MeetInBlank (first ++ [' ']) second := by
  left
  rw [List.getLast?_concat]
  decide

namespace Reader

/-! ## What is visible of a piece -/

/-- What is visible of a piece. -/
def seen (reader : Reader) (piece : Piece) : List Char := (reader.fragment .connectives piece).seen

/-- What stands between two pieces: only plain tokens have a space between them. -/
def gap (first second : Piece) : List Char :=
  if first.kind = .plain ∧ second.kind = .plain then [' '] else []

/-- What pieces show, one behind the other. -/
def shown (reader : Reader) : List Piece → List Char
  | [] => []
  | [piece] => reader.seen piece
  | piece :: next :: rest => reader.seen piece ++ gap piece next ++ reader.shown (next :: rest)

theorem fragment_single (reader : Reader) {token : Token}
    (h : (Piece.single token).kind = .plain) :
    reader.fragment .connectives (.single token) =
      .plain (reader.tokenText .connectives token) := by
  cases token with
  | openParen | closeParen | connective => cases h
  | _ => rfl

theorem exists_plain_of_kind (reader : Reader) {piece : Piece} (h : piece.kind = .plain) :
    ∃ text, reader.fragment .connectives piece = .plain text := by
  cases piece with
  | comparison | reference => cases h
  | single token => exact ⟨_, reader.fragment_single h⟩

theorem exists_markup_of_kind (reader : Reader) {piece : Piece} (h : piece.kind ≠ .plain) :
    ∃ precondition, reader.fragment .connectives piece = .markup precondition := by
  cases piece with
  | comparison | reference => exact ⟨_, rfl⟩
  | single token =>
    cases token with
    | openParen | closeParen | connective => exact ⟨_, rfl⟩
    | _ => exact absurd rfl h

theorem gap_fragment (reader : Reader) (first second : Piece) :
    Fragment.gap (reader.fragment .connectives first) (reader.fragment .connectives second) =
      gap first second := by
  unfold gap
  by_cases hfirst : first.kind = .plain
  · obtain ⟨text, htext⟩ := reader.exists_plain_of_kind hfirst
    by_cases hsecond : second.kind = .plain
    · obtain ⟨other, hother⟩ := reader.exists_plain_of_kind hsecond
      rw [htext, hother, if_pos ⟨hfirst, hsecond⟩]
      rfl
    · obtain ⟨precondition, hmarkup⟩ := reader.exists_markup_of_kind hsecond
      rw [htext, hmarkup, if_neg fun h => hsecond h.2]
      rfl
  · obtain ⟨precondition, hmarkup⟩ := reader.exists_markup_of_kind hfirst
    rw [hmarkup, if_neg fun h => hfirst h.1]
    rfl

/-- A comparison shows its segments with spaces between them. -/
theorem seen_comparison (reader : Reader) (question : String) (operator : Comparison)
    (value : String) :
    reader.seen (.comparison question operator value) =
      [' '].intercalate
        ((reader.comparisonSegments question operator value).map Segment.seen) := by
  obtain ⟨others, hsegments⟩ := reader.comparisonSegments_eq_cons question operator value
  exact visible_ofSegments (by rw [hsegments]; exact List.cons_ne_nil _ _)

/-- A question shows its label, and what is said about it behind a space. -/
theorem seen_reference (reader : Reader) (question : String) (tail : List Token) :
    reader.seen (.reference question tail) =
      [' '].intercalate ((reader.referenceSegments question
        (Text.joinWith " " (tail.map (reader.tokenText .connectives)))).map Segment.seen) :=
  visible_ofSegments (List.cons_ne_nil _ _)

/-- A connective is shown with two spaces on either side. -/
theorem seen_connective (reader : Reader) (connective : Connective) :
    reader.seen (.single (.connective connective)) =
      ' ' :: ' ' :: (reader.register.connective connective).toList ++ [' ', ' '] := by
  refine (visible_text (List.cons_ne_nil _ _)).trans ?_
  show visible " ".toList ++ [' '].intercalate
    [visible ("&nbsp;" ++ reader.register.connective connective ++ "&nbsp;").toList] ++
      visible " ".toList = _
  cases reader.register <;> cases connective <;> decide +kernel

/-- No tag begins in a plain token, unless it is a literal, which ends in its quote. -/
theorem isSealed_fragment (reader : Reader) {tokens : List Token}
    (h : ∀ token ∈ tokens, token.IsNamed ∨ token.IsPlain) :
    ∀ piece ∈ pieces tokens, (reader.fragment .connectives piece).IsSealed := by
  intro piece hm
  by_cases hkind : piece.kind = .plain
  · cases piece with
    | comparison | reference => cases hkind
    | single token =>
      rw [reader.fragment_single hkind]
      obtain ⟨htoken, hreference⟩ := mem_of_single_mem_pieces hm
      obtain ⟨text, rfl | rfl⟩ | hplain := h token htoken
      · exact absurd rfl (hreference text)
      · right
        show (literalText text).toList.getLast? = _
        rw [literalText, String.toList_append, List.getLast?_append]
        rfl
      · exact .inl (reader.tagFree_tokenText hplain)
  · obtain ⟨precondition, hmarkup⟩ := reader.exists_markup_of_kind hkind
    rw [hmarkup]
    trivial

theorem shown_eq (reader : Reader) (parts : List Piece) :
    reader.shown parts = Fragment.shown (parts.map (reader.fragment .connectives)) := by
  fun_induction shown reader parts with
  | case1 => rfl
  | case2 piece => rfl
  | case3 piece next rest ih =>
    rw [List.map_cons, List.map_cons, Fragment.shown, gap_fragment, ih, List.map_cons]
    rfl

/-- What is visible of tokens in words is what their pieces show, one behind the other. -/
theorem visible_render (reader : Reader) {tokens : List Token}
    (h : ∀ token ∈ tokens, token.IsNamed ∨ token.IsPlain) :
    visible (reader.render .connectives tokens).toList = reader.shown (pieces tokens) := by
  rw [shown_eq]
  exact Fragment.visible_concat (List.forall_mem_map.2 (reader.isSealed_fragment h))

/-- Two pieces that follow each other are shown so. -/
theorem exists_shown_append (reader : Reader) (front : List Piece) (first second : Piece)
    (back : List Piece) :
    ∃ lead rest, reader.shown (front ++ first :: second :: back) =
      lead ++ (reader.seen first ++ gap first second ++ reader.seen second) ++ rest := by
  induction front with
  | nil =>
    cases back with
    | nil => exact ⟨[], [], by simp [shown]⟩
    | cons next back => exact ⟨[], gap second next ++ reader.shown (next :: back), by simp [shown]⟩
  | cons piece front ih =>
    obtain ⟨lead, rest, ih⟩ := ih
    obtain ⟨next, others, hnext⟩ : ∃ next others, front ++ first :: second :: back =
        next :: others := List.exists_cons_of_ne_nil (by simp)
    refine ⟨reader.seen piece ++ gap piece next ++ lead, rest, ?_⟩
    rw [List.cons_append, hnext, shown, ← hnext, ih]
    simp only [List.append_assoc]

/-! ## Which pieces meet in a blank -/

/-- What a connective shows begins and ends with a blank. -/
theorem isBlank_of_connective (reader : Reader) {piece : Piece} (h : piece.kind = .connective) :
    (reader.seen piece).head?.any Text.isBlank = true ∧
      (reader.seen piece).getLast?.any Text.isBlank = true := by
  obtain ⟨connective, rfl⟩ : ∃ connective, piece = .single (.connective connective) := by
    cases piece with
    | comparison | reference => cases h
    | single token =>
      cases token with
      | connective connective => exact ⟨connective, rfl⟩
      | _ => cases h
  have hblank : Text.isBlank ' ' = true := by decide
  rw [seen_connective, List.getLast?_append]
  exact ⟨hblank, hblank⟩

/-- Two pieces that are no parentheses meet in a blank if neither is a question, or one of them is
a connective. Otherwise the blank has to be part of what one of them shows. -/
theorem meetInBlank_iff (reader : Reader) {first second : Piece}
    (hfirst : first.kind ≠ .parenthesis) (hsecond : second.kind ≠ .parenthesis) :
    MeetInBlank (reader.seen first ++ gap first second) (reader.seen second) ↔
      (first.kind ≠ .question ∧ second.kind ≠ .question) ∨
        first.kind = .connective ∨ second.kind = .connective ∨
        MeetInBlank (reader.seen first) (reader.seen second) := by
  by_cases hplain : first.kind = .plain ∧ second.kind = .plain
  · rw [gap, if_pos hplain]
    exact iff_of_true (meetInBlank_space _ _) (.inl ⟨by simp [hplain.1], by simp [hplain.2]⟩)
  · rw [gap, if_neg hplain, List.append_nil]
    have hleft (h : first.kind = .connective) :
        MeetInBlank (reader.seen first) (reader.seen second) :=
      .inl (reader.isBlank_of_connective h).2
    have hright (h : second.kind = .connective) :
        MeetInBlank (reader.seen first) (reader.seen second) :=
      .inr (reader.isBlank_of_connective h).1
    refine ⟨fun h => .inr (.inr (.inr h)), ?_⟩
    rintro (⟨hfirst', hsecond'⟩ | h | h | h)
    · cases hkind : first.kind with
      | question => exact absurd hkind hfirst'
      | parenthesis => exact absurd hkind hfirst
      | connective => exact hleft hkind
      | plain =>
        cases hkind' : second.kind with
        | question => exact absurd hkind' hsecond'
        | parenthesis => exact absurd hkind' hsecond
        | connective => exact hright hkind'
        | plain => exact absurd ⟨hkind, hkind'⟩ hplain
    · exact hleft h
    · exact hright h
    · exact h

end Reader

/-! ## Expressions in words -/

theorem visible_sentence (text : String) :
    ∃ ending ∈ ["", "."],
      visible (sentence text).toList = visible text.toList ++ ending.toList := by
  unfold sentence
  split
  · exact ⟨"", by simp, (List.append_nil _).symm⟩
  · refine ⟨".", by simp, ?_⟩
    have hseam : Seam text.toList ".".toList := .period _ []
    rw [String.toList_append, visible_append hseam]
    rfl

/-- What is visible of an expression in each of its languages. -/
theorem exists_visible_phrase (items : Forest) {languages : List Language} (options : Options)
    {expression : String} {language : Language} (hworded : IsWorded expression)
    (hlanguage : language ∈ languages) :
    ∃ text, (phrase items languages options expression).text.text? language = some text ∧
      ∃ ending ∈ ["", "."], visible text.toList =
        (Reader.mk items language options).shown
          (pieces (reduced (tokenize (Text.trim expression)))) ++ ending.toList := by
  obtain ⟨ending, hending, hvisible⟩ := visible_sentence
    ((Reader.mk items language options).render .connectives
      (reduced (tokenize (Text.trim expression))))
  refine ⟨_, text?_phrase hworded hlanguage, ending, hending, ?_⟩
  rw [hvisible, Reader.visible_render]
  exact isNamed_or_isPlain_of_mem_reduced isNamed_or_isPlain_of_mem_tokenize

/-- An expression that is always relevant has no two pieces in a row without a parenthesis. -/
theorem kind_of_not_isWorded {expression : String} (h : ¬ IsWorded expression) :
    ∀ piece ∈ (pieces (reduced (tokenize (Text.trim expression)))).tail,
      piece.kind = .parenthesis := by
  obtain heq | heq := not_isWorded_iff.1 h
  · rw [heq]
    decide +kernel
  · rw [heq]
    decide +kernel

/-- What is visible of an expression in each of its languages is what its pieces show, with a space
between two plain tokens and nothing between others. Two pieces in a row, neither of them a
parenthesis, are separated by a blank exactly if neither is a question, or one is a connective, or
one of them brings a blank. -/
theorem text?_phrase_visible (items : Forest) {languages : List Language} (options : Options)
    (expression : String) {language : Language} (hlanguage : language ∈ languages) :
    let reader := Reader.mk items language options
    let parts := pieces (reduced (tokenize (Text.trim expression)))
    ∃ text, (phrase items languages options expression).text.text? language = some text ∧
      (IsWorded expression →
        ∃ ending ∈ ["", "."], visible text.toList = reader.shown parts ++ ending.toList) ∧
      ∀ front first second back, parts = front ++ first :: second :: back →
        first.kind ≠ .parenthesis → second.kind ≠ .parenthesis →
        (∃ lead rest, visible text.toList =
          lead ++ (reader.seen first ++ Reader.gap first second ++ reader.seen second) ++ rest) ∧
        (MeetInBlank (reader.seen first ++ Reader.gap first second) (reader.seen second) ↔
          (first.kind ≠ .question ∧ second.kind ≠ .question) ∨
            first.kind = .connective ∨ second.kind = .connective ∨
            MeetInBlank (reader.seen first) (reader.seen second)) := by
  intro reader parts
  by_cases hworded : IsWorded expression
  · obtain ⟨text, htext, ending, hending, hvisible⟩ :=
      exists_visible_phrase items options hworded hlanguage
    refine ⟨text, htext, fun _ => ⟨ending, hending, hvisible⟩, ?_⟩
    intro front first second back hparts hfirst hsecond
    refine ⟨?_, reader.meetInBlank_iff hfirst hsecond⟩
    obtain ⟨lead, rest, hshown⟩ := reader.exists_shown_append front first second back
    refine ⟨lead, rest ++ ending.toList, ?_⟩
    rw [hvisible, ← List.append_assoc, ← hshown, ← hparts]
  · refine ⟨alwaysRelevant, text?_phrase_of_not_isWorded hworded hlanguage,
      fun h => absurd h hworded, ?_⟩
    intro front first second back hparts _ hsecond
    have hm : second ∈ parts.tail := by
      rw [hparts]
      cases front <;> simp
    exact absurd (kind_of_not_isWorded hworded second hm) hsecond

/-! ## Two questions -/

/-- A survey that asks for two numbers. -/
def ageAndHeight : Reader :=
  let english := Language.ofLabel "English"
  let question (name label : String) : Question :=
    { Reader.calculation name with
      type := ⟨.integer, none⟩, typeText := "integer", label := .constant [english] label }
  ⟨.question (question "age" "Age") (.question (question "height" "Height") .nil), english, {}⟩

def olderThanTall : String := referenceText "age" ++ " > " ++ referenceText "height"

theorem pieces_olderThanTall :
    pieces (reduced (tokenize (Text.trim olderThanTall))) =
      [.reference "age" [.comparison .greater], .reference "height" []] := by
  decide +kernel

theorem seen_olderThanTall :
    ageAndHeight.seen (.reference "age" [.comparison .greater]) = "Age is greater than".toList ∧
      ageAndHeight.seen (.reference "height" []) = "Height".toList := by
  rw [Reader.seen_reference, Reader.seen_reference]
  decide +kernel

theorem shown_olderThanTall :
    ageAndHeight.shown [.reference "age" [.comparison .greater], .reference "height" []] =
      "Age is greater than".toList ++ "Height".toList := by
  rw [Reader.shown, Reader.shown, seen_olderThanTall.1, seen_olderThanTall.2]
  rfl

theorem not_meetInBlank_labels : ¬ MeetInBlank "Age is greater than".toList "Height".toList := by
  decide +kernel

theorem text?_phrase_visible_olderThanTall :
    ∃ text, (phrase ageAndHeight.items [ageAndHeight.language] ageAndHeight.options
        olderThanTall).text.text? ageAndHeight.language = some text ∧
      (∃ ending ∈ ["", "."], visible text.toList =
        "Age is greater than".toList ++ "Height".toList ++ ending.toList) ∧
      ¬ MeetInBlank (ageAndHeight.seen (.reference "age" [.comparison .greater]) ++
        Reader.gap (.reference "age" [.comparison .greater]) (.reference "height" []))
        (ageAndHeight.seen (.reference "height" [])) := by
  obtain ⟨text, htext, hvisible, hmeet⟩ :=
    text?_phrase_visible ageAndHeight.items ageAndHeight.options olderThanTall
      (List.mem_singleton.2 (Eq.refl ageAndHeight.language))
  obtain ⟨ending, hending, hvisible⟩ := hvisible (by decide)
  refine ⟨text, htext, ⟨ending, hending, ?_⟩, ?_⟩
  · rw [hvisible, pieces_olderThanTall]
    exact congrArg (· ++ ending.toList) shown_olderThanTall
  · have hiff := (hmeet [] _ _ [] pieces_olderThanTall (by decide) (by decide)).2
    refine mt hiff.1 ?_
    rw [show Reader.mk ageAndHeight.items ageAndHeight.language ageAndHeight.options =
      ageAndHeight from rfl, seen_olderThanTall.1, seen_olderThanTall.2]
    rintro (⟨hquestion, -⟩ | hconnective | hconnective | hmeet)
    · exact hquestion rfl
    · cases hconnective
    · cases hconnective
    · exact not_meetInBlank_labels hmeet

/-- Two texts stand in a whole one with a blank between them, and nothing but blanks. -/
def ShownApart (whole first second : List Char) : Prop :=
  ∃ lead gap rest, whole = lead ++ (first ++ gap ++ second) ++ rest ∧
    (∀ c ∈ gap, Text.isBlank c = true) ∧ MeetInBlank (first ++ gap) second

/-- Too little stands behind the two labels for them to be found apart at another place. -/
theorem not_apart_labels {ending : List Char} (hending : ending.length ≤ 1) :
    ¬ ShownApart ("Age is greater than".toList ++ "Height".toList ++ ending)
      "Age is greater than".toList "Height".toList := by
  rintro ⟨lead, gap, rest, hwhole, hgap, hmeet⟩
  have hlength := congrArg List.length hwhole
  simp only [List.length_append] at hlength
  cases lead with
  | nil =>
    rw [List.nil_append, List.append_assoc, List.append_assoc, List.append_assoc] at hwhole
    have hrest := List.append_cancel_left hwhole
    cases gap with
    | nil => exact not_meetInBlank_labels (by rwa [List.append_nil] at hmeet)
    | cons c gap =>
      -- the gap would begin with the first letter of the second label
      have hc : 'H' = c := (List.cons.inj hrest).1
      exact absurd (hgap c List.mem_cons_self) (by rw [← hc]; decide)
  | cons c lead =>
    have hlead : lead = [] := List.length_eq_zero_iff.1 (by rw [List.length_cons] at hlength; omega)
    subst hlead
    have hsecond : 'g' = 'A' := (List.cons.inj (List.cons.inj hwhole).2).1
    exact absurd hsecond (by decide)

/-- Not all pieces in a row are apart: one question that is compared with another reads as in
`Age is greater thanHeight`. -/
theorem not_apart_olderThanTall :
    ¬ ∀ (items : Forest) (languages : List Language) (options : Options) (expression : String)
      (language : Language) (text : String), language ∈ languages →
      (phrase items languages options expression).text.text? language = some text →
      ∀ front first second back,
        pieces (reduced (tokenize (Text.trim expression))) = front ++ first :: second :: back →
        first.kind ≠ .parenthesis → second.kind ≠ .parenthesis →
        ShownApart (visible text.toList) ((Reader.mk items language options).seen first)
          ((Reader.mk items language options).seen second) := by
  intro h
  have hworded : IsWorded olderThanTall := by decide
  have hlanguage : ageAndHeight.language ∈ [ageAndHeight.language] := List.mem_singleton.2 rfl
  obtain ⟨text, htext, ending, hending, hvisible⟩ :=
    exists_visible_phrase ageAndHeight.items ageAndHeight.options hworded hlanguage
  have hapart : ShownApart (visible text.toList)
      (ageAndHeight.seen (.reference "age" [.comparison .greater]))
      (ageAndHeight.seen (.reference "height" [])) :=
    h _ _ _ _ _ text hlanguage htext [] _ _ [] pieces_olderThanTall (by decide) (by decide)
  have hshown : visible text.toList =
      "Age is greater than".toList ++ "Height".toList ++ ending.toList := by
    rw [hvisible, pieces_olderThanTall]
    exact congrArg (· ++ ending.toList) shown_olderThanTall
  rw [hshown, seen_olderThanTall.1, seen_olderThanTall.2] at hapart
  have hlength : ∀ ending ∈ ["", "."], ending.toList.length ≤ 1 := by decide
  exact not_apart_labels (hlength ending hending) hapart

end Questionnaire.Relevance
