import Questionnaire.Relevance.Phrasing

/-!
# Operators in finished conditions

A finished condition splits around every comparison of a question with a literal: what stands in
front of it and what stands behind it are worded without regard to it. So two conditions that
differ in one operator only read alike exactly when the wording of that comparison leaves the
operator out. It does so for the truth values of calculations, and nowhere else.

Results:

* `pieces_append_reference`: no piece reaches over a reference behind it.
* `render_comparison`: the text splits around a comparison.
* `render_operator_eq_iff`: when two operators read alike.
-/

namespace Questionnaire.Relevance

/-! ## Splitting -/

theorem takeWhile_append_stop {α : Type} {p : α → Bool} (front : List α) {stop : α}
    (hstop : p stop = false) (back : List α) :
    (front ++ stop :: back).takeWhile p = front.takeWhile p := by
  induction front with
  | nil => simp [hstop]
  | cons first front ih =>
    cases h : p first with
    | false => simp [h]
    | true => simp [h, ih]

theorem dropWhile_append_stop {α : Type} {p : α → Bool} (front : List α) {stop : α}
    (hstop : p stop = false) (back : List α) :
    (front ++ stop :: back).dropWhile p = front.dropWhile p ++ stop :: back := by
  induction front with
  | nil => simp [hstop]
  | cons first front ih =>
    cases h : p first with
    | false => simp [h]
    | true => simp [h, ih]

/-- A piece that begins in front of a reference ends there at the latest. -/
theorem pieces_append_reference (front : List Token) (question : String) (back : List Token) :
    pieces (front ++ .reference question :: back) =
      pieces front ++ pieces (.reference question :: back) := by
  fun_induction pieces front with
  | case1 => rfl
  | case2 name operator value rest ih =>
    rw [List.cons_append, List.cons_append, List.cons_append, pieces, ih, List.cons_append]
  | case3 name rest hrest ih =>
    -- the two tokens behind `name` are those of `rest`, or the reference is among them
    have hback : ∀ operator value rest', rest ++ .reference question :: back =
        .comparison operator :: .literal value :: rest' → False := by
      intro operator value rest' h
      match rest with
      | [] => cases h
      | [token] => simp at h
      | first :: second :: others =>
        simp only [List.cons_append, List.cons.injEq] at h
        exact hrest operator value others (by rw [h.1, h.2.1])
    rw [List.cons_append, pieces.eq_3 _ _ hback, takeWhile_append_stop rest rfl,
      dropWhile_append_stop rest rfl, ih, List.cons_append]
  | case4 token rest hcomparison hreference ih =>
    rw [List.cons_append, pieces.eq_4 _ _ (fun name _ _ _ h _ => hreference name h) hreference, ih,
      List.cons_append]

namespace Fragment

/-- Markup separates the texts around it. -/
theorem concatAfter_append_markup (spaced : Bool) (front : List Fragment)
    (precondition : Precondition) (back : List Fragment) :
    concatAfter spaced (front ++ .markup precondition :: back) =
      concatAfter spaced front ++ precondition.text ++ concat back := by
  induction front generalizing spaced with
  | nil => simp [concatAfter, concat]
  | cons first front ih =>
    cases first with
    | plain text => cases spaced <;> simp [concatAfter, ih, String.append_assoc]
    | markup other => simp [concatAfter, ih, String.append_assoc]

end Fragment

namespace Reader

/-- A finished text splits around every comparison of a question with a literal. -/
theorem render_comparison (reader : Reader) (front : List Token) (question : String)
    (operator : Comparison) (value : String) (back : List Token) :
    reader.render .connectives
        (front ++ [.reference question, .comparison operator, .literal value] ++ back) =
      reader.render .connectives front
        ++ (Precondition.ofSegments (reader.comparisonSegments question operator value)).text
        ++ reader.render .connectives back := by
  have hpieces : pieces (front ++ [.reference question, .comparison operator, .literal value]
      ++ back) = pieces front ++ .comparison question operator value :: pieces back := by
    rw [List.append_assoc]
    show pieces (front ++ .reference question :: (.comparison operator :: .literal value :: back)) =
      _
    rw [pieces_append_reference, pieces]
  unfold render
  rw [hpieces, List.map_append, List.map_cons]
  exact Fragment.concatAfter_append_markup false _ _ _

/-! ## Truth values -/

/-- The comparison is told as the truth value of a calculation: the first question with the name is
a calculation whose name starts with `is`, and it is compared with `0` or `1`. -/
def TellsTruth (reader : Reader) (name value : String) : Prop :=
  reader.options.calculationsAsBoolean = true ∧ (value = "0" ∨ value = "1") ∧
    ∃ question, reader.items.question? name = some question ∧ question.type.type = .calculate ∧
      (Text.dropPrefix? "is".toList (Text.smallLetters question.name.toList)).isSome = true

theorem truthValue?_isSome_iff (value : String) :
    (truthValue? value).isSome = true ↔ value = "0" ∨ value = "1" := by
  unfold truthValue?
  by_cases h0 : value = "0"
  · simp [h0]
  · by_cases h1 : value = "1"
    · simp [h1]
    · simp [h0, h1]

theorem isBoolean_iff (reader : Reader) (question : Question) :
    reader.isBoolean question = true ↔
      reader.options.calculationsAsBoolean = true ∧ question.type.type = .calculate ∧
        (Text.dropPrefix? "is".toList (Text.smallLetters question.name.toList)).isSome = true := by
  simp [isBoolean, and_assoc]

/-- A truth value is told without the operator. -/
theorem comparisonSegments_of_tellsTruth {reader : Reader} {name value : String}
    (h : reader.TellsTruth name value) (operator other : Comparison) :
    reader.comparisonSegments name operator value = reader.comparisonSegments name other value := by
  obtain ⟨hoption, hvalue, question, hquestion, htype, hname⟩ := h
  have hanswers : question.type.type.requiresAnswers = false := by rw [htype]; rfl
  have hboolean : reader.isBoolean question = true :=
    (isBoolean_iff reader question).2 ⟨hoption, htype, hname⟩
  obtain ⟨truth, htruth⟩ := Option.isSome_iff_exists.1 ((truthValue?_isSome_iff value).2 hvalue)
  simp [comparisonSegments, hquestion, hanswers, hboolean, htruth]

/-- Everything else is told with the operator, between two segments that do not depend on it. -/
theorem comparisonSegments_of_not_tellsTruth {reader : Reader} {name value : String}
    (h : ¬ reader.TellsTruth name value) :
    ∃ first last, ∀ operator, reader.comparisonSegments name operator value =
      [first, ⟨.comparison, reader.register.comparison operator⟩, last] := by
  cases hquestion : reader.items.question? name with
  | none =>
    exact ⟨questionNotFound name, answerNotFound value, fun operator => by
      simp [comparisonSegments, hquestion]⟩
  | some question =>
    cases hanswers : question.type.type.requiresAnswers with
    | true =>
      exact ⟨reader.questionLabel name question, reader.answerSegment question value,
        fun operator => by simp [comparisonSegments, hquestion, hanswers]⟩
    | false =>
      refine ⟨reader.questionLabel name question, ⟨.answer, value⟩, fun operator => ?_⟩
      have hcase : reader.isBoolean question = false ∨ truthValue? value = none := by
        cases hboolean : reader.isBoolean question with
        | false => exact .inl rfl
        | true =>
          obtain ⟨hoption, htype, hname⟩ := (isBoolean_iff reader question).1 hboolean
          refine .inr (Option.not_isSome_iff_eq_none.1 fun hsome => h ?_)
          exact ⟨hoption, (truthValue?_isSome_iff value).1 hsome, question, hquestion, htype, hname⟩
      rcases hcase with hboolean | htruth
      · simp [comparisonSegments, hquestion, hanswers, hboolean]
      · simp [comparisonSegments, hquestion, hanswers, htruth]

/-! ## Operators -/

theorem ofSegments_text_injective {first last : Segment} {words others : String}
    (h : (Precondition.ofSegments [first, ⟨.comparison, words⟩, last]).text =
      (Precondition.ofSegments [first, ⟨.comparison, others⟩, last]).text) : words = others := by
  simp only [Precondition.text, Precondition.ofSegments, List.map_cons, List.map_nil, Text.joinWith,
    span, Segment.text, String.append_assoc, String.append_right_inj] at h
  simpa only [← String.append_assoc, String.append_left_inj] using h

/-- Two conditions that differ in the operator of one comparison read alike only if that
comparison is told as a truth value. -/
theorem render_operator_eq_iff (reader : Reader) (front back : List Token)
    (question value : String) (operator other : Comparison) :
    reader.render .connectives
          (front ++ [.reference question, .comparison operator, .literal value] ++ back) =
        reader.render .connectives
          (front ++ [.reference question, .comparison other, .literal value] ++ back) ↔
      operator = other ∨ reader.TellsTruth question value := by
  rw [render_comparison, render_comparison, String.append_left_inj, String.append_right_inj]
  constructor
  · intro h
    by_cases ht : reader.TellsTruth question value
    · exact .inr ht
    · obtain ⟨first, last, hsegments⟩ := comparisonSegments_of_not_tellsTruth ht
      rw [hsegments, hsegments] at h
      exact .inl (Register.comparison_injective (ofSegments_text_injective h))
  · rintro (rfl | ht)
    · rfl
    · rw [comparisonSegments_of_tellsTruth ht operator other]

/-! ## A calculation -/

/-- A calculation with the given name, without label and answers. -/
def calculation (name : String) : Question where
  type := ⟨.calculate, none⟩
  typeText := "calculate"
  name := name
  label := .empty
  labelFull := .empty
  hint := .empty
  ageGroup := none
  answers := []
  condition := .ofSource none
  choiceFilter := none
  details := ⟨none, none, none, none, none, none, .empty, none⟩
  warnings := []

/-- A calculation that is `1` and one that is not `1` read the same. -/
theorem render_equal_notEqual_truth :
    ¬ ∀ (reader : Reader) (front back : List Token) (question value : String)
      (operator other : Comparison), operator ≠ other →
        reader.render .connectives
            (front ++ [.reference question, .comparison operator, .literal value] ++ back) ≠
          reader.render .connectives
            (front ++ [.reference question, .comparison other, .literal value] ++ back) := by
  intro h
  let reader : Reader :=
    ⟨.question (calculation "is_adult") .nil, Language.ofLabel "English", {}⟩
  have htruth : reader.TellsTruth "is_adult" "1" :=
    ⟨rfl, .inr rfl, calculation "is_adult", by decide, rfl, by decide⟩
  refine h reader [] [] "is_adult" "1" .equal .notEqual (by decide) ?_
  rw [render_comparison, render_comparison,
    comparisonSegments_of_tellsTruth htruth .equal .notEqual]

end Reader

end Questionnaire.Relevance
