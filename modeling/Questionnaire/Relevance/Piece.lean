import Questionnaire.Relevance.Token

/-!
# Pieces of an expression

Tokens that are put into words together form a piece: a comparison of a question with a literal,
a reference with the tokens about it, or a single token.

Results:

* `tokens_pieces`: the pieces of a token list hold its tokens in order.
-/

namespace Questionnaire.Relevance

inductive Piece where
  /-- A question compared with a literal. -/
  | comparison (question : String) (operator : Comparison) (value : String)
  /-- A question and the tokens about it. -/
  | reference (question : String) (tail : List Token)
  | single (token : Token)
  deriving DecidableEq

/-- The token may be about the reference in front of it. -/
def belongsToTail : Token → Bool
  | .reference _ | .literal _ | .connective _ | .openParen | .closeParen => false
  | _ => true

def pieces : List Token → List Piece
  | [] => []
  | .reference question :: .comparison operator :: .literal value :: rest =>
    .comparison question operator value :: pieces rest
  | .reference question :: rest =>
    .reference question (rest.takeWhile belongsToTail) :: pieces (rest.dropWhile belongsToTail)
  | token :: rest => .single token :: pieces rest
termination_by tokens => tokens.length
decreasing_by
  · simp; omega
  · have := (List.dropWhile_suffix belongsToTail (l := rest)).length_le
    simp; omega
  · simp

/-- The tokens of a piece. -/
def Piece.tokens : Piece → List Token
  | .comparison question operator value =>
    [.reference question, .comparison operator, .literal value]
  | .reference question tail => .reference question :: tail
  | .single token => [token]

theorem tokens_pieces (tokens : List Token) : (pieces tokens).flatMap Piece.tokens = tokens := by
  fun_induction pieces tokens with
  | case1 => rfl
  | case2 question operator value rest ih => simp [Piece.tokens, ih]
  | case3 question rest _ ih => simp [Piece.tokens, ih, List.takeWhile_append_dropWhile]
  | case4 token rest _ _ ih => simp [Piece.tokens, ih]

end Questionnaire.Relevance
