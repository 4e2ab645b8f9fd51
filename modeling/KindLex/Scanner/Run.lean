import KindLex.Scanner.Basic

/-!
# Runs of the scanner

A caller takes tokens one at a time, in batches, or all at once, and may look at the scanner in
between.  `tokenize` is the run over a whole text.
-/

namespace KindLex

namespace Scanner

/-- Up to `n` tokens, and the scanner behind them. -/
def take : Nat → Scanner → List Token × Scanner
  | 0,     s => ([], s)
  | n + 1, s =>
      match s.next? with
      | none            => ([], s)
      | some (token, t) =>
          let (tokens, last) := take n t
          (token :: tokens, last)

/-- All tokens ahead, and the scanner behind them. -/
def collect (s : Scanner) : List Token × Scanner :=
  match h : s.next? with
  | none            => ([], s)
  | some (token, t) =>
      have : t.remaining < s.remaining := remaining_lt_of_next?_eq_some h
      let (tokens, last) := collect t
      (token :: tokens, last)
termination_by s.remaining

/-- What a caller may ask of a scanner. -/
inductive Request where
  /-- The next token. -/
  | next
  /-- As many tokens as there are, but no more than a number. -/
  | upTo (count : Nat)
  /-- All tokens that are left. -/
  | all
  /-- No token: the caller only looks. -/
  | look
  deriving DecidableEq

/-- The tokens that answer a request, and the scanner behind them. -/
def serve (s : Scanner) : Request → List Token × Scanner
  | .next       => s.take 1
  | .upTo count => s.take count
  | .all        => s.collect
  | .look       => ([], s)

/-- The tokens that answer some requests in turn, and the scanner behind them. -/
def serveAll (s : Scanner) : List Request → List Token × Scanner
  | []                  => ([], s)
  | request :: requests =>
      let (tokens, t) := s.serve request
      let (later, last) := serveAll t requests
      (tokens ++ later, last)

end Scanner

/-- The tokens of a text.  No text is refused: what is wrong shows as tokens of kind `error`. -/
def tokenize (source : String) : List Token :=
  (Scanner.ofText source).collect.1

end KindLex
