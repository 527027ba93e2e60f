import CloneScan.Token

/-!
# Token Images

Two stretches of code are clones of each other when their tokens have the same images. The
image of a token is its text, or a placeholder when the policy says that the text does not
matter. Every ignored sort of token has a placeholder of its own.

A generated token and the end of the file have no image: they are not code.

## Main definitions

* `ImagePolicy`: What does not matter.
* `ImagePolicy.ignores`: The policy ignores a sort of token.
* `ImagePolicy.image`: The image of a token.
-/

namespace CloneScan

/-- What does not matter when code is compared. -/
structure ImagePolicy where
  /-- The values of numbers, strings and characters do not matter. -/
  ignoreLiterals : Bool
  /-- The names of variables, functions and types do not matter. -/
  ignoreIdentifiers : Bool
  deriving Repr, DecidableEq, Inhabited

namespace ImagePolicy

/-- The policy that compares every token by its text. -/
def exact : ImagePolicy :=
  ⟨false, false⟩

/-- The placeholder for a sort of token, if it can be ignored at all. -/
def placeholder : TokenKind → Option String
  | .identifier => some "_I"
  | .numericLiteral => some "_N"
  | .stringLiteral => some "_S"
  | .characterLiteral => some "_C"
  | .endOfFile | .other => none

/-- The policy ignores a sort of token. -/
def ignores (p : ImagePolicy) : TokenKind → Bool
  | .identifier => p.ignoreIdentifiers
  | .numericLiteral | .stringLiteral | .characterLiteral => p.ignoreLiterals
  | .endOfFile | .other => false

/-- What a token compares as; nothing for a token that is not code. -/
def image (p : ImagePolicy) (t : Token) : Option String :=
  if t.kind = .endOfFile ∨ t.generated then none
  else if p.ignores t.kind then some ((placeholder t.kind).getD t.value)
  else some t.value

end ImagePolicy

end CloneScan
