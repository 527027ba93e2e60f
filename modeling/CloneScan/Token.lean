/-!
# Tokens

The lexical units of a source file, as far as the library tells them apart: names, the three
sorts of literal whose value may not matter, the end of the file, and all else. A token
keeps its text as written and the place where it starts, line and column both counted from
one and the column in characters.

A token may be *generated*: the parser put it there to mend a broken source, and its text
stands nowhere in the file.

## Main definitions

* `TokenKind`: What sort of token it is.
* `Token`: A token and where it starts.
* `TokenKind.ofNode`: The sort of token a leaf of the syntax tree is.
* `Token.render`: A token as text.
-/

namespace CloneScan

/-- What sort of token it is. -/
inductive TokenKind where
  | identifier
  | numericLiteral
  | stringLiteral
  | characterLiteral
  /-- The end of the file. -/
  | endOfFile
  /-- Keywords, punctuation and everything else. -/
  | other
  deriving Repr, DecidableEq, Inhabited

/-- The name of a sort of token, as reports write it. -/
def TokenKind.label : TokenKind → String
  | .identifier => "Identifier"
  | .numericLiteral => "NumericLiteral"
  | .stringLiteral => "StringLiteral"
  | .characterLiteral => "CharacterLiteral"
  | .endOfFile => "Eof"
  | .other => "Other"

/-- The sorts of token in the order reports list them. -/
def TokenKind.all : List TokenKind :=
  [.identifier, .numericLiteral, .stringLiteral, .characterLiteral, .endOfFile, .other]

/-- The sort of token a leaf of the syntax tree is, by the kind of the leaf. -/
def TokenKind.ofNode (kind : String) : TokenKind :=
  if kind ∈ ["identifier", "field_identifier", "type_identifier", "namespace_identifier",
      "statement_identifier"] then .identifier
  else if kind = "number_literal" then .numericLiteral
  else if kind ∈ ["string_literal", "raw_string_literal", "system_lib_string"] then .stringLiteral
  else if kind = "char_literal" then .characterLiteral
  else .other

/-- A token and where it starts. -/
structure Token where
  kind : TokenKind
  value : String
  /-- The line it starts on, counted from one. -/
  line : Nat
  /-- The character it starts at, counted from one. -/
  column : Nat
  /-- The token was put in by the parser and stands nowhere in the source. -/
  generated : Bool
  deriving Repr, DecidableEq, Inhabited

/-- The token that ends every file. -/
def Token.endAt (line column : Nat) : Token :=
  ⟨.endOfFile, "", line, column, false⟩

/-- The length of the text of a token, in characters. -/
def Token.charLength (t : Token) : Nat :=
  t.value.length

/-- A token as text: its sort, its text between quotes and its place. -/
def Token.render (t : Token) : String :=
  s!"{t.kind.label} '{t.value}' at {t.line}:{t.column}"

end CloneScan
