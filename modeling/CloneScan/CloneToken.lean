import CloneScan.Log
import CloneScan.SourceFile

/-!
# Clone Tokens

What a search for duplicated code is given: for every token of interest, where it stands and
what it compares as. The tokens of one file are gathered in a buffer and handed over in one
piece to whatever receives them.

## Main definitions

* `CloneToken`: A place and an image.
* `CloneStream`: The clone tokens of one file.
* `Receiver`: What the tokens of a file can be handed to.
* `TokenBuffer`: The tokens of a file still being read.
* `TokenBuffer.flush`: Hands the tokens of a file over.

## Theorems

* `TokenBuffer.tokens_add`: A token that is added comes last.
-/

namespace CloneScan

/-- Where a token stands and what it compares as. -/
structure CloneToken where
  /-- The characters of the token. -/
  span : Span
  /-- What the token compares as. -/
  image : String
  deriving Repr, DecidableEq, Inhabited

/-- The clone tokens of one file, in the order of the source. -/
structure CloneStream where
  path : Path
  tokens : List CloneToken
  deriving Repr, DecidableEq, Inhabited

/-- What can receive the clone tokens of whole files. -/
class Receiver (ε : Type) where
  /-- Takes the clone tokens of one file. -/
  save : SourceFile → List CloneToken → ε → Logged ε

/-- A list receives by keeping everything, in the order it came. -/
instance : Receiver (List (SourceFile × List CloneToken)) where
  save f tokens saves := pure (saves ++ [(f, tokens)])

/-- The clone tokens of a file that is still being read. -/
structure TokenBuffer where
  file : SourceFile
  /-- What was found in it so far, the last token first. -/
  newestFirst : List CloneToken
  deriving Repr, DecidableEq

namespace TokenBuffer

/-- The buffer of a file of which nothing was read. -/
def onFile (f : SourceFile) : TokenBuffer :=
  ⟨f, []⟩

/-- What was found so far, in the order it was found. -/
def tokens (b : TokenBuffer) : List CloneToken :=
  b.newestFirst.reverse

/-- Adds a token. -/
def add (b : TokenBuffer) (span : Span) (image : String) : TokenBuffer :=
  { b with newestFirst := ⟨span, image⟩ :: b.newestFirst }

/-- A buffer starts out empty. -/
theorem tokens_onFile (f : SourceFile) : (onFile f).tokens = [] :=
  rfl

/-- A token that is added comes last. -/
theorem tokens_add (b : TokenBuffer) (span : Span) (image : String) :
    (b.add span image).tokens = b.tokens ++ [⟨span, image⟩] := by
  simp only [tokens, add, List.reverse_cons]

/-- Hands the tokens of the file over. -/
def flush {ε : Type} [Receiver ε] (b : TokenBuffer) (receiver : ε) : Logged ε :=
  Receiver.save b.file b.tokens receiver

end TokenBuffer

end CloneScan
