import CloneScan.Unicode.Lowercase

/-!
# Lower Case

The lower-case form of a text. Every character is mapped on its own, with two exceptions.
The capital I with a dot above becomes a small i followed by the dot. A capital sigma
becomes the final form when it ends a word: a cased character stands before it and none
after it, looking past the characters that do not interrupt a word.

## Main definitions

* `endsWord`: A place in a text is the end of a word.
* `lowerCase`: The lower-case form of a text.
-/

namespace CloneScan

namespace Text

open Unicode

/-- The first character that interrupts a word is one that has a case. -/
def meetsCased (text : List Char) : Bool :=
  ((text.dropWhile isCaseIgnorable).head?.map isCased).getD false

/-- A character between `before`, read backwards, and `after` is the last of its word. -/
def endsWord (before after : List Char) : Bool :=
  meetsCased before && !meetsCased after

/-- The lower-case form of `text`, where `before` is what precedes it, read backwards. -/
def lowerCaseAfter (before : List Char) : List Char → List Char
  | [] => []
  | c :: rest =>
    let lower :=
      if c = 'Σ' then [if endsWord before rest then 'ς' else 'σ']
      else if c = 'İ' then ['i', '\u0307']
      else [lowerChar c]
    lower ++ lowerCaseAfter (c :: before) rest

/-- The lower-case form of a text. -/
def lowerCase (text : String) : String :=
  String.ofList (lowerCaseAfter [] text.toList)

end Text

end CloneScan
