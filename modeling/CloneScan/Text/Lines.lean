/-!
# Lines of a Text

A text is cut into lines at its line feeds. The line feeds themselves belong to no line, so
there is always one line more than there are line feeds, and a text that ends in a line
feed has an empty last line. A carriage return is an ordinary character of its line; only
one that stands at the very end is a line ending, and `withoutReturn` takes it off.

## Main definitions

* `lines`: The lines of a text.
* `withoutReturn`: A line without the carriage return that ends it.
-/

namespace CloneScan

namespace Text

/-- The lines of a text, without the line feeds between them. -/
def lines : List Char → List (List Char)
  | [] => [[]]
  | c :: rest =>
    if c = '\n' then [] :: lines rest
    else match lines rest with
      | [] => [[c]]
      | line :: later => (c :: line) :: later

/-- The line without one carriage return at its end. -/
def withoutReturn (line : List Char) : List Char :=
  if line.getLast? = some '\r' then line.dropLast else line

end Text

end CloneScan
