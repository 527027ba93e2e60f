import CloneScan.Regex.Pattern
import CloneScan.Unicode.Letter

/-!
# Reading Patterns

A pattern is read from left to right, one piece at a time. Every function here takes the
characters that are left and gives back what it read with the characters left after it.

What has been read is kept by group: each open group has its finished branches and the parts
of the branch underway, and an opening parenthesis puts the group around it aside. Closing a
group makes it one part of the group that was put aside. The flag for blanks is followed
while reading, since it decides what counts as a piece; it ends with its group as all flags
do.

With that flag set, blanks and remarks from `#` to the end of the line may stand between any
two characters of a pattern that are not part of one mark.

## Main definitions

* `spaced`, `blanks`: The characters that are left after blanks that do not count.
* `readProperty`: A property by its name.
* `readEscape`: What a backslash stands for.
* `readSet`: A set in brackets.
* `readCount`: The bounds of a repetition in braces.
* `readOpening`: What a parenthesis opens.
* `PatternReader`: What has been read.
* `Pattern.ofChars`: The pattern that a text is.
-/

namespace CloneScan

namespace PatternReader

/-- The characters of a kind at the start of a text, and what is left after them. With blanks
    that do not count, those between the characters and after them are passed over. -/
def spaced (extended : Bool) (kind : Char → Bool) (inRemark : Bool) :
    List Char → List Char × List Char
  | [] => ([], [])
  | c :: rest =>
    if inRemark then spaced extended kind (c != '\n') rest
    else if extended && Unicode.isBlank c then spaced extended kind false rest
    else if extended && c == '#' then spaced extended kind true rest
    else if kind c then
      let later := spaced extended kind false rest
      (c :: later.1, later.2)
    else ([], c :: rest)

/-- What is left after blanks that do not count. -/
def blanks (extended : Bool) (text : List Char) : List Char :=
  (spaced extended (fun _ => false) false text).2

/-! ## Escapes -/

/-- The value of a hexadecimal digit. -/
def hexValue? (c : Char) : Option Nat :=
  if '0' ≤ c ∧ c ≤ '9' then some (c.toNat - 48)
  else if 'a' ≤ c ∧ c ≤ 'f' then some (c.toNat - 87)
  else if 'A' ≤ c ∧ c ≤ 'F' then some (c.toNat - 55)
  else none

/-- The number that hexadecimal digits write. -/
def hexNumber (digits : List Char) : Nat :=
  digits.foldl (fun n c => 16 * n + (hexValue? c).getD 0) 0

/-- The character of a number. -/
def charOfCode (n : Nat) : Except PatternError Char :=
  if n.isValidChar then .ok (Char.ofNat n) else .error .badCodePoint

/-- The number that a fixed count of hexadecimal digits writes. -/
def readFixedHex (extended : Bool) : Nat → Nat → List Char → Except PatternError (Nat × List Char)
  | 0, n, text => .ok (n, text)
  | _ + 1, _, [] => .error .unfinishedEscape
  | count + 1, n, c :: rest =>
    match hexValue? c with
    | none => .error .badCodePoint
    | some d => readFixedHex extended count (16 * n + d) (blanks extended rest)

/-- The number that hexadecimal digits write up to a closing brace. -/
def readBracedHex (extended : Bool) (text : List Char) : Except PatternError (Nat × List Char) :=
  match spaced extended (fun c => (hexValue? c).isSome) false text with
  | (_, []) => .error .unfinishedEscape
  | ([], _ :: _) => .error .badCodePoint
  | (digits@(_ :: _), c :: rest) =>
    if c = '\x7d' then .ok (hexNumber digits, blanks extended rest) else .error .badCodePoint

/-- A character given by its number, in `width` digits or between braces. -/
def readCodePoint (extended : Bool) (width : Nat) (text : List Char) :
    Except PatternError (Literal × List Char) :=
  match blanks extended text with
  | [] => .error .unfinishedEscape
  | c :: rest =>
    if c = '\x7b' then do
      let (n, rest) ← readBracedHex extended rest
      return (⟨← charOfCode n, false⟩, rest)
    else do
      let (n, rest) ← readFixedHex extended width 0 (c :: rest)
      return (⟨← charOfCode n, width == 2⟩, rest)

/-- A property by its name, or by its name and a value. The first mark between the two counts, where
    `!=` comes before a colon and that before `=`; a colon and `!=` mean what `=` does. -/
def propertyOf (name : List Char) : PropertyQuery :=
  match splitAt ['!', '='] name <|> splitAt [':'] name <|> splitAt ['='] name with
  | some (property, value) => .valued property value
  | none => .named name
where
  /-- What comes before a mark and what comes after it, if there is one. -/
  splitAt (mark : List Char) : List Char → Option (List Char × List Char)
    | [] => none
    | c :: rest =>
      if mark.isPrefixOf (c :: rest) then some ([], (c :: rest).drop mark.length)
      else (splitAt mark rest).map fun (before, after) => (c :: before, after)

/-- The name of a property, up to the closing brace. -/
def readBracedName (extended : Bool) (text : List Char) :
    Except PatternError (List Char × List Char) :=
  match spaced extended (· != '\x7d') false text with
  | (_, []) => .error .unfinishedEscape
  | (name, _ :: rest) => .ok (name, rest)

/-- A property, by a name of one character or between braces. -/
def readProperty (extended : Bool) (text : List Char) :
    Except PatternError (PropertyQuery × List Char) :=
  match blanks extended text with
  | [] => .error .unfinishedEscape
  | c :: rest =>
    if c = '\x7b' then do
      let (name, rest) ← readBracedName extended rest
      return (propertyOf name, rest)
    else if c = '\\' then .error .badProperty
    else .ok (.named [c], blanks extended rest)

/-- The sort of word edge that stands between the braces after an edge mark. Braces that hold
    no word are bounds of a repetition instead, and are left to be read as such. -/
def readWordEdge (extended : Bool) (text : List Char) : Except PatternError (Anchor × List Char) :=
  match text with
  | '\x7b' :: inside =>
    match blanks extended inside with
    | [] => .error .badWordEdge
    | c :: rest =>
      let isNameChar : Char → Bool := fun c => c.isAlpha || c == '-'
      if isNameChar c then
        match spaced extended isNameChar false (c :: rest) with
        | (name, '\x7d' :: after) =>
          match [("start", Anchor.wordStart), ("end", .wordEnd), ("start-half", .afterNoWord),
              ("end-half", .beforeNoWord)].lookup (String.ofList name) with
          | some a => .ok (a, after)
          | none => .error .badWordEdge
        | _ => .error .badWordEdge
      else .ok (.wordEdge, text)
  | _ => .ok (.wordEdge, text)

/-- What a backslash can stand for. -/
inductive Escaped where
  | char (l : Literal)
  | letter (l : ClassLetter) (negated : Bool)
  | property (q : PropertyQuery) (negated : Bool)
  | anchor (a : Anchor)
  deriving Repr

/-- The escapes that stand for one character of their own. -/
def controlEscapes : List (Char × Char) :=
  [('a', '\x07'), ('f', '\x0c'), ('t', '\t'), ('n', '\n'), ('r', '\r'), ('v', '\x0b')]

/-- The escapes that stand for a set. -/
def letterEscapes : List (Char × ClassLetter × Bool) :=
  [('d', .digit, false), ('D', .digit, true), ('s', .space, false), ('S', .space, true),
    ('w', .word, false), ('W', .word, true)]

/-- The escapes that stand for a place, apart from word edges. -/
def anchorEscapes : List (Char × Anchor) :=
  [('A', .textStart), ('z', .textEnd), ('B', .noWordEdge), ('<', .wordStart), ('>', .wordEnd)]

/-- The number of digits of a character given by its number, by the escape that starts it. -/
def codePointWidths : List (Char × Nat) :=
  [('x', 2), ('u', 4), ('U', 8)]

/-- A character that stands for itself after a backslash: any of ASCII that is no letter, no
    digit and no angle bracket. -/
def isPlainEscape (c : Char) : Bool :=
  c.toNat < 128 && !c.isAlphanum && c != '<' && c != '>'

/-- What a backslash stands for, by the characters after it. -/
def readEscape (extended : Bool) : List Char → Except PatternError (Escaped × List Char)
  | [] => .error .unfinishedEscape
  | c :: rest =>
    if c.isDigit then .error .backreference
    else if let some width := codePointWidths.lookup c then do
      let (l, rest) ← readCodePoint extended width rest
      return (.char l, rest)
    else if let some (l, negated) := letterEscapes.lookup c then .ok (.letter l negated, rest)
    else if c = 'p' ∨ c = 'P' then do
      let (q, rest) ← readProperty extended rest
      return (.property q (c == 'P'), rest)
    else if isPlainEscape c then .ok (.char ⟨c, false⟩, rest)
    else if let some d := controlEscapes.lookup c then .ok (.char ⟨d, false⟩, rest)
    else if let some a := anchorEscapes.lookup c then .ok (.anchor a, rest)
    else if c = 'b' then do
      let (a, rest) ← readWordEdge extended rest
      return (.anchor a, rest)
    else .error (.unknownEscape c)

/-! ## Sets -/

/-- One piece of a set: an escape, or a character that stands for itself. -/
def readSetPiece (extended : Bool) : List Char → Except PatternError (Escaped × List Char)
  | [] => .error .unclosedSet
  | c :: rest => if c = '\\' then readEscape extended rest else .ok (.char ⟨c, false⟩, rest)

/-- A piece of a set as a set of its own. -/
def Escaped.toSetExpr : Escaped → Except PatternError SetExpr
  | char l => .ok (.char l)
  | letter l negated => .ok (.letter l negated)
  | property q negated => .ok (.property q negated)
  | anchor _ => .error .anchorInSet

/-- A piece of a set as a bound of a range. -/
def Escaped.toBound : Escaped → Except PatternError Literal
  | char l => .ok l
  | letter _ _ | property _ _ | anchor _ => .error .rangeBound

/-- The next character that counts, as far as the end of a range is concerned: the look ahead
    passes blanks and one remark mark, and falls back on the very next character. -/
def peekPast (extended : Bool) (text : List Char) : Option Char :=
  if extended then
    let ahead := text.dropWhile Unicode.isBlank
    let ahead := if ahead.head? = some '#' then ahead.tail.dropWhile Unicode.isBlank else ahead
    ahead.head? <|> text.head?
  else text.head?

/-- A piece of a set, or a range from it to another one. A dash before the closing bracket, or
    before another dash, makes no range. -/
def readSetRange (extended : Bool) (text : List Char) :
    Except PatternError (SetExpr × List Char) := do
  let (first, rest) ← readSetPiece extended text
  match blanks extended rest with
  | [] => throw .unclosedSet
  | '-' :: after =>
    if peekPast extended after = some ']' ∨ peekPast extended after = some '-' then
      return (← first.toSetExpr, '-' :: after)
    else
      let (last, rest) ← readSetPiece extended (blanks extended after)
      let lower ← first.toBound
      let upper ← last.toBound
      if lower.char ≤ upper.char then return (.range lower upper, rest)
      throw .reversedRange
  | rest => return (← first.toSetExpr, rest)

/-- A set named by a word, where `text` follows the opening bracket; nothing if what stands
    there is no such name, and so the start of an ordinary set. -/
def readNamedSet? (text : List Char) : Option (SetExpr × List Char) :=
  match text with
  | ':' :: '^' :: rest => named true rest
  | ':' :: rest => named false rest
  | _ => none
where
  /-- The name, up to the colon and bracket that close it. -/
  named (negated : Bool) (text : List Char) : Option (SetExpr × List Char) :=
    match text.dropWhile (· ≠ ':') with
    | ':' :: ']' :: rest =>
      (NamedSet.ofName? (String.ofList (text.takeWhile (· ≠ ':')))).map
        fun s => (.named s negated, rest)
    | _ => none

/-- What a set has before a combining mark, and the mark. -/
abbrev PendingOp := Option (SetOp × SetExpr)

/-- The set that has been read so far, with what precedes the last combining mark. -/
def combine (pending : PendingOp) (items : List SetExpr) : SetExpr :=
  match pending with
  | none => SetExpr.ofItems items.reverse
  | some (kind, first) => .op kind first (SetExpr.ofItems items.reverse)

/-- The dashes at the start of a set, and then, where there are none, a closing bracket: they
    stand for themselves. The members come latest first. -/
def readSetStart (extended : Bool) (text : List Char) :
    Except PatternError (List SetExpr × List Char) :=
  let dash : SetExpr := .char ⟨'-', false⟩
  match spaced extended (· == '-') false text with
  | (_, []) => .error .unclosedSet
  | ([], ']' :: rest) =>
    match blanks extended rest with
    | [] => .error .unclosedSet
    | c :: rest => .ok ([.char ⟨']', false⟩], c :: rest)
  | (dashes, c :: rest) => .ok (dashes.map fun _ => dash, c :: rest)

/-- The opening of a set, where `text` follows the bracket: whether it is negated, and the
    members that only count as such at the start. -/
def readSetOpening (extended : Bool) (text : List Char) :
    Except PatternError (Bool × List SetExpr × List Char) :=
  match blanks extended text with
  | [] => .error .unclosedSet
  | '^' :: rest =>
    match blanks extended rest with
    | [] => .error .unclosedSet
    | c :: rest => do
      let (items, rest) ← readSetStart extended (c :: rest)
      return (true, items, rest)
  | c :: rest => do
    let (items, rest) ← readSetStart extended (c :: rest)
    return (false, items, rest)

/-- The members of a set up to its closing bracket. The members read since the last combining
    mark come latest first. Every round reads a character, so a fuel of the length of the text
    is enough. -/
def readSetBody (extended : Bool) : Nat → PendingOp → List SetExpr → List Char →
    Except PatternError (SetExpr × List Char)
  | 0, _, _, _ => .error .unclosedSet
  | fuel + 1, pending, items, text =>
    match blanks extended text with
    | [] => .error .unclosedSet
    | '[' :: rest =>
      match readNamedSet? rest with
      | some (s, rest) => readSetBody extended fuel pending (s :: items) rest
      | none => do
        let (negated, start, rest) ← readSetOpening extended rest
        let (inner, rest) ← readSetBody extended fuel none start rest
        readSetBody extended fuel pending (.bracket negated inner :: items) rest
    | ']' :: rest => .ok (combine pending items, rest)
    | '&' :: '&' :: rest =>
      readSetBody extended fuel (some (.inter, combine pending items)) [] rest
    | '-' :: '-' :: rest =>
      readSetBody extended fuel (some (.diff, combine pending items)) [] rest
    | '~' :: '~' :: rest =>
      readSetBody extended fuel (some (.symmDiff, combine pending items)) [] rest
    | rest => do
      let (s, rest) ← readSetRange extended rest
      readSetBody extended fuel pending (s :: items) rest

/-- A set in brackets, where `text` follows the opening one. -/
def readSet (extended : Bool) (text : List Char) : Except PatternError (Pattern × List Char) := do
  let (negated, start, rest) ← readSetOpening extended text
  let (body, rest) ← readSetBody extended (rest.length + 1) none start rest
  return (.set negated body, rest)

/-! ## Repetitions -/

/-- The greatest bound of a repetition, one less than the 32nd power of two. -/
def countLimit : Nat :=
  4294967295

/-- A bound of a repetition. Blanks may stand around it in any case. -/
def readBound (extended : Bool) (text : List Char) : Except PatternError (Nat × List Char) :=
  match spaced extended Char.isDigit false (text.dropWhile Unicode.isBlank) with
  | ([], _) => .error .badCount
  | (digits, rest) =>
    let n := digits.foldl (fun n c => 10 * n + (c.toNat - 48)) 0
    if n ≤ countLimit then .ok (n, rest.dropWhile Unicode.isBlank) else .error .badCount

/-- What is left after the mark of a repetition that prefers the shorter match. -/
def passLazyMark : List Char → List Char
  | '?' :: rest => rest
  | rest => rest

/-- The bounds of a repetition, where `text` follows the opening brace. -/
def readCount (extended : Bool) (text : List Char) :
    Except PatternError ((Nat × Option Nat) × List Char) := do
  let (least, rest) ← readBound extended (blanks extended text)
  match rest with
  | '\x7d' :: rest => return ((least, some least), passLazyMark (blanks extended rest))
  | ',' :: rest =>
    match blanks extended rest with
    | '\x7d' :: rest => return ((least, none), passLazyMark (blanks extended rest))
    | rest =>
      let (most, rest) ← readBound extended rest
      match rest with
      | '\x7d' :: rest =>
        if least ≤ most then return ((least, some most), passLazyMark (blanks extended rest))
        throw .reversedCount
      | _ => throw .badCount
  | _ => throw .badCount

/-! ## Groups -/

/-- What a parenthesis opens. -/
inductive Opening where
  /-- A group, with the flags that change in it and its name if it has one. -/
  | group (change : FlagChange) (name : Option (List Char))
  /-- No group: flags that change up to the end of the group around. -/
  | flags (change : FlagChange)

/-- A character that the name of a group may hold, at its start or later. -/
def isNameChar (first : Bool) (c : Char) : Bool :=
  if first then c == '_' || Unicode.isAlphabetic c
  else c == '_' || c == '.' || c == '[' || c == ']' || Unicode.isAlphabetic c ||
    Unicode.isNumeric c

/-- The name of a group, up to the angle bracket that closes it. -/
def readName (first : Bool) : List Char → Except PatternError (List Char × List Char)
  | [] => .error .badGroupName
  | '>' :: rest => if first then .error .badGroupName else .ok ([], rest)
  | c :: rest =>
    if isNameChar first c then do
      let (name, rest) ← readName false rest
      return (c :: name, rest)
    else .error .badGroupName

/-- The flags up to the colon or parenthesis that ends them. A dash switches off what follows
    it; it may come once and not last. -/
def readFlags (off dangling : Bool) (seen : FlagChange) :
    List Char → Except PatternError (FlagChange × Char × List Char)
  | [] => .error .unfinishedFlags
  | c :: rest =>
    if c = ':' ∨ c = ')' then
      if dangling then .error .unfinishedFlags else .ok (seen.reverse, c, rest)
    else if c = '-' then
      if off then .error .repeatedFlag else readFlags true true seen rest
    else match Flag.ofLetter? c with
      | none => .error (.unknownFlag c)
      | some f =>
        if seen.any (·.1 == f) then .error .repeatedFlag
        else readFlags off false ((f, !off) :: seen) rest

/-- What a parenthesis opens, where `text` follows it. Flags without a group that change nothing
    are a repetition of nothing. -/
def readOpening (extended : Bool) (text : List Char) : Except PatternError (Opening × List Char) :=
  match blanks extended text with
  | '?' :: '=' :: _ | '?' :: '!' :: _ | '?' :: '<' :: '=' :: _ | '?' :: '<' :: '!' :: _ =>
    .error .lookAround
  | '?' :: 'P' :: '<' :: rest | '?' :: '<' :: rest => do
    let (name, rest) ← readName true rest
    return (.group [] (some name), rest)
  | '?' :: rest => do
    let (change, stop, rest) ← readFlags false false [] rest
    if stop = ':' then return (.group change none, rest)
    if change.isEmpty then throw .nothingToRepeat
    return (.flags change, rest)
  | rest => .ok (.group [] none, rest)

/-! ## Pieces -/

/-- What has been read of one group: its finished branches and the parts of the branch
    underway, the latest first. -/
structure Level where
  /-- The finished branches. -/
  branches : List Pattern
  /-- The parts of the branch underway. -/
  items : List Pattern

namespace Level

/-- Nothing has been read. -/
def start : Level :=
  ⟨[], []⟩

/-- Adds a part to the branch underway. -/
def add (l : Level) (p : Pattern) : Level :=
  { l with items := p :: l.items }

/-- Finishes the branch underway. -/
def split (l : Level) : Level :=
  ⟨Pattern.ofItems l.items.reverse :: l.branches, []⟩

/-- What has been read, as one pattern. -/
def toPattern (l : Level) : Pattern :=
  Pattern.ofBranches l.split.branches.reverse

/-- Repeats the last part of the branch underway. -/
def repeatLast (l : Level) (least : Nat) (most : Option Nat) : Except PatternError Level :=
  match l.items with
  | [] => .error .nothingToRepeat
  | p :: rest =>
    if p.isRepeatable then .ok { l with items := .repeated p least most :: rest }
    else .error .nothingToRepeat

end Level

/-- A group that has been opened and not closed. -/
structure OpenGroup where
  /-- The flags that change in it. -/
  change : FlagChange
  /-- What has been read of the group around it. -/
  outer : Level
  /-- Blanks do not count in the group around it. -/
  extended : Bool

end PatternReader

open PatternReader

/-- What has been read of a pattern. -/
structure PatternReader where
  /-- The innermost group. -/
  level : Level
  /-- The open groups, the innermost first. -/
  groups : List OpenGroup
  /-- Blanks do not count here. -/
  extended : Bool
  /-- The names of the groups so far. -/
  names : List (List Char)

namespace PatternReader

/-- Nothing has been read. -/
def start : PatternReader :=
  ⟨.start, [], false, []⟩

/-- Adds a piece. -/
def add (r : PatternReader) (p : Pattern) : PatternReader :=
  { r with level := r.level.add p }

/-- The reader inside a group that was just opened. -/
def inside (r : PatternReader) (change : FlagChange) : PatternReader :=
  { r with
    level := .start
    groups := ⟨change, r.level, r.extended⟩ :: r.groups
    extended := (change.lookup .extended).getD r.extended }

/-- Opens a group, or changes flags. -/
def enter (r : PatternReader) : Opening → Except PatternError PatternReader
  | .flags change =>
    .ok { r.add (.flags change) with extended := (change.lookup .extended).getD r.extended }
  | .group change none => .ok (r.inside change)
  | .group change (some n) =>
    if r.names.contains n then .error .repeatedGroupName
    else .ok { r.inside change with names := n :: r.names }

/-- Closes the innermost group. -/
def leave (r : PatternReader) : Except PatternError PatternReader :=
  match r.groups with
  | [] => .error .unopenedGroup
  | g :: outer =>
    .ok { r with
      level := g.outer.add (.group g.change r.level.toPattern)
      groups := outer
      extended := g.extended }

/-- Repeats the last piece. -/
def repeatLast (r : PatternReader) (least : Nat) (most : Option Nat) :
    Except PatternError PatternReader := do
  return { r with level := ← r.level.repeatLast least most }

/-- Reads one piece, which starts with the character `c`. -/
def step (r : PatternReader) (c : Char) (rest : List Char) :
    Except PatternError (PatternReader × List Char) :=
  match c with
  | '(' => do
    let (opening, rest) ← readOpening r.extended rest
    return (← r.enter opening, rest)
  | ')' => do return (← r.leave, rest)
  | '|' => .ok ({ r with level := r.level.split }, rest)
  | '[' => do
    let (p, rest) ← readSet r.extended rest
    return (r.add p, rest)
  | '?' => do return (← r.repeatLast 0 (some 1), passLazyMark rest)
  | '*' => do return (← r.repeatLast 0 none, passLazyMark rest)
  | '+' => do return (← r.repeatLast 1 none, passLazyMark rest)
  | '\x7b' => do
    let ((least, most), rest) ← readCount r.extended rest
    return (← r.repeatLast least most, rest)
  | '\\' => do
    let (e, rest) ← readEscape r.extended rest
    match e with
    | .char l => return (r.add (.char l), rest)
    | .letter l negated => return (r.add (.letter l negated), rest)
    | .property q negated => return (r.add (.property q negated), rest)
    | .anchor a => return (r.add (.anchor a), rest)
  | '.' => .ok (r.add .dot, rest)
  | '^' => .ok (r.add (.anchor .lineStart), rest)
  | '$' => .ok (r.add (.anchor .lineEnd), rest)
  | c => .ok (r.add (.char ⟨c, false⟩), rest)

/-- Reads pieces to the end of the text. Every piece has a character, so a fuel of the length
    of the text is enough. -/
def readAll : Nat → PatternReader → List Char → Except PatternError PatternReader
  | fuel, r, text =>
    match blanks r.extended text with
    | [] => .ok r
    | c :: rest =>
      match fuel with
      | 0 => .error .unclosedGroup
      | fuel + 1 => do
        let (r, rest) ← r.step c rest
        readAll fuel r rest

/-- What has been read, as a whole pattern. -/
def finish (r : PatternReader) : Except PatternError Pattern :=
  if r.groups.isEmpty then .ok r.level.toPattern else .error .unclosedGroup

end PatternReader

/-- The pattern that a text is. -/
def Pattern.ofChars (text : List Char) : Except PatternError Pattern := do
  let reader ← PatternReader.readAll text.length .start text
  let pattern ← reader.finish
  if pattern.depth ≤ nestingLimit then return pattern
  throw .tooDeep

end CloneScan
