import CloneScan.Regex.CharSet

/-!
# Patterns

A regular expression as it is written, flags and all. What a piece of a pattern means depends
on the flags in force where it stands, so a pattern keeps the places where flags change and
leaves their effect to its meaning.

A pattern may be nested only so deep. Groups, repetitions, sets, and lists of two or more
parts each add a level.

## Main definitions

* `Flag`, `FlagChange`: The flags, and a change of some of them.
* `PropertyQuery`: The characters of a property.
* `SetExpr`: What stands between the brackets of a set.
* `Anchor`: A piece that matches at a place.
* `Pattern`: A pattern.
* `Pattern.ofItems`, `Pattern.ofBranches`: A list of parts, if it is one.
* `Pattern.depth`: The number of nested levels.
* `PatternError`: Why a text is no pattern.
* `PatternError.message`: Why a text is no pattern, in words.
-/

namespace CloneScan

/-- Why a text is no pattern. -/
inductive PatternError where
  | unclosedGroup
  | unopenedGroup
  | unclosedSet
  /-- A range in a set ends before it starts. -/
  | reversedRange
  /-- Something other than a character bounds a range in a set. -/
  | rangeBound
  /-- Something that matches at a place stands in a set. -/
  | anchorInSet
  | unfinishedEscape
  | unknownEscape (c : Char)
  /-- A reference to what a group matched. -/
  | backreference
  /-- A number of a character that is malformed, or that no character has. -/
  | badCodePoint
  /-- Something other than the name of a property. -/
  | badProperty
  | unknownProperty
  | unknownPropertyValue
  /-- A property where characters of all scripts do not count. -/
  | propertyOfBytes
  | badWordEdge
  | nothingToRepeat
  | badCount
  /-- The greatest number of a repetition is below the least. -/
  | reversedCount
  /-- A condition on what follows or precedes. -/
  | lookAround
  | unknownFlag (c : Char)
  | repeatedFlag
  | unfinishedFlags
  | badGroupName
  | repeatedGroupName
  | tooDeep
  /-- The pattern could match half a character. -/
  | beyondAscii
  deriving Repr, DecidableEq

/-- How deep a pattern may be nested. -/
def nestingLimit : Nat :=
  250

/-- Why a text is no pattern, in words. -/
def PatternError.message : PatternError → String
  | unclosedGroup => "unclosed group"
  | unopenedGroup => "unopened group"
  | unclosedSet => "unclosed character class"
  | reversedRange => "invalid character class range, the start must be <= the end"
  | rangeBound => "invalid range boundary, must be a literal"
  | anchorInSet => "invalid escape sequence found in character class"
  | unfinishedEscape => "incomplete escape sequence, reached end of pattern prematurely"
  | unknownEscape _ => "unrecognized escape sequence"
  | backreference => "backreferences are not supported"
  | badCodePoint => "hexadecimal literal is not a Unicode scalar value"
  | badProperty => "invalid Unicode character class"
  | unknownProperty => "Unicode property not found"
  | unknownPropertyValue => "Unicode property value not found"
  | propertyOfBytes => "Unicode not allowed here"
  | badWordEdge =>
    "unrecognized special word boundary assertion, valid choices are: start, end, " ++
      "start-half or end-half"
  | nothingToRepeat => "repetition operator missing expression"
  | badCount => "repetition quantifier expects a valid decimal"
  | reversedCount => "invalid repetition count range, the start must be <= the end"
  | lookAround => "look-around, including look-ahead and look-behind, is not supported"
  | unknownFlag _ => "unrecognized flag"
  | repeatedFlag => "duplicate flag"
  | unfinishedFlags => "expected flag but got end of regex"
  | badGroupName => "invalid capture group character"
  | repeatedGroupName => "duplicate capture group name"
  | tooDeep => s!"exceed the maximum number of nested parentheses/brackets ({nestingLimit})"
  | beyondAscii => "pattern can match invalid UTF-8"

/-- The flags that decide what the pieces of a pattern mean. -/
inductive Flag where
  /-- `i`: letters match in either case. -/
  | ignoreCase
  /-- `m`: a line's ends count as ends. -/
  | multiLine
  /-- `s`: a dot matches line feeds too. -/
  | dotAll
  /-- `U`: repetitions prefer the shorter match. -/
  | lazily
  /-- `u`: characters of all scripts count. -/
  | unicode
  /-- `R`: a carriage return and a line feed end a line together. -/
  | crlf
  /-- `x`: blanks and remarks in the pattern do not count. -/
  | extended
  deriving Repr, DecidableEq

/-- The flag a letter stands for. -/
def Flag.ofLetter? (c : Char) : Option Flag :=
  [('i', ignoreCase), ('m', multiLine), ('s', dotAll), ('U', lazily), ('u', unicode),
    ('R', crlf), ('x', extended)].lookup c

/-- Flags that are switched on or off in one place. -/
abbrev FlagChange := List (Flag × Bool)

/-- A character as a pattern writes it. The one form that counts is a number of two hexadecimal
    digits, which stands for a byte where characters of all scripts do not count. -/
structure Literal where
  char : Char
  /-- It is written as a number of two hexadecimal digits. -/
  isByte : Bool
  deriving Repr, DecidableEq

/-- The characters of a property, as a pattern asks for them. -/
inductive PropertyQuery where
  /-- A property that holds or does not hold, a general category or a script. -/
  | named (name : List Char)
  /-- A property and one of its values. -/
  | valued (property value : List Char)
  deriving Repr, DecidableEq

/-- How two sets are combined. -/
inductive SetOp where
  /-- `&&`: the members of both. -/
  | inter
  /-- `--`: the members of the first alone. -/
  | diff
  /-- `~~`: the members of exactly one. -/
  | symmDiff
  deriving Repr, DecidableEq

/-- What stands between the brackets of a set. -/
inductive SetExpr where
  | nothing
  | char (l : Literal)
  | range (first last : Literal)
  /-- A set named by a word, or the characters outside it. -/
  | named (s : NamedSet) (negated : Bool)
  /-- A set named by a letter, or the characters outside it. -/
  | letter (l : ClassLetter) (negated : Bool)
  /-- The characters with a property, or those without it. -/
  | property (q : PropertyQuery) (negated : Bool)
  /-- The members of any of several sets. -/
  | union (items : List SetExpr)
  /-- A set in brackets of its own, or the characters outside it. -/
  | bracket (negated : Bool) (body : SetExpr)
  /-- Two sets combined. -/
  | op (kind : SetOp) (first second : SetExpr)
  deriving Repr

namespace SetExpr

/-- The union of several sets; of one set, that set. -/
def ofItems : List SetExpr → SetExpr
  | [] => nothing
  | [s] => s
  | ss => union ss

mutual

/-- The number of nested levels. -/
def depth : SetExpr → Nat
  | nothing | char _ | range _ _ | named _ _ | letter _ _ | property _ _ => 0
  | union ss => 1 + depthAll ss
  | bracket _ s => 1 + depth s
  | op _ s t => 1 + max (depth s) (depth t)

/-- The number of nested levels of the deepest of several sets. -/
def depthAll : List SetExpr → Nat
  | [] => 0
  | s :: ss => max (depth s) (depthAll ss)

end

end SetExpr

/-- A piece of a pattern that matches at a place. -/
inductive Anchor where
  /-- `^` -/
  | lineStart
  /-- `$` -/
  | lineEnd
  /-- `\A` -/
  | textStart
  /-- `\z` -/
  | textEnd
  /-- `\b` -/
  | wordEdge
  /-- `\B` -/
  | noWordEdge
  /-- `\b{start}` or `\<` -/
  | wordStart
  /-- `\b{end}` or `\>` -/
  | wordEnd
  /-- `\b{start-half}` -/
  | afterNoWord
  /-- `\b{end-half}` -/
  | beforeNoWord
  deriving Repr, DecidableEq

/-- A pattern. -/
inductive Pattern where
  | empty
  /-- Flags that change from here to the end of the group. -/
  | flags (change : FlagChange)
  | char (l : Literal)
  | dot
  /-- A place. -/
  | anchor (a : Anchor)
  /-- A character of a set named by a letter, or one outside it. -/
  | letter (l : ClassLetter) (negated : Bool)
  /-- A character with a property, or one without it. -/
  | property (q : PropertyQuery) (negated : Bool)
  /-- A character of a set in brackets, or one outside it. -/
  | set (negated : Bool) (body : SetExpr)
  | repeated (body : Pattern) (least : Nat) (most : Option Nat)
  /-- A group, with the flags that change in it. -/
  | group (change : FlagChange) (body : Pattern)
  /-- Parts that follow one another. -/
  | concat (parts : List Pattern)
  /-- Parts of which any may match. -/
  | branches (parts : List Pattern)
  deriving Repr

namespace Pattern

/-- Parts that follow one another; of one part, that part. -/
def ofItems : List Pattern → Pattern
  | [] => empty
  | [p] => p
  | ps => concat ps

/-- Parts of which any may match; of one part, that part. -/
def ofBranches : List Pattern → Pattern
  | [p] => p
  | ps => branches ps

/-- The piece can be repeated. -/
def isRepeatable : Pattern → Bool
  | empty | flags _ => false
  | _ => true

mutual

/-- The number of nested levels. -/
def depth : Pattern → Nat
  | empty | flags _ | char _ | dot | anchor _ | letter _ _ | property _ _ => 0
  | set _ s => 1 + s.depth
  | repeated p _ _ => 1 + depth p
  | group _ p => 1 + depth p
  | concat ps => 1 + depthAll ps
  | branches ps => 1 + depthAll ps

/-- The number of nested levels of the deepest of several patterns. -/
def depthAll : List Pattern → Nat
  | [] => 0
  | p :: ps => max (depth p) (depthAll ps)

end

end Pattern

end CloneScan
