import CloneScan.Regex.Basic
import CloneScan.Regex.Property
import CloneScan.Regex.Reader

/-!
# The Meaning of Patterns

The flags of a pattern are settled here, and what is left is an expression. Flags change from
where they stand to the end of the group around them, across the branches of that group; so
the meaning of a part comes with the flags that hold after it.

A pattern that does not count characters of all scripts speaks of bytes, and must not match
half a character. So a dot, a negated set, a property and a byte beyond ASCII are refused there,
and a set in brackets may hold ASCII alone. A single character written as itself is no byte and
may stand anywhere.

An expression may be of any size: what its repetitions and sets would take in memory is not
looked at.

## Main definitions

* `Flags`: The flags in force.
* `PropertyQuery.toSetFor`: The characters with a property, or those without it.
* `SetExpr.toSet`: The characters of a set.
* `Pattern.toRegex`: The expression a pattern is, under given flags.
* `Regex.ofChars`: The expression that a text is.
-/

namespace CloneScan

/-- The flags in force, as far as they bear on what a pattern matches. -/
structure Flags where
  /-- Letters match in either case. -/
  ignoreCase : Bool
  /-- A line's ends count as ends. -/
  multiLine : Bool
  /-- A dot matches line feeds too. -/
  dotAll : Bool
  /-- Characters of all scripts count. -/
  unicode : Bool
  /-- A carriage return and a line feed end a line together. -/
  crlf : Bool
  deriving Repr, DecidableEq

namespace Flags

/-- The flags at the start of a pattern. -/
def initial : Flags :=
  ⟨false, false, false, true, false⟩

/-- Switches one flag. -/
def set (f : Flags) (flag : Flag) (on : Bool) : Flags :=
  match flag with
  | .ignoreCase => { f with ignoreCase := on }
  | .multiLine => { f with multiLine := on }
  | .dotAll => { f with dotAll := on }
  | .unicode => { f with unicode := on }
  | .crlf => { f with crlf := on }
  | .lazily | .extended => f

/-- Switches the flags of a change. -/
def apply (f : Flags) (change : FlagChange) : Flags :=
  change.foldl (fun f c => f.set c.1 c.2) f

end Flags

namespace CharSet

/-- The set with the case variants that the flags call for. -/
def foldFor (f : Flags) (s : CharSet) : CharSet :=
  if f.ignoreCase then (if f.unicode then s.closeCase else s.closeAsciiCase) else s

/-- The set or what lies outside it. -/
def negateIf (negated : Bool) (s : CharSet) : CharSet :=
  if negated then s.compl else s

/-- The set, unless the flags speak of bytes and it reaches beyond ASCII. -/
def check (f : Flags) (s : CharSet) : Except PatternError CharSet :=
  if f.unicode || s.isAscii then .ok s else .error .beyondAscii

end CharSet

/-- The characters of a set named by a letter, or those outside it. -/
def ClassLetter.toSetFor (f : Flags) (l : ClassLetter) (negated : Bool) :
    Except PatternError CharSet :=
  ((if f.unicode then l.toSet else l.toAsciiSet).negateIf negated).check f

/-- The characters with a property, or those without it. -/
def PropertyQuery.toSetFor (f : Flags) (q : PropertyQuery) (negated : Bool) :
    Except PatternError CharSet :=
  if f.unicode then do return ((← q.toSet).foldFor f).negateIf negated
  else .error .propertyOfBytes

/-- The character may stand in a set: where the flags speak of bytes, it must be of ASCII. -/
def Literal.inSet (f : Flags) (l : Literal) : Except PatternError Char :=
  if f.unicode || l.char.toNat < 128 then .ok l.char else .error .beyondAscii

namespace SetExpr

/-- How two sets are combined. -/
def applyOp : SetOp → CharSet → CharSet → CharSet
  | .inter => CharSet.inter
  | .diff => CharSet.diff
  | .symmDiff => CharSet.symmDiff

mutual

/-- The characters of a set. Case variants join a set in brackets before it is negated, and
    both sides of a combination before they are combined. -/
def toSet (f : Flags) : SetExpr → Except PatternError CharSet
  | nothing => .ok .empty
  | char l => do return .single (← l.inSet f)
  | range first last => do return .range (← first.inSet f) (← last.inSet f)
  | named s negated => ((s.toSet.foldFor f).negateIf negated).check f
  | letter l negated => l.toSetFor f negated
  | property q negated => q.toSetFor f negated
  | union ss => unionOf f ss
  | bracket negated s => do ((((← toSet f s).foldFor f).negateIf negated).check f)
  | op kind s t => do return applyOp kind ((← toSet f s).foldFor f) ((← toSet f t).foldFor f)

/-- The characters of any of several sets. -/
def unionOf (f : Flags) : List SetExpr → Except PatternError CharSet
  | [] => .ok .empty
  | s :: ss => do return (← toSet f s).union (← unionOf f ss)

end

end SetExpr

/-- The characters that a single character of a pattern matches. -/
def Literal.toSet (f : Flags) (l : Literal) : Except PatternError CharSet :=
  if !f.unicode && l.isByte && 128 ≤ l.char.toNat then .error .beyondAscii
  else .ok ((CharSet.single l.char).foldFor f)

/-- The characters that a dot matches. -/
def Flags.dot (f : Flags) : Except PatternError CharSet :=
  if !f.unicode then .error .beyondAscii
  else if f.dotAll then .ok .all
  else if f.crlf then .ok ⟨fun c => c != '\n' && c != '\r'⟩
  else .ok ⟨fun c => c != '\n'⟩

/-- The condition that an anchor puts on a place. -/
def Anchor.toLook (f : Flags) : Anchor → Look
  | lineStart => if f.multiLine then .lineStart f.crlf else .textStart
  | lineEnd => if f.multiLine then .lineEnd f.crlf else .textEnd
  | textStart => .textStart
  | textEnd => .textEnd
  | wordEdge => .wordEdge f.unicode
  | noWordEdge => .noWordEdge f.unicode
  | wordStart => .wordStart f.unicode
  | wordEnd => .wordEnd f.unicode
  | afterNoWord => .afterNoWord f.unicode
  | beforeNoWord => .beforeNoWord f.unicode

namespace Pattern

mutual

/-- The expression a pattern is, and the flags that hold after it. -/
def toRegex (f : Flags) : Pattern → Except PatternError (Regex × Flags)
  | empty => .ok (.empty, f)
  | flags change => .ok (.empty, f.apply change)
  | char l => do return (.one (← l.toSet f), f)
  | dot => do return (.one (← f.dot), f)
  | anchor a => .ok (.look (a.toLook f), f)
  | letter l negated => do return (.one (← l.toSetFor f negated), f)
  | property q negated => do return (.one (← q.toSetFor f negated), f)
  | set negated s => do
    let members ← (((← s.toSet f).foldFor f).negateIf negated).check f
    return (.one members, f)
  | repeated p least most => do
    let (r, after) ← toRegex f p
    return (.repeated r least most, after)
  | group change p => do
    let (r, _) ← toRegex (f.apply change) p
    return (r, f)
  | concat ps => concatOf f ps
  | branches ps => branchesOf f ps

/-- Parts that follow one another. -/
def concatOf (f : Flags) : List Pattern → Except PatternError (Regex × Flags)
  | [] => .ok (.empty, f)
  | p :: ps => do
    let (r, after) ← toRegex f p
    let (s, last) ← concatOf after ps
    return (.seq r s, last)

/-- Parts of which any may match. The flags that a part changes hold in those after it. -/
def branchesOf (f : Flags) : List Pattern → Except PatternError (Regex × Flags)
  | [] => .ok (.one .empty, f)
  | p :: ps => do
    let (r, after) ← toRegex f p
    let (s, last) ← branchesOf after ps
    return (.alt r s, last)

end

end Pattern

namespace Regex

/-- The expression that a text is, where the pattern starts under given flags. -/
def ofCharsWith (f : Flags) (text : List Char) : Except PatternError Regex := do
  let pattern ← Pattern.ofChars text
  let (r, _) ← pattern.toRegex f
  return r

/-- The expression that a text is. -/
def ofChars (text : List Char) : Except PatternError Regex :=
  ofCharsWith .initial text

end Regex

end CloneScan
