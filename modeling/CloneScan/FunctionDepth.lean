/-!
# Function Depth

How many function definitions enclose a place of a file. The depth never falls below zero: an
exit that matches no entry is an error and changes nothing. At the end of a file every
function must have been left.

## Main definitions

* `FunctionDepth`: The number of enclosing function definitions.
* `DepthError`: How entries and exits fail to match.
* `FunctionDepth.enter`, `FunctionDepth.leave`, `FunctionDepth.finish`: The steps of a file.
-/

namespace CloneScan

/-- How entries and exits fail to match. -/
inductive DepthError where
  /-- A function was left that was never entered. -/
  | unmatchedExit
  /-- The file ended inside functions. -/
  | stillOpen (depth : Nat)
  deriving Repr, DecidableEq

/-- How entries and exits fail to match, in words. -/
def DepthError.message : DepthError → String
  | unmatchedExit => "function scope exited at depth 0"
  | stillOpen depth => s!"{depth} function scope(s) still open at end of file"

/-- The number of function definitions that enclose a place. -/
structure FunctionDepth where
  /-- The number of functions entered and not left. -/
  depth : Nat
  deriving Repr, DecidableEq, Inhabited

namespace FunctionDepth

/-- Outside every function, as at the start of a file. -/
def outside : FunctionDepth :=
  ⟨0⟩

/-- A function definition begins. -/
def enter (d : FunctionDepth) : FunctionDepth :=
  ⟨d.depth + 1⟩

/-- A function definition ends. -/
def leave (d : FunctionDepth) : Except DepthError FunctionDepth :=
  match d.depth with
  | 0 => .error .unmatchedExit
  | n + 1 => .ok ⟨n⟩

/-- Some function encloses the place. -/
def isInside (d : FunctionDepth) : Bool :=
  d.depth > 0

/-- The file ends here: every function must have been left. -/
def finish (d : FunctionDepth) : Except DepthError Unit :=
  match d.depth with
  | 0 => .ok ()
  | n + 1 => .error (.stillOpen (n + 1))

end FunctionDepth

end CloneScan
