import Stencil.Body.Token

/-! # Faults

The loops of a template must nest. A template with a fault is neither stored nor rendered.
-/

namespace Stencil

/-- A fault in the nesting of loops, with the position of the directive at fault. -/
inductive Fault where
  /-- A loop ends that was never begun. -/
  | unmatchedClose (position : Position)
  /-- The template ends in a loop; `depth` loops are open there and this is the innermost one. -/
  | unclosed (collection : String) (position : Position) (depth : Nat)
  /-- A loop begins inside too many others. -/
  | tooDeep (collection : String) (position : Position)
deriving DecidableEq, Repr

/-- The number of loops that may be open at once. -/
def maxLoopDepth : Nat := 64

namespace Fault

/-- The position of the directive at fault. -/
def position : Fault → Position
  | unmatchedClose position => position
  | unclosed _ position _ => position
  | tooDeep _ position => position

/-- What a fault says, without the place. -/
def complaint : Fault → String
  | unmatchedClose _ => "'\x7b\x7b/each\x7d\x7d' without a matching '\x7b\x7b#each\x7d\x7d'"
  | unclosed collection _ depth =>
    "loop over '" ++ collection ++ "' is never closed (" ++ Decimal.ofNat depth ++
      " open at end of template)"
  | tooDeep collection _ =>
    "loop over '" ++ collection ++ "' is nested deeper than " ++ Decimal.ofNat maxLoopDepth ++ " loops"

/-- A fault in words. -/
def message (fault : Fault) : String :=
  "syntax error at " ++ Warning.placeText fault.position.toPlace ++ ": " ++ fault.complaint

end Fault

end Stencil
