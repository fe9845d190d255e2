/-!
# Dispatch plans

How the draw commands of a frame are submitted: all at once where the device can, one by one
where it cannot.
-/

namespace SceneBatch

/-- How a list of draw commands is submitted. -/
inductive DispatchPlan where
  | nothing
  | single
  | multi (count : Nat)
  | sequential (count : Nat)
  deriving DecidableEq, Repr

namespace DispatchPlan

/-- The plan for `count` commands on a device that can, or cannot, submit several at once. -/
def ofCommands (count : Nat) (multiDraw : Bool) : DispatchPlan :=
  match count with
  | 0 => nothing
  | 1 => single
  | n => if multiDraw then multi n else sequential n

/-- How many draw calls a plan makes. -/
def drawCalls : DispatchPlan → Nat
  | nothing => 0
  | single => 1
  | multi _ => 1
  | sequential n => n

/-- The name of a plan. -/
def text : DispatchPlan → String
  | nothing => "None"
  | single => "Single"
  | multi n => s!"Multi({n})"
  | sequential n => s!"Sequential({n})"

end DispatchPlan

end SceneBatch
