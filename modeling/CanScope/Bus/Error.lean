/-!
# What can go wrong on a channel
-/
namespace CanScope

inductive BusError where
  | closed (channel : String)
  /-- The subscriber fell behind, and that many events were lost to it. -/
  | lagged (channel : String) (skipped : Nat)
  | malformed (reason : String)
  deriving DecidableEq, Repr

def BusError.message : BusError → String
  | .closed channel => "channel '" ++ channel ++ "' is closed"
  | .lagged channel skipped =>
    "subscriber on '" ++ channel ++ "' lagged behind by " ++ toString skipped ++ " records"
  | .malformed reason => "malformed record: " ++ reason

end CanScope
