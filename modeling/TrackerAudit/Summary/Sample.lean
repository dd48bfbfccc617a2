import TrackerAudit.Evidence.Fault

/-!
# Mean and standard deviation

Numbers are added from the first to the last. A mean needs at least one value, and a standard deviation of a sample at
least two.
-/

namespace TrackerAudit.Sample

/-- The sum of values. The sum of none is -0, which is neutral for all floats. -/
def sum (values : List Float) : Float := values.foldl (· + ·) (-0.0)

/-- The mean of values. -/
def mean (values : List Float) : Except Undefined Float :=
  if values.isEmpty then .error .meanOfNothing else .ok (sum values / Float.ofNat values.length)

/-- The standard deviation of a sample. -/
def deviation (values : List Float) : Except Undefined Float :=
  if values.length < 2 then .error (.deviationOf values.length)
  else do
    let m ← mean values
    let squares := values.map fun v => (v - m) * (v - m)
    return (sum squares / Float.ofNat (values.length - 1)).sqrt

end TrackerAudit.Sample
