import ShootPlan.Conversion
import ShootPlan.JsonPointer
/-!
The life of a cluster: the first conversion that succeeds creates its Shoot, every later one
patches the Shoot of the last success. Between conversions others may change the Shoot.
-/
namespace ShootPlan

namespace Shoot

/-- Replace values inside the Shoot's document, in order; `none` when there is no such place. -/
def editDocument : List (JsonPointer.Path × Json) → Json → Option Json
  | [], json => some json
  | (path, value) :: rest, json => (JsonPointer.replace value path json).bind (editDocument rest)

/-- The Shoot as read back from its edited document. -/
def edit (shoot : Shoot) (edits : List (JsonPointer.Path × Json)) : Option (Except Fault Shoot) :=
  (editDocument edits (Coded.write shoot).canonical).map fun json => Coded.read json.canonical

end Shoot

namespace Lifecycle

/-- One conversion of a life. -/
structure Step where
  setup : Setup
  runtime : Runtime

/-- Nothing is there to patch before the first success. -/
def mode : Option Shoot → Mode
  | none => .create
  | some shoot => .patch (.ofShoot shoot)

def convert (current : Option Shoot) (step : Step) : Except ConversionError Shoot :=
  Conversion.run ⟨step.setup, mode current⟩ step.runtime

/-- A step that fails leaves the Shoot of the last success. -/
def advance (current : Option Shoot) (step : Step) : Option Shoot :=
  match convert current step with
  | .ok shoot => some shoot
  | .error _ => current

/-- The Shoot after all steps. -/
def run (current : Option Shoot) (steps : List Step) : Option Shoot := steps.foldl advance current

end Lifecycle

end ShootPlan
