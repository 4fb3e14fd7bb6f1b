import ShootPlan.Comparison
import ShootPlan.Yaml.Value
/-!
Shoot manifests: YAML texts with one Shoot each, and their comparison.
-/
namespace ShootPlan

inductive ManifestError where
  /-- A manifest is no YAML text or holds no Shoot. -/
  | unreadable (fault : Fault)
  | comparison (error : ComparisonError)
  deriving DecidableEq

namespace Manifest

def read (text : String) : Except Fault Shoot := Yaml.Value.read text

/-- Both manifests are read before anything is compared. -/
def compare (expected actual : String) : Except ManifestError Comparison := do
  let expected ← (read expected).mapError .unreadable
  let actual ← (read actual).mapError .unreadable
  (Comparison.ofShoots expected actual).mapError .comparison

end Manifest

end ShootPlan
