import ShootPlan.Lifecycle
import ShootPlan.Manifest
import ShootPlan.Proofs.AppendedZones
import ShootPlan.Proofs.AuditLogging
import ShootPlan.Proofs.ComparisonReport
import ShootPlan.Proofs.ConfigLikeness
import ShootPlan.Proofs.Convergence
import ShootPlan.Proofs.CreateConditions
import ShootPlan.Proofs.DeclaredNetwork
import ShootPlan.Proofs.DocumentForms
import ShootPlan.Proofs.ExtenderOrder
import ShootPlan.Proofs.ExtensionMerge
import ShootPlan.Proofs.InPlace
import ShootPlan.Proofs.KeptDocuments
import ShootPlan.Proofs.KeyedHistory
import ShootPlan.Proofs.NetworkPartition
import ShootPlan.Proofs.NoDowngrade
import ShootPlan.Proofs.ObjectForms
import ShootPlan.Proofs.PriorState
import ShootPlan.Proofs.ZoneBatches
import ShootPlan.Proofs.ZoneLifecycle
import ShootPlan.Proofs.ZoneSpelling
import ShootPlan.Proofs.PatchedPools
import ShootPlan.Proofs.NewPools
import ShootPlan.Proofs.DocumentGrowth
import ShootPlan.Proofs.ExtensionMaps
import ShootPlan.Proofs.VersionNumbers
import ShootPlan.Proofs.CidrGrammar
import ShootPlan.Proofs.WordAgreement
import ShootPlan.Proofs.LoadedWindows
