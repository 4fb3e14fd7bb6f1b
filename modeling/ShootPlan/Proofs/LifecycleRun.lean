import Mathlib.Tactic
import ShootPlan.Proofs.ConversionOutcome
/-!
Runs of a life, one step after another. A step that fails changes nothing, so what every
successful patch keeps is kept by the whole run.
-/
namespace ShootPlan.Lifecycle

variable {P : Shoot → Prop} {step : Step} {steps : List Step} {shoot last : Shoot}

theorem run_cons (current : Option Shoot) (step : Step) (steps : List Step) :
    run current (step :: steps) = run (advance current step) steps := rfl

theorem run_append (current : Option Shoot) (steps later : List Step) :
    run current (steps ++ later) = run (run current steps) later := List.foldl_append

theorem advance_some (shoot : Shoot) (step : Step) :
    advance (some shoot) step = some shoot ∨
      ∃ next, convert (some shoot) step = .ok next ∧ advance (some shoot) step = some next := by
  unfold advance
  cases h : convert (some shoot) step with
  | error => exact .inl rfl
  | ok next => exact .inr ⟨next, rfl, rfl⟩

/-- A Shoot that was created is never lost. -/
theorem exists_run_eq_some (shoot : Shoot) (steps : List Step) :
    ∃ last, run (some shoot) steps = some last := by
  induction steps generalizing shoot with
  | nil => exact ⟨shoot, rfl⟩
  | cons step steps ih =>
    rw [run_cons]
    rcases advance_some shoot step with hsame | ⟨next, -, hadvance⟩
    · rw [hsame]
      exact ih shoot
    · rw [hadvance]
      exact ih next

theorem run_invariant
    (hstep : ∀ step ∈ steps, ∀ shoot next, P shoot → convert (some shoot) step = .ok next → P next)
    (h : P shoot) (hrun : run (some shoot) steps = some last) : P last := by
  induction steps generalizing shoot with
  | nil =>
    obtain rfl : shoot = last := Option.some.inj hrun
    exact h
  | cons step steps ih =>
    rw [run_cons] at hrun
    have hrest := fun s hs => hstep s (List.mem_cons_of_mem _ hs)
    rcases advance_some shoot step with hsame | ⟨next, hnext, hadvance⟩
    · rw [hsame] at hrun
      exact ih hrest h hrun
    · rw [hadvance] at hrun
      exact ih hrest (hstep step List.mem_cons_self shoot next h hnext) hrun

/-! A small setup and requests for it, to run lives on. -/

def sampleSetup : Setup where
  settings := {
    kubernetes := { defaultVersion := "1.30.0" }
    dns := ⟨"dns-secret", "example.com", "aws-route53"⟩
    machineImage := ⟨"gardenlinux", "1592.2.0"⟩
    gardener := ⟨"kyma"⟩
    auditLogging := { policyConfigMapName := "policy" } }
  auditLogs := .empty
  windows := .empty

/-- One pool in these zones, and a cluster version. -/
def sampleStep (provider : Hyperscaler) (version : String) (zones : List String) : Step where
  setup := sampleSetup
  runtime := {
    metadata := {}
    spec := {
      shoot := {
        name := "sample"
        region := "eu-1"
        secretBindingName := "binding"
        kubernetes := { version := some version }
        provider := {
          type := provider.name
          workers := [
            { name := "main", machine := { type := "m6.large" }, minimum := 1, maximum := 3, zones }] }
        networking := { pods := "10.96.0.0/13", nodes := "10.250.0.0/22", services := "10.104.0.0/13" } } } }

end ShootPlan.Lifecycle
