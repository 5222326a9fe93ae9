import RackFabric.Model.Persistence
import RackFabric.Model.Runtime

/-! Coordinator incarnations that share one state file. Each runs mutations,
saves and loads as it likes, and may stop at any point. -/
namespace RackFabric

structure Deployment where
  file : Option Bytes
  options : RackFabricOptions
  live : RackState

inductive Operation where
  /-- The running incarnation stops and another one starts fresh. -/
  | restart (options : RackFabricOptions)
  | mutate (input : Input)
  | save (options : PersistenceOptions) (outcome : WriteOutcome)
  | load (now : Timestamp) (readable : Bool)

namespace Deployment

def start (file : Option Bytes) (options : RackFabricOptions) : Deployment :=
  ⟨file, options, .fresh options⟩

def step (deployment : Deployment) : Operation → Deployment
  | .restart options => start deployment.file options
  | .mutate input =>
      { deployment with live := deployment.live.step deployment.options input }
  | .save options outcome =>
      match saveState deployment.live deployment.options.limits options with
      | .error _ => deployment
      | .ok bytes =>
          { deployment with
            file := writeFile deployment.file bytes options.atomicReplace outcome }
  | .load now readable =>
      match loadState deployment.options now deployment.file readable with
      | .error _ => deployment
      | .ok state => { deployment with live := state }

/-- The coordinator epoch that is in force. -/
def epoch (deployment : Deployment) : CoordinatorEpoch :=
  deployment.live.generations.coordinatorEpoch

end Deployment

end RackFabric
