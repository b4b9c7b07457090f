import Mathlib.Data.List.Perm.Basic
import Unified2.Capability.Assembly
import Unified2.Proofs.Capability.Resolving
import Unified2.Proofs.Queue

/-! What is loaded takes over the settings of a host and offers its tools, all of it or none. -/

namespace Unified2

namespace Host

/-- A collector that was asked for nothing takes over what settings ask for. -/
def newCollector (settings : Settings) : Collector :=
  { Collector.plain with
    interval := settings.pollInterval
    batch := settings.readLimit
    queue := { capacity := some settings.queueSize } }

end Host

namespace Capability

variable {settings : Settings} {factory : Factory}

/-- What a factory makes, once it took over settings. -/
def settled (settings : Settings) : Factory → Capability
  | .pageReader => .pageReader {}
  | .collector => .collector (Host.newCollector settings)

/-- Taking over settings leaves the tools as they are. -/
theorem tools_settled (settings : Settings) (factory : Factory) :
    (settled settings factory).tools = (make factory).tools := by
  cases factory <;> rfl

/-- What a factory makes takes over settings whose queue has a size. -/
theorem configure_make
    (fits : factory = .collector → (settings.queueSize : Int) < DropQueue.capacityLimit) :
    (make factory).configure settings = .ok (settled settings factory) := by
  cases factory with
  -- A reader of pages has no use for settings.
  | pageReader => rfl
  | collector =>
    simp only [make, configure, Collector.configure, DropQueue.ofCapacity_natCast (fits rfl)]
    rfl

/-- A collector cannot take over settings whose queue has no size. -/
theorem configure_collector_of_le (wide : DropQueue.capacityLimit ≤ settings.queueSize) :
    (make .collector).configure settings = .error .capacityTooWide := by
  simp only [make, configure, Collector.configure, DropQueue.ofCapacity_of_le wide]
  rfl

/-- Whatever takes over settings is then settled. -/
theorem eq_settled_of_configure {capability : Capability}
    (taken : (make factory).configure settings = .ok capability) :
    capability = settled settings factory := by
  -- Only a collector can be refused, for the size of its queue.
  by_cases wide : factory = .collector ∧ DropQueue.capacityLimit ≤ settings.queueSize
  · obtain ⟨rfl, wide⟩ := wide
    rw [configure_collector_of_le wide] at taken
    cases taken
  · rw [configure_make fun same => Int.not_le.mp fun large => wide ⟨same, large⟩] at taken
    exact (Except.ok.inj taken).symm

/-- Different capabilities have different tools, and none of them has one twice. -/
theorem nodup_tools {factories : List Factory} (differ : factories.Nodup) :
    (factories.flatMap fun factory => (make factory).tools).Nodup := by
  rw [List.nodup_flatMap]
  -- Between two capabilities only the pairs of different ones are left to compare.
  refine ⟨fun factory _ => by cases factory <;> decide, differ.imp fun {left right} other => ?_⟩
  cases left <;> cases right
  · exact absurd rfl other
  · simp [Function.onFun, tools, make]
  · simp [Function.onFun, tools, make]
  · exact absurd rfl other

end Capability

end Unified2
