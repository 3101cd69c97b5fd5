import Batching.Accumulator

namespace Batching

/-! What an accumulator is built from.

Each choice replaces an earlier one of its kind; a configuration gives both the name and
the policy.  Failures are logged under the name unless somebody else is told of them.
-/

structure Plan where
  name : String := ({} : Config).name
  policy : Policy := {}
  reporter : Option Reporter := none

namespace Plan

def named (plan : Plan) (name : String) : Plan :=
  { plan with name }

def governedBy (plan : Plan) (policy : Policy) : Plan :=
  { plan with policy }

def configuredBy (plan : Plan) (config : Config) : Plan :=
  { plan with name := config.name, policy := Policy.ofSettings config.batch }

def reportingTo (plan : Plan) (reporter : Reporter) : Plan :=
  { plan with reporter := some reporter }

def build {M : Type} (plan : Plan) : Accumulator M :=
  Accumulator.make plan.name plan.policy (plan.reporter.getD (.logging plan.name))

end Plan

/-- How an accumulator is called by the sink that it feeds. -/
def sinkLabel (sink : String) : String :=
  "BatchAccumulator[to: " ++ sink ++ "]"

end Batching
