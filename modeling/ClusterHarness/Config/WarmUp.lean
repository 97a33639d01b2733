import ClusterHarness.Schema.Variant

/-!
# Warm-up strategies

How a data region loads the pages it has stored when its node starts again.
-/

namespace ClusterHarness.Config

inductive WarmUp where
  /-- Load nothing. -/
  | noOp
  | loadAll
  deriving Repr, DecidableEq

namespace WarmUp

/-- The name of the strategy in configurations. -/
def label : WarmUp → String
  | .noOp => "NoOp"
  | .loadAll => "LoadAll"

/-- The engine class of the strategy. -/
def className : WarmUp → String
  | .noOp => "org.apache.ignite.configuration.NoOpWarmUpConfiguration"
  | .loadAll => "org.apache.ignite.configuration.LoadAllWarmUpConfiguration"

/-- The strategies by name. -/
def variants : Schema.TaggedEnumeration WarmUp :=
  ⟨"WarmUpConfiguration", [.noOp, .loadAll], label⟩

/-- A strategy is an object that names it. -/
def codec : Schema.Codec WarmUp := variants.codec

end WarmUp

end ClusterHarness.Config
