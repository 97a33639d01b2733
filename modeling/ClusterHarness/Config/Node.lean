import ClusterHarness.Config.Discovery
import ClusterHarness.Config.Storage

/-!
# Node configurations

The configuration of one node of the cluster under test, server or client. Variants of a
configuration are made by overrides.
-/

namespace ClusterHarness.Config

/-- A way in which a node publishes its metrics. -/
inductive MetricExporter where
  | jmx
  | log
  | openCensus
  deriving Repr, DecidableEq

namespace MetricExporter

/-- The name of the exporter in configurations. -/
def label : MetricExporter → String
  | .jmx => "Jmx"
  | .log => "Log"
  | .openCensus => "OpenCensus"

def className : MetricExporter → String
  | .jmx => "org.apache.ignite.spi.metric.jmx.JmxMetricExporterSpi"
  | .log => "org.apache.ignite.spi.metric.log.LogExporterSpi"
  | .openCensus => "org.apache.ignite.spi.metric.opencensus.OpenCensusMetricExporterSpi"

def variants : Schema.Enumeration MetricExporter :=
  ⟨"MetricExporter", [.jmx, .log, .openCensus], label⟩

/-- An exporter is written as its name. -/
def codec : Schema.Codec MetricExporter := variants.codec

/-- The set of the given exporters: each once, in a fixed order. -/
def arrange (exporters : List MetricExporter) : List MetricExporter :=
  [.jmx, .log, .openCensus].filter fun e => e ∈ exporters

end MetricExporter

/-- After how many milliseconds without a sign a node counts as failed, where nothing is set. -/
def Node.defaultFailureDetectionTimeout : UInt64 := 10000

structure Node where
  version : Version := .dev
  clientMode : Bool := false
  consistentId : Option String := none
  peerClassLoadingEnabled : Bool := false
  /-- A set, in order and without duplicates. -/
  metricExporters : List MetricExporter := []
  /-- In milliseconds. -/
  failureDetectionTimeout : UInt64 := Node.defaultFailureDetectionTimeout
  discovery : Option Discovery := none
  storage : Option Storage := none
  deriving Repr, DecidableEq

namespace Node

/-- The configuration of a node of the development branch, with nothing set. -/
def default : Node := {}

/-- The configuration of a node of a version, with nothing else set. -/
def ofVersion (version : Version) : Node := { default with version }

inductive Override where
  | version (value : Version)
  | clientMode (value : Bool)
  | consistentId (value : String)
  | peerClassLoadingEnabled (value : Bool)
  | metricExporters (value : List MetricExporter)
  | failureDetectionTimeout (value : UInt64)
  | discovery (value : Discovery)
  | storage (value : Storage)
  deriving Repr, DecidableEq

def apply (n : Node) : Override → Node
  | .version v => { n with version := v }
  | .clientMode v => { n with clientMode := v }
  | .consistentId v => { n with consistentId := some v }
  | .peerClassLoadingEnabled v => { n with peerClassLoadingEnabled := v }
  | .metricExporters v => { n with metricExporters := MetricExporter.arrange v }
  | .failureDetectionTimeout v => { n with failureDetectionTimeout := v }
  | .discovery v => { n with discovery := some v }
  | .storage v => { n with storage := some v }

/-- The configuration of a client of the nodes at the given addresses. -/
def asClient (n : Node) (addresses : List String) : Node :=
  (n.apply (.clientMode true)).apply (.discovery (.ofAddresses addresses))

open Schema

def overrides : List (OverrideForm Override) :=
  [.of "version" Version.codec .version,
   .of "client_mode" .bool .clientMode,
   .of "consistent_id" .text .consistentId,
   .of "peer_class_loading_enabled" .bool .peerClassLoadingEnabled,
   .of "metric_exporters" (.list MetricExporter.codec) .metricExporters,
   .of "failure_detection_timeout" .uint64 .failureDetectionTimeout,
   .of "discovery_spi" Discovery.codec .discovery,
   .of "data_storage" Storage.codec .storage]

def record : Record Node where
  name := "struct NodeConfiguration"
  start :=
    { version := .dev
      clientMode := false
      consistentId := none
      peerClassLoadingEnabled := false
      metricExporters := []
      failureDetectionTimeout := defaultFailureDetectionTimeout
      discovery := none
      storage := none }
  whole := false
  fields :=
    [.plain "version" Version.codec version fun v n => { n with version := v },
     .plain "client_mode" .bool clientMode fun v n => { n with clientMode := v },
     .optional "consistent_id" .text consistentId fun v n => { n with consistentId := v },
     .plain "peer_class_loading_enabled" .bool peerClassLoadingEnabled
       fun v n => { n with peerClassLoadingEnabled := v },
     .listed "metric_exporters" (.sorted MetricExporter.codec MetricExporter.arrange)
       metricExporters fun v n => { n with metricExporters := v },
     .plain "failure_detection_timeout" .uint64 failureDetectionTimeout
       fun v n => { n with failureDetectionTimeout := v },
     .optional "discovery_spi" Discovery.codec discovery fun v n => { n with discovery := v },
     .optional "data_storage" Storage.codec storage fun v n => { n with storage := v }]

def codec : Codec Node := record.codec

/-- Checks the node's own fields, then its discovery, then its storage. -/
def validate (n : Node) : Except Violation Unit := do
  require (n.failureDetectionTimeout != 0) .failureDetectionTimeout
  if let some id := n.consistentId then require (!Text.isBlankText id) .blankConsistentId
  if let some discovery := n.discovery then discovery.validate
  if let some storage := n.storage then storage.validate

end Node

end ClusterHarness.Config
