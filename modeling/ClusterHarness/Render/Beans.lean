import ClusterHarness.Config.Node
import ClusterHarness.Xml.Element

/-!
# Configurations as beans

The bean definitions by which the engine reads a node configuration. Fields that are unset have no
property, so that the engine's own default holds. The version is not part of the definition.
-/

namespace ClusterHarness.Render

open Config
open Xml (Element)

def property (name value : String) : Element :=
  .bare "property" [("name", name), ("value", value)]

/-- A property that holds one other element. -/
def holder (name : String) (content : Element) : Element :=
  .node "property" [("name", name)] [content]

def bean (className : String) (properties : List Element) : Element :=
  .node "bean" [("class", className)] properties

/-- A bean without properties. -/
def bareBean (className : String) : Element := .bare "bean" [("class", className)]

def list (items : List Element) : Element := .node "list" [] items

/-- The property of a field that may be unset. -/
def optional (name : String) (show_ : α → String) (value : Option α) : List Element :=
  (value.map fun v => property name (show_ v)).toList

/-- The text of a size or a time of 64 bits. -/
def wordText (n : UInt64) : String := Text.natText n.toNat

def warmUpProperty (name : String) (warmUp : Option WarmUp) : List Element :=
  (warmUp.map fun w => holder name (bareBean w.className)).toList

def regionBean (r : Region) : Element :=
  bean "org.apache.ignite.configuration.DataRegionConfiguration" <|
    [property "name" r.name,
     property "persistenceEnabled" (Text.boolText r.persistenceEnabled),
     property "initialSize" (wordText r.initialSize),
     property "maxSize" (wordText r.maxSize),
     property "metricsEnabled" (Text.boolText r.metricsEnabled)]
    ++ optional "metricsRateTimeInterval" wordText r.metricsRateTimeInterval
    ++ optional "checkpointPageBufferSize" wordText r.checkpointPageBufferSize
    ++ optional "cdcEnabled" Text.boolText r.cdcEnabled
    ++ optional "lazyMemoryAllocation" Text.boolText r.lazyMemoryAllocation
    ++ warmUpProperty "warmUpConfiguration" r.warmUp

/-- The property of the additional regions, if there are any. -/
def regionsProperty (regions : List Region) : List Element :=
  if regions.isEmpty then []
  else [holder "dataRegionConfigurations" (list (regions.map regionBean))]

def storageBean (s : Storage) : Element :=
  bean "org.apache.ignite.configuration.DataStorageConfiguration" <|
    [holder "defaultDataRegionConfiguration" (regionBean s.defaultRegion)]
    ++ regionsProperty s.regions
    ++ optional "pageSize" (fun n : UInt32 => Text.natText n.toNat) s.pageSize
    ++ optional "walMode" WalMode.label s.walMode
    ++ optional "walPath" id s.walPath
    ++ optional "walArchivePath" id s.walArchivePath
    ++ optional "cdcWalPath" id s.cdcWalPath
    ++ optional "walSegmentSize" wordText s.walSegmentSize
    ++ optional "walBufferSize" wordText s.walBufferSize
    ++ optional "walHistorySize" (fun n : UInt32 => Text.natText n.toNat) s.walHistorySize
    ++ optional "maxWalArchiveSize" wordText s.maxWalArchiveSize
    ++ optional "walCompactionEnabled" Text.boolText s.walCompactionEnabled
    ++ optional "writeRecoveryDataOnCheckpoint" Text.boolText s.writeRecoveryDataOnCheckpoint
    ++ optional "walForceArchiveTimeout" wordText s.walForceArchiveTimeout
    ++ optional "checkpointFrequency" wordText s.checkpointFrequency
    ++ optional "metricsRateTimeInterval" wordText s.metricsRateTimeInterval
    ++ optional "walPageCompression" Compression.label s.walPageCompression
    ++ optional "walPageCompressionLevel" (fun n : Int32 => Text.intText n.toInt)
      s.walPageCompressionLevel
    ++ optional "checkpointRecoveryDataCompression" Compression.label
      s.checkpointRecoveryDataCompression
    ++ optional "checkpointRecoveryDataCompressionLevel" (fun n : Int32 => Text.intText n.toInt)
      s.checkpointRecoveryDataCompressionLevel
    ++ [property "metricsEnabled" (Text.boolText s.metricsEnabled)]
    ++ warmUpProperty "defaultWarmUpConfiguration" s.defaultWarmUp

def discoveryBean (d : Discovery) : Element :=
  bean "org.apache.ignite.spi.discovery.tcp.TcpDiscoverySpi" <|
    optional "localPort" (fun n : UInt16 => Text.natText n.toNat) d.localPort
    ++ optional "localPortRange" (fun n : UInt16 => Text.natText n.toNat) d.localPortRange
    ++ [holder "ipFinder" <|
        bean "org.apache.ignite.spi.discovery.tcp.ipfinder.vm.TcpDiscoveryVmIpFinder"
          [holder "addresses" (list (d.addresses.map fun a => .leaf "value" a))]]

/-- The property of the metric exporters, if there are any. -/
def exportersProperty (exporters : List MetricExporter) : List Element :=
  if exporters.isEmpty then []
  else [holder "metricExporterSpi" (list (exporters.map fun e => bareBean e.className))]

def nodeBean (n : Node) : Element :=
  bean "org.apache.ignite.configuration.IgniteConfiguration" <|
    [property "clientMode" (Text.boolText n.clientMode)]
    ++ optional "consistentId" id n.consistentId
    ++ [property "peerClassLoadingEnabled" (Text.boolText n.peerClassLoadingEnabled),
        property "failureDetectionTimeout" (wordText n.failureDetectionTimeout)]
    ++ exportersProperty n.metricExporters
    ++ (n.discovery.map fun d => holder "discoverySpi" (discoveryBean d)).toList
    ++ (n.storage.map fun s => holder "dataStorageConfiguration" (storageBean s)).toList

def beans (content : List Element) : Element :=
  .node "beans"
    [("xmlns", "http://www.springframework.org/schema/beans"),
     ("xmlns:xsi", "http://www.w3.org/2001/XMLSchema-instance"),
     ("xsi:schemaLocation", "http://www.springframework.org/schema/beans "
       ++ "http://www.springframework.org/schema/beans/spring-beans.xsd")]
    content

def nodeTree (n : Node) : Element := beans [nodeBean n]

end ClusterHarness.Render
