import ClusterHarness.Config.Violation
import ClusterHarness.Schema.Override
import ClusterHarness.Schema.Record

/-!
# Discovery settings

Which addresses a node asks for the cluster when it joins, and on which ports it listens.
-/

namespace ClusterHarness.Config

/-- Discovery settings of a node. -/
structure Discovery where
  /-- Addresses of the form `host:port`. -/
  addresses : List String := []
  localPort : Option UInt16 := none
  localPortRange : Option UInt16 := none
  deriving Repr, DecidableEq

namespace Discovery

/-- The discovery settings of a node that asks nobody. -/
def default : Discovery := {}

def ofAddresses (addresses : List String) : Discovery := { addresses }

inductive Override where
  | localPort (value : UInt16)
  | localPortRange (value : UInt16)
  deriving Repr, DecidableEq

def apply (d : Discovery) : Override → Discovery
  | .localPort v => { d with localPort := some v }
  | .localPortRange v => { d with localPortRange := some v }

open Schema

def overrides : List (OverrideForm Override) :=
  [.of "local_port" .uint16 .localPort, .of "local_port_range" .uint16 .localPortRange]

def record : Record Discovery where
  name := "struct DiscoverySpi"
  start := { addresses := [], localPort := none, localPortRange := none }
  whole := false
  fields :=
    [.plain "addresses" (.list .text) addresses fun v d => { d with addresses := v },
     .optional "local_port" .uint16 localPort fun v d => { d with localPort := v },
     .optional "local_port_range" .uint16 localPortRange fun v d => { d with localPortRange := v }]

def codec : Codec Discovery := record.codec

def hasPort (address : String) : Bool := ':' ∈ address.toList

/-- Checks that every address names a port and that the local port is not zero. -/
def validate (d : Discovery) : Except Violation Unit := do
  if let some bad := d.addresses.find? fun a => !hasPort a then
    .error (.addressWithoutPort bad)
  require (d.localPort != some 0) .localPortZero

end Discovery

end ClusterHarness.Config
