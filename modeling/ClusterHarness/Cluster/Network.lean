import ClusterHarness.Error

/-!
# The network

Which addresses are bound, and by whom. Nodes that want to join a cluster find it here.
-/

namespace ClusterHarness.Cluster

/-- The addresses that are bound, with their owners. -/
structure Network (ι : Type) where
  bindings : List (String × ι) := []
  deriving Repr, DecidableEq

namespace Network

def owner? (n : Network ι) (address : String) : Option ι := n.bindings.lookup address

def isBound (n : Network ι) (address : String) : Bool := (n.owner? address).isSome

/-- Binds addresses to an owner: all of them, or none when one is taken. -/
def bindAll (n : Network ι) (addresses : List String) (owner : ι) :
    Except StartObstacle (Network ι) :=
  match addresses.find? n.isBound with
  | some taken => .error (.addressTaken taken)
  | none => .ok ⟨n.bindings ++ addresses.map fun address => (address, owner)⟩

/-- Releases addresses, whoever owns them. -/
def unbindAll (n : Network ι) (addresses : List String) : Network ι :=
  ⟨n.bindings.filter fun (address, _) => address ∉ addresses⟩

def resolve? (n : Network ι) (addresses : List String) : Option ι := addresses.findSome? n.owner?

end Network

end ClusterHarness.Cluster
