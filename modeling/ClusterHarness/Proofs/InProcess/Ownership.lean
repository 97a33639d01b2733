import ClusterHarness.InProcess.Services
import ClusterHarness.Proofs.Cluster.Network
import ClusterHarness.Proofs.InProcess.Effect
import ClusterHarness.Proofs.InProcess.Plan
import Mathlib.Data.List.Nodup

/-! # Who owns an address

A launch owns its addresses from the moment at which they are bound until they are released: while its
configurations are written, and while it is the launch of its cluster that runs. Two launches of one
cluster never own addresses at once, since both would own that of the first member. So a release
takes away nothing that belongs to another cluster, although it asks for no owner, and an installation
finds no other launch in its place, although it does not look.

All of this needs that nobody gives up a start: a start that is given up while it writes keeps its
addresses bound for nobody.
-/

namespace ClusterHarness.InProcess

open Cluster

/-- Whether the addresses are bound and the launch is not installed yet. -/
def Launch.isBinding (x : Launch) : Bool := x.phase matches .rendering _

theorem Launch.isBinding_of_phase {x : Launch} {written : Nat} (phase : x.phase = .rendering written) :
    x.isBinding = true := by
  rw [Launch.isBinding, phase]

/-- Whether a launch has its addresses: it is being written, or it runs. -/
def State.Holds (s : State) (l : LaunchId) (x : Launch) : Prop :=
  x.isBinding = true ∨ s.running? x.cluster = some l

/-- Whether a launch has the first address of its cluster, and no address twice. -/
def Launch.IsPlanned (clusters : List ManagedCluster) (x : Launch) : Prop :=
  ∃ cluster : ManagedCluster, clusters[x.cluster]? = some cluster ∧
    cluster.addressAt 0 ∈ x.addresses ∧ x.addresses.Nodup

/-- What keeps the owners of addresses apart. -/
structure Owned (s : State) : Prop where
  /-- Every binding is one of a launch that has the address. -/
  holder : ∀ {a : String} {l : LaunchId}, (a, l) ∈ s.network.bindings →
    ∃ x : Launch, s.launches[l]? = some x ∧ a ∈ x.addresses ∧ s.Holds l x
  /-- A launch that has its addresses has them bound. -/
  bound : ∀ {l : LaunchId} {x : Launch}, s.launches[l]? = some x → s.Holds l x →
    ∀ a ∈ x.addresses, (a, l) ∈ s.network.bindings
  /-- No address is bound twice. -/
  distinct : (s.network.bindings.map Prod.fst).Nodup
  /-- The launches of a cluster have its first address in common, and no address twice. -/
  planned : ∀ {l : LaunchId} {x : Launch}, s.launches[l]? = some x → x.IsPlanned s.clusters
  /-- The launch that runs is one of its cluster, and it has been installed. -/
  installed : ∀ {c : ClusterId} {l : LaunchId}, s.running? c = some l →
    ∃ x : Launch, s.launches[l]? = some x ∧ x.cluster = c ∧ x.isBinding = false ∧
      x.phase ≠ .accepted

namespace Owned

variable {s t : State}

theorem same_owner (own : Owned s) {a : String} {k l : LaunchId}
    (first : (a, k) ∈ s.network.bindings) (second : (a, l) ∈ s.network.bindings) : k = l := by
  have := List.inj_on_of_nodup_map own.distinct first second rfl
  exact congrArg Prod.snd this

/-- Of the launches of one cluster only one has addresses. -/
theorem one_holder (own : Owned s) {k l : LaunchId} {x y : Launch}
    (hx : s.launches[k]? = some x) (hy : s.launches[l]? = some y) (same : x.cluster = y.cluster)
    (holdsX : s.Holds k x) (holdsY : s.Holds l y) : k = l := by
  obtain ⟨cluster, found, first, -⟩ := own.planned hx
  obtain ⟨cluster', found', first', -⟩ := own.planned hy
  rw [same, found'] at found
  cases found
  exact own.same_owner (own.bound hx holdsX _ first) (own.bound hy holdsY _ first')

end Owned

/-- What a launch owns, and whether it may come to own anything, stays as it was. -/
structure SameClaim (x y : Launch) : Prop where
  cluster : y.cluster = x.cluster
  addresses : y.addresses = x.addresses
  binding : y.isBinding = x.isBinding
  accepted : y.phase = .accepted → x.phase = .accepted

theorem SameClaim.refl (x : Launch) : SameClaim x x := ⟨rfl, rfl, rfl, id⟩

theorem SameClaim.trans {x y z : Launch} (first : SameClaim x y) (second : SameClaim y z) :
    SameClaim x z where
  cluster := second.cluster.trans first.cluster
  addresses := second.addresses.trans first.addresses
  binding := second.binding.trans first.binding
  accepted h := first.accepted (second.accepted h)

/-- A task of a member goes on. -/
theorem SameClaim.setSeat (x : Launch) (i : Nat) (stage : SeatStage) :
    SameClaim x { x with seats := x.seats.modify i fun seat => { seat with stage } } where
  cluster := rfl
  addresses := by
    have same : (x.seats.modify i fun seat => { seat with stage }).map Seat.member =
        x.seats.map Seat.member := map_modify_of_same _ _ fun _ => rfl
    have both := congrArg (List.filterMap Member.address) same
    simpa only [Launch.addresses, List.filterMap_map, Function.comp_def] using both
  binding := rfl
  accepted := id

/-- The launches stay the same as far as addresses go. -/
structure SameClaims (old new : List Launch) : Prop where
  back : ∀ {l : LaunchId} {y : Launch}, new[l]? = some y → ∃ x : Launch, old[l]? = some x ∧ SameClaim x y
  forth : ∀ {l : LaunchId} {x : Launch}, old[l]? = some x → ∃ y : Launch, new[l]? = some y ∧ SameClaim x y

namespace SameClaims

theorem refl (launches : List Launch) : SameClaims launches launches where
  back h := ⟨_, h, .refl _⟩
  forth h := ⟨_, h, .refl _⟩

theorem trans {a b c : List Launch} (first : SameClaims a b) (second : SameClaims b c) :
    SameClaims a c where
  back h := by
    obtain ⟨y, hy, same⟩ := second.back h
    obtain ⟨x, hx, same'⟩ := first.back hy
    exact ⟨x, hx, same'.trans same⟩
  forth h := by
    obtain ⟨y, hy, same⟩ := first.forth h
    obtain ⟨z, hz, same'⟩ := second.forth hy
    exact ⟨z, hz, same.trans same'⟩

theorem modify {launches : List Launch} {l : LaunchId} {f : Launch → Launch}
    (h : ∀ x, launches[l]? = some x → SameClaim x (f x)) :
    SameClaims launches (launches.modify l f) where
  back {k y} hy := by
    by_cases hk : l = k
    · subst hk
      simp only [List.getElem?_modify_eq, Option.map_eq_map, Option.map_eq_some_iff] at hy
      obtain ⟨x, hx, rfl⟩ := hy
      exact ⟨x, hx, h x hx⟩
    · rw [List.getElem?_modify_ne f launches hk] at hy
      exact ⟨y, hy, .refl y⟩
  forth {k x} hx := by
    by_cases hk : l = k
    · subst hk
      exact ⟨f x, by simp [hx], h x hx⟩
    · exact ⟨x, by rw [List.getElem?_modify_ne f launches hk, hx], .refl x⟩

theorem setTopology (launches : List Launch) (l : LaunchId) (topology : Topology) :
    SameClaims launches (launches.modify l fun x => { x with topology }) :=
  .modify fun _ _ => ⟨rfl, rfl, rfl, id⟩

theorem setSeat (launches : List Launch) (l : LaunchId) (i : Nat) (stage : SeatStage) :
    SameClaims launches (launches.modify l fun x =>
      { x with seats := x.seats.modify i fun seat => { seat with stage } }) :=
  .modify fun x _ => .setSeat x i stage

/-- A start call goes on, and whether it has its addresses stays as it was. -/
theorem setPhase {launches : List Launch} {l : LaunchId} {x : Launch} {phase : StartPhase}
    (found : launches[l]? = some x) (binding : (phase matches .rendering _) = x.isBinding)
    (begun : phase ≠ .accepted) :
    SameClaims launches (launches.modify l fun x => { x with phase }) := by
  refine .modify fun y hy => ?_
  cases found.symm.trans hy
  exact ⟨rfl, rfl, binding, fun accepted => absurd accepted begun⟩

end SameClaims

/-- The clusters stay where they are, each with its first address. -/
def SameAddresses (old new : List ManagedCluster) : Prop :=
  ∀ (c : ClusterId) (cluster : ManagedCluster), old[c]? = some cluster →
    ∃ cluster' : ManagedCluster, new[c]? = some cluster' ∧
      cluster'.addressAt 0 = cluster.addressAt 0

namespace SameAddresses

theorem refl (clusters : List ManagedCluster) : SameAddresses clusters clusters :=
  fun _ cluster found => ⟨cluster, found, rfl⟩

theorem append (clusters more : List ManagedCluster) : SameAddresses clusters (clusters ++ more) :=
  fun _ cluster found =>
    ⟨cluster, (List.getElem?_append_left (List.getElem?_eq_some_iff.mp found).1).trans found, rfl⟩

theorem setRunning (clusters : List ManagedCluster) (c : ClusterId) (running : Option LaunchId) :
    SameAddresses clusters (clusters.modify c fun cluster => { cluster with running }) := by
  intro d cluster found
  by_cases hd : c = d
  · subst hd
    exact ⟨{ cluster with running }, by simp [found], rfl⟩
  · exact ⟨cluster, (List.getElem?_modify_ne _ _ hd).trans found, rfl⟩

end SameAddresses

theorem Launch.IsPlanned.mono {old new : List ManagedCluster} {x y : Launch}
    (planned : x.IsPlanned old) (clusters : SameAddresses old new) (cluster : y.cluster = x.cluster)
    (addresses : y.addresses = x.addresses) : y.IsPlanned new := by
  obtain ⟨c, found, first, nodup⟩ := planned
  obtain ⟨c', found', same⟩ := clusters _ c found
  refine ⟨c', cluster ▸ found', ?_, addresses ▸ nodup⟩
  rw [addresses, same]
  exact first

/-! ## What runs -/

namespace State

variable {s : State}

theorem running?_append {cluster : ManagedCluster} (idle : cluster.running = none) (c : ClusterId) :
    State.running? { s with clusters := s.clusters ++ [cluster] } c = s.running? c := by
  simp only [running?, List.getElem?_append]
  split
  · rfl
  · rename_i beyond
    rw [List.getElem?_eq_none (Nat.le_of_not_lt beyond), List.getElem?_singleton]
    split
    · simp [idle]
    · rfl

/-- What runs in one cluster is set, and everything else runs as before. -/
theorem running?_of_modify {t : State} {c : ClusterId} {cluster : ManagedCluster}
    {running : Option LaunchId} (found : s.clusters[c]? = some cluster)
    (clusters : t.clusters = s.clusters.modify c fun cluster => { cluster with running })
    (d : ClusterId) : t.running? d = if c = d then running else s.running? d := by
  simp only [running?, clusters, List.getElem?_modify]
  split
  · rename_i same
    subst same
    simp [found]
  · simp

end State

namespace Owned

variable {s t : State}

/-- Nothing changes hands when the network, what runs and the claims of launches stay as they are. -/
theorem frame (own : Owned s) (network : t.network = s.network)
    (running : ∀ c, t.running? c = s.running? c) (clusters : SameAddresses s.clusters t.clusters)
    (claims : SameClaims s.launches t.launches) : Owned t where
  holder h := by
    rw [network] at h
    obtain ⟨x, hx, member, holds⟩ := own.holder h
    obtain ⟨y, hy, same⟩ := claims.forth hx
    refine ⟨y, hy, same.addresses ▸ member, ?_⟩
    rcases holds with binding | runs
    · exact .inl (same.binding.trans binding)
    · exact .inr (by rw [running, same.cluster]; exact runs)
  bound hy holds a member := by
    obtain ⟨x, hx, same⟩ := claims.back hy
    rw [network]
    rw [same.addresses] at member
    refine own.bound hx ?_ a member
    rcases holds with binding | runs
    · exact .inl (same.binding.symm.trans binding)
    · exact .inr (by rw [← running, ← same.cluster]; exact runs)
  distinct := network ▸ own.distinct
  planned hy := by
    obtain ⟨x, hx, same⟩ := claims.back hy
    exact (own.planned hx).mono clusters same.cluster same.addresses
  installed h := by
    rw [running] at h
    obtain ⟨x, hx, owner, idle, begun⟩ := own.installed h
    obtain ⟨y, hy, same⟩ := claims.forth hx
    exact ⟨y, hy, same.cluster.trans owner, same.binding.trans idle,
      fun accepted => begun (same.accepted accepted)⟩

/-- The clusters stay as they are, and so does what runs. -/
theorem frame_launches (own : Owned s) (network : t.network = s.network)
    (clusters : t.clusters = s.clusters) (claims : SameClaims s.launches t.launches) : Owned t :=
  own.frame network (fun c => by simp only [State.running?, clusters])
    (clusters ▸ .refl s.clusters) claims

/-- A launch that is installed finds no other one running in its place. -/
theorem vacant (own : Owned s) {l : LaunchId} {x : Launch} (hx : s.launches[l]? = some x)
    (binding : x.isBinding = true) : s.running? x.cluster = none := by
  cases running : s.running? x.cluster with
  | none => rfl
  | some k =>
      obtain ⟨y, hy, owner, idle, -⟩ := own.installed running
      have same := own.one_holder hy hx owner (.inr (owner.symm ▸ running)) (.inl binding)
      rw [same, hx] at hy
      cases hy
      rw [binding] at idle
      cases idle

/-- What a launch releases is its own. -/
theorem released (own : Owned s) {k l : LaunchId} {x : Launch} {a : String}
    (hx : s.launches[l]? = some x) (holds : s.Holds l x) (member : a ∈ x.addresses)
    (h : (a, k) ∈ s.network.bindings) : k = l :=
  own.same_owner h (own.bound hx holds a member)

/-- A launch gives up its addresses, and everything else keeps what it has. -/
theorem release (own : Owned s) {l : LaunchId} {x : Launch} {f : Launch → Launch}
    (hx : s.launches[l]? = some x) (holds : s.Holds l x)
    (network : t.network = s.network.unbindAll x.addresses)
    (launches : t.launches = s.launches.modify l f) (cluster : (f x).cluster = x.cluster)
    (addresses : (f x).addresses = x.addresses) (gone : ¬ t.Holds l (f x))
    (others : ∀ {k : LaunchId} {y : Launch}, k ≠ l → s.launches[k]? = some y →
      (t.Holds k y ↔ s.Holds k y))
    (clusters : SameAddresses s.clusters t.clusters)
    (running : ∀ {c : ClusterId} {k : LaunchId}, t.running? c = some k →
      k ≠ l ∧ s.running? c = some k) : Owned t := by
  have self : t.launches[l]? = some (f x) := by rw [launches]; simp [hx]
  have other : ∀ {k : LaunchId}, k ≠ l → t.launches[k]? = s.launches[k]? := by
    intro k hk
    rw [launches, List.getElem?_modify_ne f s.launches (Ne.symm hk)]
  refine ⟨?_, ?_, ?_, ?_, ?_⟩
  · intro a k h
    rw [network] at h
    simp only [Network.unbindAll, List.mem_filter, decide_eq_true_eq] at h
    obtain ⟨h, away⟩ := h
    obtain ⟨y, hy, member, holdsY⟩ := own.holder h
    have hk : k ≠ l := by
      intro same
      rw [same, hx] at hy
      cases hy
      exact away member
    exact ⟨y, other hk ▸ hy, member, (others hk hy).mpr holdsY⟩
  · intro k y hy holdsY a member
    have hk : k ≠ l := by
      intro same
      subst same
      rw [self] at hy
      cases hy
      exact gone holdsY
    rw [other hk] at hy
    have h := own.bound hy ((others hk hy).mp holdsY) a member
    rw [network]
    simp only [Network.unbindAll, List.mem_filter, decide_eq_true_eq]
    exact ⟨h, fun shared => hk (own.released hx holds shared h)⟩
  · rw [network]
    exact own.distinct.sublist (List.filter_sublist.map Prod.fst)
  · intro k y hy
    by_cases hk : k = l
    · subst hk
      cases self.symm.trans hy
      exact (own.planned hx).mono clusters cluster addresses
    · rw [other hk] at hy
      exact (own.planned hy).mono clusters rfl rfl
  · intro c k h
    obtain ⟨hk, h⟩ := running h
    obtain ⟨y, hy, installed⟩ := own.installed h
    exact ⟨y, other hk ▸ hy, installed⟩

/-- A launch that cannot be written gives up its addresses. -/
theorem discard (own : Owned s) {l : LaunchId} {x : Launch} {files : Files} {e : Error}
    (hx : s.launches[l]? = some x) (binding : x.isBinding = true) :
    Owned ({ s with files, network := s.network.unbindAll x.addresses }.setPhase l (.failed e)) := by
  have idle : ∀ {c : ClusterId}, s.running? c ≠ some l := by
    intro c runs
    obtain ⟨y, hy, -, installed, -⟩ := own.installed runs
    cases hx.symm.trans hy
    simp [binding] at installed
  refine own.release hx (.inl binding) rfl rfl rfl rfl ?_ (fun _ _ => .rfl) (.refl _) ?_
  · rintro (binding | runs)
    · cases binding
    · exact idle runs
  · intro c k runs
    exact ⟨fun same => idle (same ▸ runs), runs⟩

/-- A cluster that is stopped or dropped gives up its addresses. -/
theorem halt (own : Owned s) {c : ClusterId} {l : LaunchId} {x : Launch}
    (running : s.running? c = some l) (hx : s.launches[l]? = some x) :
    Owned (s.halted c l x.addresses) := by
  obtain ⟨y, hy, rfl, written, -⟩ := own.installed running
  cases hx.symm.trans hy
  obtain ⟨cluster, found, -, -⟩ := own.planned hx
  have runs : ∀ d, (s.halted x.cluster l x.addresses).running? d = _ :=
    State.running?_of_modify found rfl
  have off : ∀ {d : ClusterId} {k : LaunchId},
      (s.halted x.cluster l x.addresses).running? d = some k ↔
        x.cluster ≠ d ∧ s.running? d = some k := by
    intro d k
    rw [runs]
    split <;> simp [*]
  refine own.release hx (.inr running) rfl rfl rfl rfl ?_ ?_ (.setRunning _ _ _) ?_
  · rintro (binding | still)
    · exact absurd (written.symm.trans binding) nofun
    · exact (off.mp still).1 rfl
  · intro k y hk hy
    simp only [State.Holds, off]
    refine or_congr_right ⟨And.right, fun still => ⟨fun same => hk ?_, still⟩⟩
    rw [same, still] at running
    exact Option.some.inj running
  · intro d k still
    obtain ⟨apart, before⟩ := off.mp still
    refine ⟨?_, before⟩
    rintro rfl
    obtain ⟨z, hz, owner, -⟩ := own.installed before
    cases hx.symm.trans hz
    exact apart owner

/-- A launch that is new has no addresses yet. -/
theorem accept (own : Owned s) {c : ClusterId} {cluster : ManagedCluster} {config : Config.Node}
    {nodes generated : Nat} {members : List Member} (found : s.clusters[c]? = some cluster)
    (plan : cluster.plan config nodes (s.freshId cluster.name) = .ok members) :
    Owned { s with launches := s.launches ++ [.planned c cluster config members], generated } := by
  obtain ⟨some, -, rfl⟩ := ManagedCluster.plan_ok plan
  have old : ∀ {k : LaunchId} {y : Launch}, s.launches[k]? = .some y →
      (s.launches ++ [.planned c cluster config
        ((List.range nodes).map (cluster.memberAt config (s.freshId cluster.name)))])[k]? =
          .some y := by
    intro k y hy
    rw [List.getElem?_append_left (List.getElem?_eq_some_iff.mp hy).1, hy]
  have new : ∀ {k : LaunchId} {y : Launch},
      (s.launches ++ [.planned c cluster config
        ((List.range nodes).map (cluster.memberAt config (s.freshId cluster.name)))])[k]? =
          .some y → s.launches[k]? = .some y ∨ k = s.launches.length ∧ y = .planned c cluster config
        ((List.range nodes).map (cluster.memberAt config (s.freshId cluster.name))) :=
    of_getElem?_concat
  have running : ∀ {d : ClusterId} {k : LaunchId}, s.running? d = .some k → k < s.launches.length := by
    intro d k h
    obtain ⟨y, hy, -⟩ := own.installed h
    exact (List.getElem?_eq_some_iff.mp hy).1
  refine ⟨?_, ?_, own.distinct, ?_, ?_⟩
  · intro a l h
    obtain ⟨x, hx, member, holds⟩ := own.holder h
    exact ⟨x, old hx, member, holds⟩
  · intro l x hx holds a member
    rcases new hx with hx | ⟨rfl, rfl⟩
    · exact own.bound hx holds a member
    · rcases holds with binding | runs
      · cases binding
      · exact absurd (running runs) (Nat.lt_irrefl _)
  · intro l x hx
    rcases new hx with hx | ⟨rfl, rfl⟩
    · exact own.planned hx
    · refine ⟨cluster, found, ?_, ?_⟩
      · rw [Launch.addresses_planned]
        exact List.mem_map_of_mem (List.mem_range.mpr (Nat.pos_of_ne_zero some))
      · rw [Launch.addresses_planned]
        exact List.nodup_range.map fun i j => ManagedCluster.addressAt_injective
  · intro d l h
    obtain ⟨x, hx, installed⟩ := own.installed h
    exact ⟨x, old hx, installed⟩

/-- A launch gets its addresses, and no other launch had one of them. -/
theorem bind (own : Owned s) {l : LaunchId} {x : Launch} {network : Network LaunchId}
    (hx : s.launches[l]? = some x) (phase : x.phase = .accepted)
    (free : s.network.bindAll x.addresses l = .ok network) :
    Owned ({ s with network }.setPhase l (.rendering 0)) := by
  obtain ⟨unbound, rfl⟩ := Network.bindAll_ok free
  have self : (s.setPhase l (.rendering 0)).launches[l]? = some { x with phase := .rendering 0 } := by
    simp [State.setPhase, State.updateLaunch, hx]
  have other : ∀ {k : LaunchId}, k ≠ l →
      (s.setPhase l (.rendering 0)).launches[k]? = s.launches[k]? := by
    intro k hk
    exact List.getElem?_modify_ne _ _ (Ne.symm hk)
  have idle : ¬ s.Holds l x := by
    rintro (binding | runs)
    · simp [Launch.isBinding, phase] at binding
    · obtain ⟨y, hy, -, -, begun⟩ := own.installed runs
      rw [hx] at hy
      cases hy
      exact begun phase
  have apart : ∀ {a : String} {k : LaunchId}, (a, k) ∈ s.network.bindings → k ≠ l := by
    rintro a k h rfl
    obtain ⟨y, hy, -, holds⟩ := own.holder h
    rw [hx] at hy
    cases hy
    exact idle holds
  refine ⟨?_, ?_, ?_, ?_, ?_⟩
  · intro a k h
    rcases List.mem_append.mp h with h | h
    · obtain ⟨y, hy, member, holds⟩ := own.holder h
      exact ⟨y, (other (apart h)).trans hy, member, holds⟩
    · obtain ⟨b, member, same⟩ := List.mem_map.mp h
      cases same
      exact ⟨_, self, member, .inl rfl⟩
  · intro k y hy holds a member
    by_cases hk : k = l
    · subst hk
      cases self.symm.trans hy
      exact List.mem_append_right _ (List.mem_map.mpr ⟨a, member, rfl⟩)
    · exact List.mem_append_left _ (own.bound ((other hk).symm.trans hy) holds a member)
  · obtain ⟨_, -, -, nodup⟩ := own.planned hx
    show ((s.network.bindings ++ x.addresses.map fun a => (a, l)).map Prod.fst).Nodup
    rw [List.map_append, List.nodup_append]
    refine ⟨own.distinct, by simpa [Function.comp_def] using nodup, ?_⟩
    intro a taken b member same
    obtain ⟨⟨_, k⟩, h, rfl⟩ := List.mem_map.mp taken
    have member : b ∈ x.addresses := by simpa [Function.comp_def] using member
    exact unbound b member k (same ▸ h)
  · intro k y hy
    by_cases hk : k = l
    · subst hk
      cases self.symm.trans hy
      have planned := own.planned hx
      exact planned
    · exact own.planned ((other hk).symm.trans hy)
  · intro d k h
    obtain ⟨y, hy, owner, idle, begun⟩ := own.installed h
    have hk : k ≠ l := by
      rintro rfl
      rw [hx] at hy
      cases hy
      exact begun phase
    exact ⟨y, (other hk).trans hy, owner, idle, begun⟩

/-- A launch that is written becomes the one that runs, and keeps its addresses. -/
theorem install (own : Owned s) {l : LaunchId} {x : Launch} {cluster : ManagedCluster} {time : Nat}
    (hx : s.launches[l]? = some x) (binding : x.isBinding = true)
    (found : s.clusters[x.cluster]? = some cluster) (network : t.network = s.network)
    (launches : t.launches = s.launches.modify l (Launch.seated time))
    (clusters : t.clusters = s.clusters.modify x.cluster fun c => { c with running := some l }) :
    Owned t := by
  have idle := own.vacant hx binding
  have self : t.launches[l]? = some (x.seated time) := by simp [launches, hx]
  have other : ∀ {k : LaunchId}, k ≠ l → t.launches[k]? = s.launches[k]? := by
    intro k hk
    rw [launches, List.getElem?_modify_ne _ _ (Ne.symm hk)]
  have runs : ∀ d, t.running? d = if x.cluster = d then some l else s.running? d :=
    State.running?_of_modify found clusters
  have holds_self : t.Holds l (x.seated time) := .inr ((runs x.cluster).trans (if_pos rfl))
  have holds_iff : ∀ {k : LaunchId} {y : Launch}, k ≠ l → (t.Holds k y ↔ s.Holds k y) := by
    intro k y hk
    by_cases same : x.cluster = y.cluster
    · have before : s.running? y.cluster = none := same ▸ idle
      simp [State.Holds, runs, same, before, Ne.symm hk]
    · simp [State.Holds, runs, same]
  refine ⟨?_, ?_, network ▸ own.distinct, ?_, ?_⟩
  · intro a k h
    rw [network] at h
    obtain ⟨y, hy, member, holds⟩ := own.holder h
    by_cases hk : k = l
    · subst hk
      cases hx.symm.trans hy
      exact ⟨_, self, by rwa [Launch.addresses_seated], holds_self⟩
    · exact ⟨y, (other hk).trans hy, member, (holds_iff hk).mpr holds⟩
  · intro k y hy holds a member
    rw [network]
    by_cases hk : k = l
    · subst hk
      cases self.symm.trans hy
      rw [Launch.addresses_seated] at member
      exact own.bound hx (.inl binding) a member
    · have hy := (other hk).symm.trans hy
      exact own.bound hy ((holds_iff hk).mp holds) a member
  · intro k y hy
    by_cases hk : k = l
    · subst hk
      cases self.symm.trans hy
      exact (own.planned hx).mono (clusters ▸ .setRunning _ _ _) rfl (x.addresses_seated time)
    · exact (own.planned ((other hk).symm.trans hy)).mono (clusters ▸ .setRunning _ _ _) rfl rfl
  · intro d k h
    rw [runs] at h
    split at h
    · rename_i same
      cases h
      exact ⟨_, self, same, rfl, nofun⟩
    · rename_i apart
      obtain ⟨y, hy, owner, rest⟩ := own.installed h
      have hk : k ≠ l := by
        rintro rfl
        cases hx.symm.trans hy
        exact apart owner
      exact ⟨y, (other hk).trans hy, owner, rest⟩

/-- A move keeps the owners of addresses apart, unless it gives up a start. -/
theorem step (own : Owned s) {m : Move} (kept : ∀ l, m ≠ .abandon l) (h : s.after? m = some t) :
    Owned t := by
  cases Effect.of_after? h with
  | addCluster idle =>
      exact own.frame rfl (State.running?_append idle) (.append _ _) (.refl _)
  | addApplication => exact own.frame_launches rfl rfl (.refl _)
  | accepted found plan => exact own.accept found plan
  | bound found phase idle free => exact own.bind found phase free
  | refused found phase =>
      refine own.frame_launches rfl rfl (.setPhase found ?_ nofun)
      simp [Launch.isBinding, phase]
  | rendered found phase =>
      refine own.frame_launches rfl rfl (.setPhase found ?_ nofun)
      simp [Launch.isBinding, phase]
  | unrendered found phase =>
      exact own.discard found (Launch.isBinding_of_phase phase)
  | installed found phase owner =>
      exact own.install found (Launch.isBinding_of_phase phase) owner rfl rfl rfl
  | live found phase enough =>
      refine own.frame_launches rfl rfl (.setPhase found ?_ nofun)
      simp [Launch.isBinding, phase]
  | abandoned found => exact absurd rfl (kept _)
  | halted running found => exact own.halt running found
  | joined found seated due now room =>
      exact own.frame_launches rfl rfl (.trans (.setTopology _ _ _) (.setSeat _ _ _ _))
  | turnedAway found seated due now taken => exact own.frame_launches rfl rfl (.setSeat _ _ _ _)
  | calledOff found seated told due => exact own.frame_launches rfl rfl (.setSeat _ _ _ _)
  | left found seated told there =>
      exact own.frame_launches rfl rfl (.trans (.setTopology _ _ _) (.setSeat _ _ _ _))
  | runStarted target known idle => exact own.frame_launches rfl rfl (.refl _)
  | runTaken known running => exact own.frame_launches rfl rfl (.refl _)
  | runJoined found target stage room => exact own.frame_launches rfl rfl (.setTopology _ _ _)
  | runTurnedAway found target stage taken => exact own.frame_launches rfl rfl (.refl _)
  | runFinished found target stage => exact own.frame_launches rfl rfl (.refl _)
  | runUnsent found target stage failed => exact own.frame_launches rfl rfl (.refl _)
  | runSent found target stage sent => exact own.frame_launches rfl rfl (.setTopology _ _ _)
  | runJudged found target stage => exact own.frame_launches rfl rfl (.refl _)
  | runLeft found target stage => exact own.frame_launches rfl rfl (.setTopology _ _ _)
  | passed => exact own.frame_launches rfl rfl (.refl _)

/-- Nothing is owned in a new process. -/
theorem start (now : Nat) (files : Files) (marks : Nat → String) :
    Owned { now, files, marks } where
  holder h := by cases h
  bound h := by cases h
  distinct := .nil
  planned h := by cases h
  installed h := by cases h

theorem afterAll (own : Owned s) {moves : List Move} (kept : ∀ l, .abandon l ∉ moves)
    (h : s.afterAll? moves = some t) : Owned t := by
  refine State.afterAll?_invariant (fun m => ∀ l, m ≠ .abandon l) own (fun own => own.step) ?_ h
  rintro m member l rfl
  exact kept l member

/-- The addresses of what runs are those that are bound to it. -/
theorem discovered (own : Owned s) {c : ClusterId} {l : LaunchId} (running : s.running? c = some l) :
    (∀ a ∈ s.discoveryAddresses c, s.network.owner? a = some l) ∧
      s.network.resolve? (s.discoveryAddresses c) = some l := by
  obtain ⟨x, hx, rfl, -⟩ := own.installed running
  have addresses : s.discoveryAddresses x.cluster = x.addresses := by
    simp [State.discoveryAddresses, running, hx]
  obtain ⟨cluster, -, first, -⟩ := own.planned hx
  have bound := own.bound hx (.inr running)
  rw [addresses]
  exact ⟨fun a member => Network.owner?_of_mem own.distinct (bound a member),
    Network.resolve?_of_owned own.distinct (List.ne_nil_of_mem first) bound⟩

/-- A release of addresses takes a binding only from the launch that has them. -/
theorem released_from (own : Owned s) {k l : LaunchId} {x y : Launch} {a : String}
    (hy : s.launches[k]? = some y) (holds : s.Holds k y) (bound : s.network.owner? a = some l)
    (hx : s.launches[l]? = some x)
    (gone : (s.network.unbindAll y.addresses).owner? a ≠ some l) : k = l ∧ y = x := by
  have member : a ∈ y.addresses := by
    by_contra other
    exact gone ((Network.owner?_unbindAll other).trans bound)
  have same := own.same_owner (own.bound hy holds a member) (Network.mem_of_owner? bound)
  subst same
  exact ⟨rfl, Option.some.inj (hy.symm.trans hx)⟩

/-- Only a launch that is taken off, or that cannot be written, loses a binding, and only its own. -/
theorem lost (own : Owned s) {m : Move} {a : String} {l : LaunchId} {x : Launch}
    (h : s.after? m = some t) (bound : s.network.owner? a = some l) (hx : s.launches[l]? = some x)
    (gone : t.network.owner? a ≠ some l) :
    m = .halt x.cluster ∧ s.running? x.cluster = some l ∨ m = .render l ∧ x.isBinding = true := by
  have same : t.network ≠ s.network := fun network => gone (network ▸ bound)
  cases Effect.of_after? h with
  | bound found phase idle free => exact absurd (Network.owner?_bindAll free bound) gone
  | unrendered found phase =>
      have binding := Launch.isBinding_of_phase phase
      obtain ⟨rfl, rfl⟩ := own.released_from found (.inl binding) bound hx gone
      exact .inr ⟨rfl, binding⟩
  | halted running found =>
      obtain ⟨y, hy, rfl, -⟩ := own.installed running
      cases found.symm.trans hy
      obtain ⟨rfl, rfl⟩ := own.released_from found (.inr running) bound hx gone
      exact .inl ⟨rfl, running⟩
  | _ => exact absurd rfl same

end Owned

/-- In every state that clusters of one process can reach, each address that is bound belongs to just
one launch, which is being written or runs; what runs in a cluster has all its addresses, so that they
lead to it; an address is released by its own launch only; and a launch is installed only where none
runs. -/
theorem addresses_are_owned {now : Nat} {files : Files} {marks : Nat → String} {moves : List Move}
    {s : State} (kept : ∀ l, .abandon l ∉ moves)
    (run : State.afterAll? { now, files, marks } moves = some s) :
    (∀ (a : String) (l : LaunchId), s.network.owner? a = some l →
      ∃ x, s.launches[l]? = some x ∧ a ∈ x.addresses ∧ s.Holds l x ∧
        ∀ k y, s.launches[k]? = some y → a ∈ y.addresses → s.Holds k y → k = l) ∧
    (∀ (c : ClusterId) (l : LaunchId), s.running? c = some l →
      (∃ x, s.launches[l]? = some x ∧ x.cluster = c) ∧
        (∀ a ∈ s.discoveryAddresses c, s.network.owner? a = some l) ∧
          s.network.resolve? (s.discoveryAddresses c) = some l) ∧
    (∀ (m : Move) (t : State), s.after? m = some t →
      ∀ (a : String) (l : LaunchId) (x : Launch), s.network.owner? a = some l →
        s.launches[l]? = some x → t.network.owner? a ≠ some l →
          m = .halt x.cluster ∧ s.running? x.cluster = some l ∨ m = .render l ∧ x.isBinding = true) ∧
    (∀ (l : LaunchId) (t : State) (x : Launch), s.install? l = some t → s.launches[l]? = some x →
      s.running? x.cluster = none) := by
  have own := (Owned.start now files marks).afterAll kept run
  refine ⟨?_, ?_, ?_, ?_⟩
  · intro a l bound
    obtain ⟨x, hx, member, holds⟩ := own.holder (Network.mem_of_owner? bound)
    refine ⟨x, hx, member, holds, fun k y hy member' holds' => ?_⟩
    exact own.same_owner (own.bound hy holds' a member') (Network.mem_of_owner? bound)
  · intro c l running
    obtain ⟨x, hx, owner, -⟩ := own.installed running
    exact ⟨⟨x, hx, owner⟩, own.discovered running⟩
  · intro m t h a l x bound hx gone
    exact own.lost h bound hx gone
  · intro l t x h hx
    cases Effect.of_install? h with
    | installed found phase owner =>
        cases found.symm.trans hx
        exact own.vacant hx (Launch.isBinding_of_phase phase)

/-- Two clusters whose ports overlap, with two starts of one of them in flight at once. -/
def overlappingStarts : List Move :=
  [.addCluster { name := "left" }, .addCluster { name := "right", basePort := 47501 },
    .accept 0 {} 1, .accept 1 {} 2, .accept 0 {} 2, .bind 0, .bind 1, .bind 2, .install 0,
    .install 1]

theorem addresses_are_owned_overlapping :
    ∃ s, State.afterAll? {} overlappingStarts = some s ∧ s.running? 1 = some 1 ∧
      s.network.resolve? (s.discoveryAddresses 1) = some 1 := by
  have run : ((State.afterAll? {} overlappingStarts).map fun s => s.running? 1) = some (some 1) := by
    decide +kernel
  obtain ⟨s, run, running⟩ := Option.map_eq_some_iff.mp run
  have owned := addresses_are_owned (by simp [overlappingStarts]) run
  exact ⟨s, run, running, (owned.2.1 1 1 running).2.2⟩

end ClusterHarness.InProcess
