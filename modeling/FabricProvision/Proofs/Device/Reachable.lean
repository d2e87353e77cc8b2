import FabricProvision.Proofs.Device.Achieved

/-!
# Reachable networks

A network is reachable if it was built from nothing by adding and seeding switches, setting up their faults and
sending them operations (`Network.Reachable`).  What a new configuration satisfies, and seeding and every operation
keep, is satisfied on every switch of a reachable network (`Network.Reachable.configuration`).

So no interface but a loopback has an address and a donor at once (`Network.Reachable.exclusive`): an address is
refused where there is a donor, and a donor replaces the address.
-/

namespace FabricProvision

open Std (ExtTreeMap)
open Dialogue Operation

namespace Network

/-- The network was built from nothing by what can be done to networks. -/
inductive Reachable : Network → Prop
  | empty : Reachable {}
  | addSwitch {n : Network} (h : n.Reachable) (host : String) : Reachable (n.addSwitch host)
  | seed {n : Network} (h : n.Reachable) (host : String) (s : Seed) : Reachable (n.seed host s)
  | failLogin {n : Network} (h : n.Reachable) (host : String) : Reachable (n.failLogin host)
  | failOperation {n : Network} (h : n.Reachable) (host name : String) : Reachable (n.failOperation host name)
  | setClusterStatus {n : Network} (h : n.Reachable) (host : String) (status : ClusterStatus) :
      Reachable (n.setClusterStatus host status)
  | execute {n : Network} (h : n.Reachable) (host : String) (op : Operation) : Reachable (n.execute host op).2

namespace Reachable

variable {n : Network}

theorem ofHosts (hosts : List String) : (Network.ofHosts hosts).Reachable :=
  List.foldlRecOn hosts Network.addSwitch .empty fun _ h host _ => h.addSwitch host

/-- Whatever is done in a dialogue, the network stays reachable. -/
theorem run {α : Type} (h : n.Reachable) (x : Dialogue α) : (x.run adapter n).2.Reachable :=
  (stays_any x).run_related adapter (R := fun n n' => n.Reachable → n'.Reachable) (fun _ h => h)
    (fun _ _ _ h h' hn => h' (h hn)) (fun _ _ _ h => h) (fun host op _ _ h => h.execute host op) n h

/-! ### What configurations keep -/

section configuration

variable {I : Configuration → Prop}

/-- Every switch of the network has a configuration with `I`. -/
private def Everywhere (I : Configuration → Prop) (n : Network) : Prop :=
  ∀ host d, n.device? host = some d → I d.configuration

private theorem everywhere_setDevice {host : String} {d : Device} (h : Everywhere I n) (hd : I d.configuration) :
    Everywhere I (n.setDevice host d) := by
  intro other e he
  rw [device?_setDevice] at he
  split at he
  · cases he
    exact hd
  · exact h other e he

private theorem everywhere_change {host : String} {f : Device → Device} (h : Everywhere I n)
    (hf : ∀ d, I d.configuration → I (f d).configuration) : Everywhere I (n.change host f) := by
  intro other e he
  rw [device?_change] at he
  split at he
  · obtain ⟨d, hd, rfl⟩ := Option.map_eq_some_iff.1 he
    exact hf d (h other d hd)
  · exact h other e he

private theorem everywhere_addSwitch {host : String} (h : Everywhere I n) (hnew : I {}) :
    Everywhere I (n.addSwitch host) := by
  intro other e he
  rw [device?_addSwitch] at he
  split at he
  · cases he
    cases hd : n.device? other with
    | none => exact hnew
    | some d => exact h other d hd
  · exact h other e he

private theorem everywhere_execute {host : String} {op : Operation} (h : Everywhere I n)
    (happly : ∀ c, I c → I (op.apply.run.run c).2) : Everywhere I (n.execute host op).2 := by
  rcases Option.eq_none_or_eq_some (n.device? host) with hd | ⟨d, hd⟩
  · rw [execute_of_absent hd]
    exact h
  · rw [execute_of_device hd]
    refine everywhere_setDevice h ?_
    rcases d.receive_cases (n.clusterStatus host) op with ⟨-, hr⟩ | ⟨-, -, hr⟩ | ⟨-, -, hr⟩ <;> rw [hr]
    · exact h host d hd
    · exact h host d hd
    · exact happly _ (h host d hd)

/-- What a new configuration satisfies, and seeding and operations keep. -/
theorem configuration (hnew : I {}) (hsow : ∀ (s : Seed) (d : Device), I d.configuration → I (s.sow d).configuration)
    (happly : ∀ (op : Operation) c, I c → I (op.apply.run.run c).2) (h : n.Reachable) (host : String) (d : Device) :
    n.device? host = some d → I d.configuration := by
  have heverywhere : Everywhere I n := by
    induction h with
    | empty => exact fun host d hd => by simp [device?] at hd
    | addSwitch _ host ih => exact everywhere_addSwitch ih hnew
    | seed _ host s ih => exact everywhere_change (everywhere_addSwitch ih hnew) (hsow s)
    | failLogin _ host ih => exact everywhere_change ih fun _ h => h
    | failOperation _ host name ih => exact everywhere_change ih fun _ h => h
    | setClusterStatus _ host status ih => exact everywhere_change ih fun _ h => h
    | execute _ host op ih => exact everywhere_execute ih (happly op)
  exact heverywhere host d

end configuration

end Reachable

end Network

/-! ### Addresses and donors -/

namespace Configuration

/-- No interface but a loopback has an address and a donor. -/
def Exclusive (c : Configuration) : Prop :=
  ∀ key, (∀ name, key ≠ interfaceName "loopback" name) → ∀ r, c.interfaces[key]? = some r →
    r.address = none ∨ r.donor = none

/-- An operation changes the interface that it is about, and no other. -/
private theorem exclusive_of_part {c c' : Configuration} {op : Operation} (h : c.Exclusive)
    (hwrites : op.part.Writes c c')
    (hown : ∀ key, op.part = .interface key → (∀ name, key ≠ interfaceName "loopback" name) →
      ∀ r, c'.interfaces[key]? = some r → r.address = none ∨ r.donor = none) : c'.Exclusive := by
  intro key hkey r hr
  by_cases hpart : op.part = .interface key
  · exact hown key hpart hkey r hr
  · have hsame : c'.interfaces[key]? = c.interfaces[key]? := hwrites (.interface key) (Ne.symm hpart)
    exact h key hkey r (hsame ▸ hr)

theorem Exclusive.apply {c : Configuration} (h : c.Exclusive) (op : Operation) :
    (op.apply.run.run c).2.Exclusive := by
  refine exclusive_of_part h (op.apply_writes c) fun key hpart hkey r hr => ?_
  have hset : ∀ {record}, (c.setInterface key record).interfaces[key]? = some r → record = r := fun hr => by
    rw [getElem?_setInterface] at hr
    exact Option.some.inj hr
  cases op with
  | configureLoopback name ip | deleteLoopback name =>
    cases hpart
    exact absurd rfl (hkey name)
  | configureNumbered kind name ip description =>
    cases hpart
    simp only [Operation.apply, run_acknowledge, run_setAddress] at hr
    cases hdonor : (c.interfaces.getD (interfaceName kind name) {}).donor with
    | none =>
      simp only [hdonor] at hr
      exact .inr (hset hr ▸ rfl)
    | some donor =>
      -- The address is refused, and the record with the donor is the one that was there.
      simp only [hdonor] at hr
      have hrecord := hset hr
      rw [ExtTreeMap.getD_eq_getD_getElem?] at hrecord hdonor
      rcases Option.eq_none_or_eq_some c.interfaces[interfaceName kind name]? with hnone | ⟨record, hsome⟩
      · rw [hnone] at hdonor
        cases hdonor
      · rw [hsome] at hrecord
        exact h _ hkey r (hrecord ▸ hsome)
  | unconfigureNumbered kind name ip =>
    cases hpart
    simp only [Operation.apply, run_acknowledge, run_clearAddress] at hr
    split at hr
    · exact h _ hkey r hr
    · exact .inl (hset hr ▸ rfl)
  | configureUnnumbered kind name donorKind donorName =>
    cases hpart
    exact .inl (hset hr ▸ rfl)
  | unconfigureUnnumbered kind name =>
    cases hpart
    simp only [Operation.apply, run_acknowledge, run_clearDonor] at hr
    split at hr
    · exact h _ hkey r hr
    · exact .inr (hset hr ▸ rfl)
  | getInterface kind name => exact h _ hkey r hr
  | _ => cases hpart

end Configuration

/-- On the switches of a reachable network no interface but a loopback has an address and a donor. -/
theorem Network.Reachable.exclusive {n : Network} (h : n.Reachable) {host : String} {d : Device}
    (hd : n.device? host = some d) : d.configuration.Exclusive :=
  h.configuration (I := Configuration.Exclusive) (fun _ _ r hr => by simp at hr) (fun _ _ h => h)
    (fun op _ h => h.apply op) host d hd

/-! ### Deployed clusters -/

namespace Configuration

/-- Nothing is deployed without a cluster object. -/
private def Deploys (c : Configuration) : Prop := c.cluster = none → c.deployed = false

private instance : Std.Refl fun c c' : Configuration => c.Deploys → c'.Deploys := ⟨fun _ h => h⟩

private instance : Trans (fun c c' : Configuration => c.Deploys → c'.Deploys)
    (fun c c' : Configuration => c.Deploys → c'.Deploys) (fun c c' : Configuration => c.Deploys → c'.Deploys) :=
  ⟨fun h h' hc => h' (h hc)⟩

open Step in
/-- Operations about clusters deploy the object that they leave, or take both away. -/
private theorem deploys_apply {op : Operation} (hpart : op.part = .cluster) :
    Respects (fun c c' => c.Deploys → c'.Deploys) op.apply := by
  cases op <;> cases hpart
  all_goals
    simp only [apply, store, acknowledge, unbindControlVe, removeControlVlan, clearVeAddress, removeVe,
      changePortChannel, removeMember, removePortChannel, removeRoute, createClusterObject, expectCluster, bindCluster,
      removeCluster, undeploy, setPeerIp, clearPeerIp]
    repeat' with_reducible first
      | exact respects_get
      | exact respects_pure _
      | exact respects_throw _
      | exact respects_require _ _
      | refine respects_bind ?_ fun _ => ?_
      | apply respects_modify
      | split
  all_goals
    intro c h hnone
    first
      | exact h hnone
      | rfl
      | cases hnone

private theorem Deploys.apply {c : Configuration} (h : c.Deploys) (op : Operation) :
    (op.apply.run.run c).2.Deploys := by
  by_cases hpart : op.part = .cluster
  · exact deploys_apply hpart c h
  · obtain ⟨-, -, -, -, -, hcluster, hdeployed⟩ := op.apply_writes c .cluster (Ne.symm hpart)
    intro hnone
    rw [hdeployed]
    exact h (hcluster ▸ hnone)

end Configuration

/-- On a reachable network nothing is deployed where there is no cluster object. -/
theorem Network.Reachable.deployed {n : Network} (h : n.Reachable) {host : String} {d : Device}
    (hd : n.device? host = some d) : d.configuration.cluster = none → d.configuration.deployed = false := by
  refine h.configuration (I := Configuration.Deploys) (fun _ => rfl) (fun s d hseed hnone => ?_)
    (fun op _ h => h.apply op) host d hd
  show (s.cluster.isSome || d.configuration.deployed) = false
  have hleft : (s.cluster <|> d.configuration.cluster) = none := hnone
  rcases hcluster : s.cluster with _ | object <;> rw [hcluster] at hleft
  · exact hseed hleft
  · cases hleft

end FabricProvision
