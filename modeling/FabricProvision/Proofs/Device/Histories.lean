import FabricProvision.Proofs.Device.Apart
import FabricProvision.Proofs.Device.Held
import FabricProvision.Proofs.Device.Reachable

/-!
# Histories of networks

A network is built and used by calls, one after the other.  What every call keeps when it arrives holds after all of
them (`Network.afterCalls_induction`), so calls that begin with an empty network lead to a reachable one, and an EVPN
instance or an overlay gateway outlasts all calls of which none displaces it.  `Network.afterCalls_consistent` says what
can be relied on after any calls.
-/

namespace FabricProvision

/-- The name that is seeded for an object. -/
def UniqueObject.seeded (s : Seed) : UniqueObject → Option String
  | overlayGateway => s.overlayGateway
  | evpnInstance => s.evpnInstance
  | anycastGateway => s.anycastMac

/-- What is not seeded stays. -/
theorem UniqueObject.held_sow (object : UniqueObject) (s : Seed) (d : Device) :
    object.held (s.sow d).configuration = (object.seeded s <|> object.held d.configuration) := by
  cases object <;> rfl

namespace Network

/-- A call that builds a network, sets up its faults or sends an operation to one of its hosts. -/
inductive Call where
  | addSwitch (host : String)
  | seed (host : String) (s : Seed)
  | failLogin (host : String)
  | failOperation (host name : String)
  | setClusterStatus (host : String) (status : ClusterStatus)
  | execute (host : String) (op : Operation)

namespace Call

/-- The network after a call, whether it was refused or not. -/
def after (n : Network) : Call → Network
  | addSwitch host => n.addSwitch host
  | seed host s => n.seed host s
  | failLogin host => n.failLogin host
  | failOperation host name => n.failOperation host name
  | setClusterStatus host status => n.setClusterStatus host status
  | execute host op => (n.execute host op).2

/-- Whether a call takes an object of a host away or puts one in its place: the object is deleted, and the deletion is
not refused, or one is seeded. -/
def displaces (object : UniqueObject) (host : String) (n : Network) : Call → Bool
  | seed other s => other == host && (object.seeded s).isSome
  | execute other op => other == host && op.deletes object && (n.execute other op).1.isOk
  | _ => false

theorem reachable_after {n : Network} (h : n.Reachable) (call : Call) : (call.after n).Reachable := by
  cases call with
  | addSwitch host => exact h.addSwitch host
  | seed host s => exact h.seed host s
  | failLogin host => exact h.failLogin host
  | failOperation host name => exact h.failOperation host name
  | setClusterStatus host status => exact h.setClusterStatus host status
  | execute host op => exact h.execute host op

end Call

/-! ### Sequences of calls -/

/-- The network after calls. -/
def afterCalls (n : Network) (calls : List Call) : Network := calls.foldl Call.after n

/-- Calls, each with the network that it arrives at. -/
def arrivals : Network → List Call → List (Network × Call)
  | _, [] => []
  | n, call :: rest => (n, call) :: (call.after n).arrivals rest

/-- What no call breaks where it arrives holds after all of them. -/
theorem afterCalls_induction {I : Network → Prop} {n : Network} (h : I n) {calls : List Call}
    (hcalls : ∀ x ∈ n.arrivals calls, I x.1 → I (x.2.after x.1)) : I (n.afterCalls calls) := by
  induction calls generalizing n with
  | nil => exact h
  | cons call rest ih =>
    exact ih (hcalls (n, call) List.mem_cons_self h) fun x hx => hcalls x (List.mem_cons_of_mem _ hx)

theorem reachable_afterCalls (calls : List Call) : (({} : Network).afterCalls calls).Reachable :=
  afterCalls_induction .empty fun x _ h => x.2.reachable_after h

/-! ### What a call does to one host -/

section host

variable {n : Network} {host : String} {P : Device → Prop}

private theorem At.addSwitch (h : n.At host P) (other : String) : (n.addSwitch other).At host P := by
  obtain ⟨d, hd, hP⟩ := h
  refine ⟨d, ?_, hP⟩
  rw [device?_addSwitch, hd, Option.getD_some, ite_self]

private theorem At.change (h : n.At host P) {other : String} {f : Device → Device}
    (hf : other = host → ∀ d, P d → P (f d)) : (n.change other f).At host P := by
  obtain ⟨d, hd, hP⟩ := h
  by_cases hother : other = host
  · exact ⟨f d, by rw [device?_change, if_pos hother, hd, Option.map_some], hf hother d hP⟩
  · exact ⟨d, by rw [device?_change, if_neg hother, hd], hP⟩

private theorem At.execute (h : n.At host P) {other : String} {op : Operation}
    (hreceive : other = host → ∀ d, n.device? host = some d → P d → P (d.receive (n.clusterStatus host) op).2) :
    (n.execute other op).2.At host P := by
  obtain ⟨d, hd, hP⟩ := h
  by_cases hother : other = host
  · subst hother
    rw [execute_of_device hd]
    exact ⟨_, device?_setDevice_self .., hreceive rfl d hd hP⟩
  · exact ⟨d, (n.device?_execute_of_ne hother op).trans hd, hP⟩

/-- An EVPN instance or an overlay gateway keeps its name where no call displaces it. -/
theorem Call.held_after {object : UniqueObject} (hobject : object ≠ .anycastGateway) {name : String} {call : Call}
    (hcall : call.displaces object host n = false)
    (h : n.At host fun d => object.held d.configuration = some name) :
    (call.after n).At host fun d => object.held d.configuration = some name := by
  cases call with
  | addSwitch other => exact h.addSwitch other
  | seed other s =>
    refine (h.addSwitch other).change fun hother d hd => ?_
    have hseeded : object.seeded s = none := by simpa [displaces, hother] using hcall
    rw [UniqueObject.held_sow, hseeded]
    exact hd
  | failLogin other | failOperation other name' | setClusterStatus other status => exact h.change fun _ _ hd => hd
  | execute other op =>
    refine h.execute fun hother d hd hheld => UniqueObject.held_receive hobject (fun hdeletes r hr => ?_) hheld
    -- A deletion that the device carries out is a call that displaces the object.
    subst hother
    rw [displaces, execute_of_device hd, hr, hdeletes, beq_self_eq_true] at hcall
    cases hcall

end host

/-! ### After any calls -/

/-- Whatever calls a network has served since it was empty, on each of its hosts nothing is deployed without a cluster
object, no interface has both an address and a donor unless its name begins like that of a loopback, and an EVPN instance
or an overlay gateway has the same name after all further calls, as long as none of them deletes it or seeds one. -/
theorem afterCalls_consistent (calls : List Call) :
    let n := ({} : Network).afterCalls calls
    ∀ host d, n.device? host = some d →
      (d.configuration.deployed = true → d.configuration.cluster.isSome = true) ∧
      (∀ (key : String) (r : InterfaceRecord), key.startsWith "loopback " = false →
        d.configuration.interfaces[key]? = some r → r.address = none ∨ r.donor = none) ∧
      (∀ (object : UniqueObject) (name : String) (later : List Call), object ≠ .anycastGateway →
        object.held d.configuration = some name →
        (∀ x ∈ n.arrivals later, x.2.displaces object host x.1 = false) →
        (n.afterCalls later).At host fun d' => object.held d'.configuration = some name) := by
  intro n host d hd
  have hreachable : n.Reachable := reachable_afterCalls calls
  refine ⟨fun hdeployed => ?_, fun key r hkey hr => ?_, fun object name later hobject hheld hlater => ?_⟩
  · rw [← Option.ne_none_iff_isSome]
    intro hnone
    rw [hreachable.deployed hd hnone] at hdeployed
    cases hdeployed
  · refine hreachable.exclusive hd key (fun loopback hloopback => ?_) r hr
    have hstarts : key.startsWith "loopback " = true := by
      rw [hloopback, String.startsWith_string_iff]
      exact ⟨loopback.toList, by simp [Configuration.interfaceName, toString]⟩
    rw [hstarts] at hkey
    cases hkey
  · have hnow : n.At host fun d' => object.held d'.configuration = some name := ⟨d, hd, hheld⟩
    exact afterCalls_induction hnow fun x hx => Call.held_after hobject (hlater x hx)

/-- Calls that leave a leaf with an EVPN instance, and with a cluster that was taken out of operation and deployed again.
One of its interfaces borrows the address of a loopback, and was refused one of its own. -/
def settling : List Call :=
  [.seed "leaf-1" { evpnInstance := some "core", cluster := some ⟨"pair", 1, none, "Port-channel", "64", "10.2.0.1"⟩ },
    .execute "leaf-1" (.configureLoopback "1" "10.0.0.1/32"),
    .execute "leaf-1" (.configureUnnumbered "ethernet" "0/1" "loopback" "1"),
    .execute "leaf-1" (.configureNumbered "ethernet" "0/1" "10.1.0.0/31" ""),
    .execute "leaf-1" (.undeployCluster "pair" 1), .execute "leaf-1" (.configurePeerIp "pair" 1 "10.2.0.3")]

/-- Calls that try to take the EVPN instance from the leaf, and that take one from another leaf. -/
def rivals : List Call :=
  [.execute "leaf-1" (.createEvpnInstance "fabric" 5 3), .execute "leaf-1" (.deleteEvpnInstance "fabric"),
    .failOperation "leaf-1" "Delete EVPN Instance", .execute "leaf-1" (.deleteEvpnInstance "core"),
    .seed "leaf-2" { evpnInstance := some "core" }, .execute "leaf-2" (.deleteEvpnInstance "core"),
    .seed "leaf-1" { overlayGateway := some "gateway" }]

/-- The leaf has a cluster object, no address where it borrows one, and its EVPN instance in the end. -/
theorem settling_consistent :
    let n := ({} : Network).afterCalls settling
    (n.At "leaf-1" fun d => d.configuration.deployed = true ∧ d.configuration.cluster.isSome = true ∧
      (∃ r, d.configuration.interfaces["ethernet 0/1"]? = some r ∧ r.donor = some "loopback 1" ∧ r.address = none) ∧
      d.configuration.evpnInstance = some "core") ∧
    (∀ x ∈ n.arrivals rivals, x.2.displaces .evpnInstance "leaf-1" x.1 = false) ∧
    (n.afterCalls rivals).At "leaf-1" fun d => d.configuration.evpnInstance = some "core" := by
  intro n
  have hat : n.At "leaf-1" fun d => d.configuration.deployed = true ∧
      d.configuration.interfaces["ethernet 0/1"]?.bind (·.donor) = some "loopback 1" ∧
      d.configuration.evpnInstance = some "core" := by decide +kernel
  have hrivals : ∀ x ∈ n.arrivals rivals, x.2.displaces .evpnInstance "leaf-1" x.1 = false := by decide +kernel
  obtain ⟨d, hd, hdeployed, hborrows, hevpn⟩ := hat
  obtain ⟨hcluster, hexclusive, hkept⟩ := afterCalls_consistent settling "leaf-1" d hd
  obtain ⟨r, hr, hdonor⟩ := Option.bind_eq_some_iff.1 hborrows
  have haddress : r.address = none :=
    (hexclusive "ethernet 0/1" r (by decide +kernel) hr).resolve_right fun hnone => by simp [hdonor] at hnone
  exact ⟨⟨d, hd, hdeployed, hcluster hdeployed, ⟨r, hr, hdonor, haddress⟩, hevpn⟩, hrivals,
    hkept .evpnInstance "core" rivals nofun hevpn hrivals⟩

end Network

end FabricProvision
