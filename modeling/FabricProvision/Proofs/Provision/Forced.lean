import FabricProvision.Proofs.Device.Faults
import FabricProvision.Proofs.Device.Reachable
import FabricProvision.Proofs.Provision.Reached
import FabricProvision.Proofs.Provision.Unique

/-!
# Forced pushes

With force the work on a switch ends without a failure, whatever the switch held before, if no switch involved
shows a fault and the desired state is one that can be reached at once (`SwitchSpec.configure_forced`).  What would
be refused is cleared before: another unique object, the other address of an interface, its donor.  That an address
is refused although nothing was to be cleared would take an interface with an address and a donor, which there is
on no reachable network.
-/

namespace FabricProvision

open Std (ExtTreeMap ExtTreeSet)
open Dialogue Device Operation Network FabricProvision.Configuration

/-! ### Operations that are taken -/

theorem concerns_faultless (parts : Part → Prop) : Concerns parts Device.Faultless :=
  fun _ _ _ hfollows _ h => ⟨hfollows.refusesLogin.trans h.login, hfollows.failing.trans h.operations⟩

variable {d : Device} {host operation : String} {op : Operation}

private theorem Device.Faultless.accepts (h : d.Faultless) (name : String) : d.failing.contains name = false := by
  simp [h.operations]

private theorem Device.Faultless.run (h : d.Faultless) {α : Type} (x : Dialogue α) :
    (x.run Device.adapter d).2.Faultless :=
  (concerns_faultless fun _ => False).run (stays_any x) (fun _ _ _ => id) h

/-- The configuration takes the operation. -/
def Operation.Taken (op : Operation) (c : Configuration) : Prop := (op.apply.run.run c).1 = .ok .ok

private theorem perform_of_taken (h : d.Faultless) (hop : op ≠ .getClusterStatus) (htaken : op.Taken d.configuration) :
    ((perform host op).run Device.adapter d).1 = .ok ⟨⟩ := by
  rw [perform_of_apply hop (h.accepts _) (Prod.ext htaken rfl)]

private theorem clean_step {work : Dialogue (Except FailureCause Unit)} (h : (work.run Device.adapter d).1 = .ok ⟨⟩) :
    ((step operation host work).run Device.adapter d).1 = [] := by
  rw [run_step]
  generalize work.run Device.adapter d = r at h
  obtain ⟨answer, d'⟩ := r
  cases h
  rfl

private theorem clean_performStep (h : d.Faultless) (hop : op ≠ .getClusterStatus)
    (htaken : op.Taken d.configuration) : ((performStep operation host op).run Device.adapter d).1 = [] :=
  clean_step (perform_of_taken h hop htaken)

/-! ### Unique objects -/

/-- The device shows no fault, and holds the object under a name if at all. -/
def UniqueObject.Named (object : UniqueObject) (d : Device) : Prop :=
  d.Faultless ∧ object.held d.configuration ≠ some ""

theorem UniqueObject.concerns_named (object : UniqueObject) : Concerns (· = object.lookup.part) object.Named := by
  refine (concerns_faultless _).and fun allowed d d' hfollows hparts h => ?_
  rw [UniqueObject.held_eq_of_same (hfollows.parts _ hparts)]
  exact h

private theorem named_of_performStep {object : UniqueObject} (h : object.Named d)
    (hpart : op.part ≠ object.lookup.part) :
    object.Named ((performStep operation host op).run Device.adapter d).2 := by
  have hstays : (performStep operation host op).Stays ⟨fun _ => True, fun _ op' => op' = op⟩ :=
    stays_performStep rfl
  refine object.concerns_named.run hstays (fun _ op' hop' => ?_) h
  cases show op' = op from hop'
  exact hpart

/-! ### Interfaces -/

namespace InterfaceSpec

variable {i : InterfaceSpec}

/-- The device holds no donor for an interface. -/
def NoDonor (key : String) (d : Device) : Prop := (d.configuration.interfaces[key]?.bind (·.donor)) = none

instance (key : String) : DecidablePred (NoDonor key) := fun _ => inferInstanceAs (Decidable (_ = none))

/-- The device has the interface in a state that the item may start from. -/
structure Ready (i : InterfaceSpec) (d : Device) : Prop where
  faultless : d.Faultless
  create : i.change = .create → i.kind ≠ .loopback → i.donor = none → NoDonor i.key d
  update : i.change = .update → i.kind ≠ .loopback → i.donor = none →
    ∀ r, d.configuration.interfaces[i.key]? = some r → r.address = none ∨ r.donor = none

theorem concerns_ready (i : InterfaceSpec) : Concerns (· = .interface i.key) i.Ready := by
  intro allowed d d' hfollows hparts h
  have hsame : d'.configuration.interfaces[i.key]? = d.configuration.interfaces[i.key]? := hfollows.parts _ hparts
  refine ⟨concerns_faultless (· = .interface i.key) allowed d d' hfollows hparts h.faultless, fun hchange hkind hdonor => ?_,
    fun hchange hkind hdonor r hr => h.update hchange hkind hdonor r (hsame ▸ hr)⟩
  unfold NoDonor
  rw [hsame]
  exact h.create hchange hkind hdonor

/-- An interface without a donor takes an address. -/
private theorem taken_configureNumbered (h : NoDonor i.key d) : i.configureNumbered.Taken d.configuration := by
  have hdonor : (d.configuration.interfaces.getD i.key {}).donor = none := by
    unfold NoDonor at h
    rw [ExtTreeMap.getD_eq_getD_getElem?]
    generalize d.configuration.interfaces[i.key]? = record at h
    cases record with
    | none => rfl
    | some r => exact h
  have hrun := run_setAddress i.key i.ip d.configuration
  simp only [hdonor] at hrun
  show ((acknowledge (setAddress i.key i.ip)).run.run d.configuration).1 = _
  rw [run_acknowledge, hrun]
  rfl

/-- Clearing the donor of an interface leaves none. -/
private theorem noDonor_clearUnnumbered (h : d.Faultless) :
    NoDonor i.key ((attempt host i.clearUnnumbered).run Device.adapter d).2 := by
  have hrun := run_clearDonor i.key d.configuration
  rw [run_attempt, execute_of_faultless h.operations (by simp [clearUnnumbered])]
  show (((acknowledge (clearDonor i.key)).run.run d.configuration).2.interfaces[i.key]?.bind (·.donor)) = none
  rw [run_acknowledge, hrun]
  rcases Option.eq_none_or_eq_some d.configuration.interfaces[i.key]? with hnone | ⟨r, hsome⟩
  · simp only [hnone]
    rfl
  · simp only [hsome, getElem?_setInterface]
    rfl

/-- What an update clears leaves no donor. -/
private theorem noDonor_clearOther (h : d.Faultless)
    (hexclusive : ∀ r, d.configuration.interfaces[i.key]? = some r → r.address = none ∨ r.donor = none) :
    NoDonor i.key ((i.clearOther host).run Device.adapter d).2 := by
  have hquestion : (getInterface i.kind.text i.name).apply.run.run d.configuration =
      (.ok (.address (d.configuration.interfaces[i.key]?.bind (·.address))), d.configuration) := rfl
  have hasked : (d.record (getInterface i.kind.text i.name)).Faultless := ⟨h.login, h.operations⟩
  unfold clearOther
  rw [run_bind, run_query, execute_of_apply (by simp) (h.accepts _) hquestion]
  split
  · exact noDonor_clearUnnumbered hasked
  · rename_i address hfound
    split
    · rw [run_bind]
      exact noDonor_clearUnnumbered (hasked.run _)
    · -- The address is the desired one, and nothing is cleared.
      obtain ⟨haddress, -⟩ := Option.filter_eq_some_iff.1
        (show (d.configuration.interfaces[i.key]?.bind (·.address)).filter (!·.isEmpty) = some address from hfound)
      obtain ⟨r, hr, haddress⟩ := Option.bind_eq_some_iff.1 haddress
      show (d.configuration.interfaces[i.key]?.bind (·.donor)) = none
      rw [hr]
      exact (hexclusive r hr).resolve_left (by simp [haddress])

theorem provision_of_ready (hchange : i.change ≠ .delete) (h : i.Ready d) :
    ((i.provision host).run Device.adapter d).1 = .ok ⟨⟩ := by
  unfold provision
  split
  · unfold provisionLoopback
    split
    · exact perform_of_taken h.faultless (by simp) rfl
    · exact perform_of_taken h.faultless (by simp) rfl
    · exact absurd ‹_› hchange
    · rfl
  · rename_i hkind
    split
    · unfold provisionUnnumbered
      split
      · exact perform_of_taken h.faultless (by simp) rfl
      · rw [run_bind]
        exact perform_of_taken (h.faultless.run _) (by simp) rfl
      · exact absurd ‹_› hchange
      · rfl
    · rename_i hdonor
      unfold provisionNumbered
      split
      · rename_i hcreate
        exact perform_of_taken h.faultless (by simp [configureNumbered])
          (taken_configureNumbered (h.create hcreate hkind hdonor))
      · rename_i hupdate
        rw [run_bind]
        exact perform_of_taken (h.faultless.run _) (by simp [configureNumbered])
          (taken_configureNumbered (noDonor_clearOther h.faultless (h.update hupdate hkind hdonor)))
      · exact absurd ‹_› hchange
      · rfl

end InterfaceSpec

/-! ### Stages -/

namespace SwitchSpec

variable (t : Topology) (s : SwitchSpec)

private theorem clean_provisionSystem (h : UniqueObject.anycastGateway.Named d) :
    ((s.provisionSystem t true).run Device.adapter d).1 = [] := by
  have hl2 : UniqueObject.anycastGateway.Named ((performStep "Configure System L2 MTU" s.host
      (.configureL2Mtu s.mtu)).run Device.adapter d).2 := named_of_performStep h nofun
  have h' : UniqueObject.anycastGateway.Named ((performStep "Configure System IP MTU" s.host
      (.configureIpMtu s.ipMtu)).run Device.adapter _).2 := named_of_performStep hl2 nofun
  unfold provisionSystem
  refine clean_collect_cons (clean_performStep h.1 (by simp) rfl)
    (clean_collect_cons (clean_performStep (h.1.run _) (by simp) rfl) ?_)
  split
  · exact clean_collect_cons (clean_step (UniqueObject.ensure_of_faultless (.anycastGateway _ _) h'.1.operations h'.2)) rfl
  · rfl

/-- The items are about different interfaces, so each finds its own as it was. -/
private theorem clean_provisionInterfaces (hdistinct : s.DistinctInterfaces)
    (hdelete : ∀ i ∈ s.interfaces, i.change ≠ .delete) (h : ∀ i ∈ s.interfaces, i.Ready d) :
    (s.provisionInterfaces.run Device.adapter d).1 = [] := by
  refine clean_fanOut (P := InterfaceSpec.Ready) ?_ (fun i hi d hd => ?_) h
  · refine hdistinct.imp fun {i j} hne d hd => ?_
    refine (InterfaceSpec.concerns_ready j).run (stays_step (stays_provision s.host i)) (fun _ op hop hsame => ?_) hd
    exact hne (Part.interface.inj (hop.2.symm.trans hsame))
  · exact clean_step (InterfaceSpec.provision_of_ready (hdelete i hi) hd)

private theorem isEmpty_routerId {id : String} (h : s.routerId? = some id) : id.isEmpty = false := by
  unfold routerId? at h
  split at h
  · split at h
    · cases h
    · rename_i hempty
      cases h
      simpa using hempty
  · cases h

private theorem clean_provisionBgp (hrouter : s.routerId?.isSome)
    (hneighbors : ∀ n ∈ s.neighbors, n.change ≠ .delete) (h : d.Faultless) :
    ((s.provisionBgp t).run Device.adapter d).1 = [] := by
  have hstale : s.staleNeighbors = [] := List.filter_eq_nil_iff.2 fun n hn => by simp [hneighbors n hn]
  have htaken : ∀ step ∈ s.bgpSteps t, step.2 ≠ .getClusterStatus ∧ ∀ c, step.2.Taken c := by
    intro step hstep
    simp only [bgpSteps, hstale, List.map_nil, List.append_nil, List.mem_append, List.mem_map,
      List.mem_singleton] at hstep
    rcases hstep with ((hstep | rfl) | ⟨n, -, rfl⟩) | rfl
    · split at hstep
      · cases List.mem_singleton.1 hstep
        exact ⟨by simp, fun _ => rfl⟩
      · cases hstep
    · cases t <;> exact ⟨by simp [bgpOperation], fun _ => rfl⟩
    · refine ⟨?_, fun c => ?_⟩
      · dsimp only
        unfold neighborOperation
        split <;> simp
      · exact congrArg Prod.fst (s.apply_neighborOperation t n c)
    · obtain ⟨id, hid⟩ := Option.isSome_iff_exists.1 hrouter
      refine ⟨by simp, fun c => ?_⟩
      simp [Operation.Taken, Operation.apply, hid, s.isEmpty_routerId hid, run_store]
  refine clean_fanOut (P := fun _ => Device.Faultless) ?_ (fun step hstep d hd => ?_) fun _ _ => h
  · exact List.pairwise_of_forall fun _ _ d hd => hd.run _
  · exact clean_performStep hd (htaken step hstep).1 ((htaken step hstep).2 _)

private theorem clean_provisionEvpn (h : UniqueObject.evpnInstance.Named d) :
    ((s.provisionEvpn true).run Device.adapter d).1 = [] := by
  have h' : UniqueObject.evpnInstance.Named ((performStep "Mac & Arp" s.host
      (.configureMacAndArp s.evpn)).run Device.adapter d).2 := named_of_performStep h nofun
  have hwork : ((collect (s.evpnWork true)).run Device.adapter d).1 = [] :=
    clean_collect_cons (clean_performStep h.1 (by simp) rfl)
      (clean_collect_cons (clean_step (UniqueObject.ensure_of_faultless (.evpnInstance _ _ _) h'.1.operations h'.2))
        (clean_collect_cons (clean_performStep (h'.1.run _) (by simp) rfl) rfl))
  rw [s.run_provisionEvpn true d (.inr hwork), hwork]

/-- What a stage relies on. -/
def Open (s : SwitchSpec) : Stage → Device → Prop
  | .system => UniqueObject.anycastGateway.Named
  | .interfaces => fun d => ∀ i ∈ s.interfaces, i.Ready d
  | .evpn => UniqueObject.evpnInstance.Named
  | _ => Device.Faultless

private theorem concerns_open (stage : Stage) : Concerns (·.stage = stage) (s.Open stage) := by
  cases stage with
  | system => exact UniqueObject.anycastGateway.concerns_named.stage
  | interfaces => exact concerns_all fun i => concerns_imp fun _ => (InterfaceSpec.concerns_ready i).stage
  | evpn => exact UniqueObject.evpnInstance.concerns_named.stage
  | bgp | dataPlane | clusters | overlayGateways | saving => exact concerns_faultless _

/-! ### All of it -/

/-- The desired state can be pushed with force: the switches involved show no fault, nothing is to be removed, there
is an address for the router-id, and what the switch holds can be cleared by what is sent. -/
structure Pushable (s : SwitchSpec) (n : Network) : Prop where
  host : n.At s.host Device.Faultless
  members : ∀ m ∈ s.dataPlane.nodes, n.At m.host Device.Faultless
  routerId : s.routerId?.isSome
  interfaces : (s.interfaces.map fun i => (i.kind, i.name)).Nodup
  keptInterfaces : ∀ i ∈ s.interfaces, i.change ≠ .delete
  keptNeighbors : ∀ x ∈ s.neighbors, x.change ≠ .delete
  keptDataPlane : s.staleDataPlane.nodes = []
  /-- An interface that is created with an address has no donor. -/
  numbered : ∀ i ∈ s.interfaces, i.change = .create → i.kind ≠ .loopback → i.donor = none →
    n.At s.host (InterfaceSpec.NoDonor i.key)
  named : n.At s.host fun d => d.configuration.evpnInstance ≠ some "" ∧ d.configuration.anycastMac ≠ some ""

variable {s} {n : Network}

/-- Everything is ready on the switch before its first stage. -/
private theorem Pushable.opens (h : s.Pushable n) (hreachable : n.Reachable) (stage : Stage) :
    n.At s.host (s.Open stage) := by
  obtain ⟨d, hd, hfaultless⟩ := h.host
  obtain ⟨_, hd', hevpn, hmac⟩ := h.named
  cases hd.symm.trans hd'
  have hready : ∀ i ∈ s.interfaces, i.Ready d := by
    intro i hi
    refine ⟨hfaultless, fun hchange hkind hdonor => ?_, fun _ hkind _ => ?_⟩
    · obtain ⟨_, hd', hnone⟩ := h.numbered i hi hchange hkind hdonor
      cases hd.symm.trans hd'
      exact hnone
    · exact hreachable.exclusive hd i.key fun name hkey =>
        hkind (interfaceName_inj (show interfaceName i.kind.text i.name = interfaceName InterfaceKind.loopback.text name
          from hkey)).1
  refine ⟨d, hd, ?_⟩
  cases stage with
  | system => exact ⟨hfaultless, hmac⟩
  | interfaces => exact hready
  | evpn => exact ⟨hfaultless, hevpn⟩
  | bgp | dataPlane | clusters | overlayGateways | saving => exact hfaultless

private theorem clean_local {scope : Scope} {x : Dialogue (List Failure)} {P : Device → Prop} (hx : x.Stays scope)
    (hscope : scope.Local host) (h : n.At host P) (hclean : ∀ d, P d → (x.run Device.adapter d).1 = []) :
    (x.run Network.adapter n).1 = [] := by
  obtain ⟨d, hd, hP⟩ := h
  rw [run_local hx hscope hd]
  exact hclean d hP

private theorem clean_addDataPlane (h : ∀ m ∈ s.dataPlane.nodes, n.At m.host Device.Faultless) :
    (s.dataPlane.add.run Network.adapter n).1 = [] := by
  refine clean_fanOut (P := fun m n => n.At m.host Device.Faultless) ?_ (fun m _ n hn => ?_) h
  · exact List.pairwise_of_forall fun m _ n hn => hn.keeps (stays_any m.add) (concerns_faultless fun _ => False)
      fun _ _ => id
  · refine clean_local m.stays_add (Scope.local_on (by simp)) hn fun d hd => ?_
    rw [m.add_of_accepted hd.login (hd.accepts _)]

/-- A piece relies on what its stage does, which the pieces of other stages keep. -/
private theorem keeps_open :
    (s.pieces t true).Pairwise fun a b => ∀ n : Network, n.At s.host (s.Open b.1) →
      (a.2.run Network.adapter n).2.At s.host (s.Open b.1) := by
  have hstages : (s.pieces t true).Pairwise fun a b => b.1 = .dataPlane ∨ a.1 ≠ b.1 := by
    unfold pieces
    split <;> simp
  refine hstages.imp_of_mem fun {a b} ha _ hstage n hn => ?_
  rcases hstage with hdata | hne
  · rw [hdata] at hn ⊢
    exact hn.keeps (stays_any _) (concerns_faultless fun _ => False) fun _ _ => id
  · exact hn.keeps (s.stays_piece t true ha) (s.concerns_open b.1) fun op hop hsame => hne (hop.symm.trans hsame)

private theorem clean_piece (h : s.Pushable n) {n' : Network} {piece : Stage × Dialogue (List Failure)}
    (hpiece : piece ∈ s.pieces t true) (hopen : n'.At s.host (s.Open piece.1))
    (hmembers : ∀ m ∈ s.dataPlane.nodes, n'.At m.host Device.Faultless) :
    (piece.2.run Network.adapter n').1 = [] := by
  unfold pieces at hpiece
  simp only [List.mem_append, List.mem_cons, List.not_mem_nil, or_false] at hpiece
  rcases hpiece with ((rfl | rfl | rfl | rfl) | hpiece) | rfl
  · exact clean_local (s.stays_provisionSystem t true) (Scope.local_on (by simp [Part.stage])) hopen fun _ =>
      s.clean_provisionSystem t
  · exact clean_local s.stays_provisionInterfaces (Scope.local_on (by simp [Part.stage])) hopen fun _ =>
      s.clean_provisionInterfaces (s.distinctInterfaces_of_nodup h.interfaces) h.keptInterfaces
  · exact clean_local (s.stays_provisionBgp t) (Scope.local_on (by simp [Part.stage])) hopen fun _ =>
      s.clean_provisionBgp t h.routerId h.keptNeighbors
  · unfold DataPlaneSpec.remove
    rw [h.keptDataPlane]
    rfl
  · split at hpiece
    · cases List.mem_singleton.1 hpiece
      exact clean_local (s.stays_provisionEvpn true) (Scope.local_on (by simp [Part.stage])) hopen fun _ =>
        s.clean_provisionEvpn
    · cases hpiece
  · exact clean_addDataPlane hmembers

/-- With force the work on a switch of a reachable network ends without a failure, whatever the switch held. -/
theorem configure_forced (hreachable : n.Reachable) (h : s.Pushable n) :
    ((s.configure t true).run Network.adapter n).1 = [] := by
  obtain ⟨d, hd, hfaultless⟩ := h.host
  rw [configure_eq_pieces, run_session_of_device hd hfaultless.login]
  refine clean_fanOut (P := fun piece n => n.At s.host (s.Open piece.1) ∧
    ∀ m ∈ s.dataPlane.nodes, n.At m.host Device.Faultless) ?_ (fun piece hpiece n' hn' => ?_)
    fun _ _ => ⟨h.opens hreachable _, h.members⟩
  · refine (keeps_open t).imp fun {a b} hkeeps n' hn' => ⟨hkeeps n' hn'.1, fun m hm => ?_⟩
    exact (hn'.2 m hm).keeps (stays_any _) (concerns_faultless fun _ => False) fun _ _ => id
  · exact clean_piece t h hpiece hn'.1 hn'.2

/-- A leaf of a pair with one more link, which is created. -/
def movedLeaf : SwitchSpec :=
  let leaf := FabricRequest.pairedLeaf "leaf-1" "10.0.0.1/32" "10.9.0.0/31" "10.2.0.1" "10.0.0.2"
  { leaf with interfaces :=
      leaf.interfaces ++ [{ name := "0/3", kind := .ethernet, ip := "10.9.0.4/31", change := .create }] }

/-- What another fabric left on the leaf: its EVPN instance, its anycast gateway, and an address and a donor where
the other one is to be. -/
def formerNetwork : Network :=
  let seeded := (Network.ofHosts ["leaf-1"]).seed "leaf-1"
    { evpnInstance := some "core", anycastMac := some "0201.0909.0909" }
  let numbered := (seeded.execute "leaf-1" (.configureNumbered "ethernet" "0/1" "10.8.0.0/31" "")).2
  (numbered.execute "leaf-1" (.configureUnnumbered "ethernet" "0/2" "loopback" "1")).2

/-- The leaf takes it all over. -/
theorem movedLeaf_forced :
    formerNetwork.Reachable ∧ movedLeaf.Pushable formerNetwork ∧
      ((movedLeaf.configure .clos false).run Network.adapter formerNetwork).1.length = 2 ∧
      ((movedLeaf.configure .clos true).run Network.adapter formerNetwork).1 = [] := by
  have hreachable : formerNetwork.Reachable :=
    (((Network.Reachable.ofHosts ["leaf-1"]).seed _ _).execute _ _).execute _ _
  have hpushable : movedLeaf.Pushable formerNetwork := by
    refine ⟨?_, ?_, ?_, ?_, ?_, ?_, ?_, ?_, ?_⟩ <;> decide +kernel
  exact ⟨hreachable, hpushable, by decide +kernel, configure_forced .clos hreachable hpushable⟩

end SwitchSpec

end FabricProvision
