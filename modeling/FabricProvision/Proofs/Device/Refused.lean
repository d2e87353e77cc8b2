import FabricProvision.Proofs.Device.Achieved

/-!
# What refused operations leave

Some operations change the configuration first and are refused afterwards, because what they remove was not there
or the interface has a donor.  What they change is then the same as before: a refused operation leaves the
configuration as it was (`Operation.apply_of_refused`).
-/

namespace FabricProvision

open Std (ExtTreeMap ExtTreeSet)
open Step FabricProvision.Configuration

/-! ### Steps -/

/-- If the step fails on the state, it leaves it as it was. -/
def Step.Harmless {σ ε α : Type} (x : ExceptT ε (StateM σ) α) (s : σ) : Prop :=
  ∀ e, (x.run.run s).1 = .error e → (x.run.run s).2 = s

namespace Operation

section harmless

variable {σ ε α β : Type} {c : Configuration}

private theorem harmless_of_run {x : ExceptT ε (StateM σ) α} {s s' : σ} {a : α} (h : x.run.run s = (.ok a, s')) :
    Harmless x s := by
  intro e he
  rw [h] at he
  cases he

private theorem harmless_throw (e : ε) (s : σ) : Harmless (throw e : ExceptT ε (StateM σ) α) s := fun _ _ => rfl

private theorem harmless_get {f : σ → ExceptT ε (StateM σ) α} {s : σ} (h : Harmless (f s) s) :
    Harmless (get >>= f) s := by
  intro e he
  simp only [run_bind, run_get] at he ⊢
  exact h e he

private theorem harmless_acknowledge {step : ConfigurationM Unit} (h : Harmless step c) :
    Harmless (acknowledge step) c := by
  intro cause hcause
  rw [run_acknowledge] at hcause ⊢
  cases hstep : (step.run.run c).1 with
  | ok a =>
    rw [hstep] at hcause
    cases hcause
  | error e => exact h e hstep

/-- A change after a test. -/
private theorem harmless_require (present : Bool) (what : String) (f : Configuration → Configuration) :
    Harmless (do require present what; modify f) c := by
  cases present with
  | true => exact harmless_of_run rfl
  | false => exact fun _ _ => rfl

/-- A change before a test, which changes nothing where the test fails. -/
private theorem harmless_modify {present : Bool} (what : String) {f : Configuration → Configuration}
    (h : present = false → f c = c) : Harmless (do modify f; require present what) c := by
  cases present with
  | true => exact harmless_of_run rfl
  | false => exact fun _ _ => h rfl

end harmless

/-! ### Operations -/

variable (c : Configuration)

private theorem harmless_setAddress (key ip : String) : Harmless (setAddress key ip) c := by
  intro cause hcause
  rw [run_setAddress] at hcause ⊢
  cases hdonor : (c.interfaces.getD key {}).donor with
  | none =>
    rw [hdonor] at hcause
    cases hcause
  | some donor =>
    -- Only a record that is there has a donor.
    rcases Option.eq_none_or_eq_some c.interfaces[key]? with hrecord | ⟨record, hrecord⟩
    · rw [ExtTreeMap.getD_eq_getD_getElem?, hrecord] at hdonor
      cases hdonor
    · rw [ExtTreeMap.getD_eq_getD_getElem?, hrecord]
      exact setInterface_of_getElem? hrecord

private theorem harmless_removeNeighbor (address : String) : Harmless (removeNeighbor address) c :=
  harmless_get (harmless_modify _ fun habsent => by rw [set_erase_of_absent habsent])

theorem run_removeL2EvpnNeighbor (peerIp peerLoopbackIp : String) :
    (removeL2EvpnNeighbor peerIp peerLoopbackIp).run.run c =
      (require (c.l2EvpnNeighbors.contains peerIp || (c.l2EvpnNeighbors.erase peerIp).contains peerLoopbackIp)
        s!"L2 EVPN neighbor {peerIp}").run.run
        { c with l2EvpnNeighbors := (c.l2EvpnNeighbors.erase peerIp).erase peerLoopbackIp } := rfl

private theorem harmless_removeL2EvpnNeighbor (peerIp peerLoopbackIp : String) :
    Harmless (removeL2EvpnNeighbor peerIp peerLoopbackIp) c := by
  intro cause hcause
  rw [run_removeL2EvpnNeighbor, run_require] at hcause ⊢
  cases hpresent : c.l2EvpnNeighbors.contains peerIp ||
      (c.l2EvpnNeighbors.erase peerIp).contains peerLoopbackIp with
  | true =>
    rw [hpresent] at hcause
    cases hcause
  | false =>
    obtain ⟨hip, hloopback⟩ := Bool.or_eq_false_iff.1 hpresent
    rw [set_erase_of_absent hloopback, set_erase_of_absent hip]

private theorem harmless_removeAnycastGateway : Harmless removeAnycastGateway c :=
  harmless_get (harmless_modify _ fun habsent => by rw [← Option.isNone_iff_eq_none.1 (by simpa using habsent)])

private theorem harmless_removeControlVlan (vlan : UInt16) : Harmless (removeControlVlan vlan) c :=
  harmless_get (harmless_modify _ fun habsent => by rw [erase_of_absent habsent])

private theorem harmless_removeVe (ve : UInt16) : Harmless (removeVe ve) c :=
  harmless_get (harmless_modify _ fun habsent => by rw [erase_of_absent habsent])

private theorem harmless_removePortChannel (name : String) : Harmless (removePortChannel name) c :=
  harmless_get (harmless_modify _ fun habsent => by rw [erase_of_absent habsent])

private theorem harmless_removeRoute (r : Route) : Harmless (removeRoute r) c :=
  harmless_get (harmless_modify _ fun habsent => by rw [set_erase_of_absent habsent])

private theorem harmless_removeMember (member portChannel : String) :
    Harmless (removeMember member portChannel) c := by
  unfold removeMember
  refine harmless_get ?_
  rcases Option.eq_none_or_eq_some c.portChannels[portChannel]? with hchannel | ⟨p, hchannel⟩
  · simp only [hchannel]
    exact harmless_throw _ _
  · simp only [hchannel]
    cases hmember : p.members.contains member with
    | true => exact harmless_of_run rfl
    | false =>
      intro _ _
      simp only [Bool.not_false, if_true, run_bind, run_modify, run_throw, set_erase_of_absent hmember,
        insert_of_getElem? hchannel]

private theorem harmless_expectCluster (name : String) (id : UInt32)
    (f : ClusterObject → Configuration → Configuration) :
    Harmless (do let object ← expectCluster name id; modify (f object)) c := by
  unfold expectCluster
  simp only [bind_assoc]
  refine harmless_get ?_
  split
  · exact fun _ _ => rfl
  · exact harmless_of_run rfl

/-- A refused operation leaves the configuration as it was. -/
theorem apply_of_refused {op : Operation} {cause : Rejection} (h : (op.apply.run.run c).1 = .error cause) :
    (op.apply.run.run c).2 = c := by
  revert cause
  show Harmless op.apply c
  cases op with
  | configureNumbered kind name ip description => exact harmless_acknowledge (harmless_setAddress c _ _)
  | deleteLoopback | unconfigureNumbered | addMember | configureSpeed | unconfigurePeerIp =>
    -- A change of what has to be there.
    refine harmless_acknowledge (harmless_get ?_)
    split
    · exact harmless_throw _ c
    · exact harmless_of_run rfl
  | createEvpnInstance | createOverlayGateway | createCluster =>
    -- A change unless something else is there.
    refine harmless_acknowledge (harmless_get ?_)
    split
    · exact fun _ _ => rfl
    · exact harmless_of_run rfl
  | deleteEvpnInstance | deleteOverlayGateway | deleteControlVe | unconfigureVeIp =>
    exact harmless_acknowledge (harmless_get (harmless_require _ _ _))
  | unconfigureUnnumbered kind name =>
    refine harmless_acknowledge ?_
    intro cause hcause
    rw [run_clearDonor] at hcause
    split at hcause <;> cases hcause
  | configureRouterId routerId =>
    cases hempty : routerId.isEmpty with
    | true =>
      simp only [apply, hempty, if_true]
      exact harmless_throw _ c
    | false =>
      simp only [apply, hempty, Bool.false_eq_true, if_false]
      exact harmless_of_run (run_store _ c)
  | unconfigureAnycastGateway => exact harmless_acknowledge (harmless_removeAnycastGateway c)
  | unconfigureNeighbor address _ _ => exact harmless_acknowledge (harmless_removeNeighbor c address)
  | unconfigureL2EvpnNeighbor peerIp peerLoopbackIp =>
    exact harmless_acknowledge (harmless_removeL2EvpnNeighbor c peerIp peerLoopbackIp)
  | deleteControlVlan vlan => exact harmless_acknowledge (harmless_removeControlVlan c vlan)
  | deleteMember member portChannel => exact harmless_acknowledge (harmless_removeMember c member portChannel)
  | deletePortChannel name => exact harmless_acknowledge (harmless_removePortChannel c name)
  | deleteVe ve => exact harmless_acknowledge (harmless_removeVe c ve)
  | deconfigureRoute => exact harmless_acknowledge (harmless_removeRoute c _)
  | configureCluster binding => exact harmless_acknowledge (harmless_expectCluster c _ _ _)
  | deleteCluster name id => exact harmless_acknowledge (harmless_expectCluster c name id _)
  | undeployCluster name id => exact harmless_acknowledge (harmless_expectCluster c name id _)
  | configurePeerIp name id peerIp => exact harmless_acknowledge (harmless_expectCluster c name id _)
  | _ => exact harmless_of_run rfl

end Operation

end FabricProvision
