import FabricProvision.Proofs.Device.Apart
import FabricProvision.Proofs.Device.Journals
import FabricProvision.Proofs.Device.Refused

/-!
# Single operations

What one operation does to a network.  It reaches one host, which writes it down once.  There it changes nothing if it
is refused, for whatever reason (`Network.Refuses`), or if it only asks for something.  An operation that configures,
creates or adds something and is carried out can be repeated: it is acknowledged again and leaves the configuration as
it found it (`Operation.apply_again`).  `Network.execute_atomic` puts these together.
-/

namespace FabricProvision

open Std (ExtTreeMap ExtTreeSet)
open Step FabricProvision.Configuration

namespace Operation

/-- The first word of the name. -/
def verb (op : Operation) : String := String.ofList (op.name.toList.takeWhile (· != ' '))

/-- The operation asks for something. -/
def Asks (op : Operation) : Prop := op.verb = "Get"

/-- The operation configures, creates or adds something. -/
def Supplies (op : Operation) : Prop := op.verb ∈ ["Configure", "Create", "Add"]

/-! ### Questions -/

theorem apply_of_asks {op : Operation} (hop : op.Asks) (c : Configuration) : (op.apply.run.run c).2 = c := by
  cases op with
  | getAnycastGateway | getInterface | getNeighbors | getEncapsulation | getEvpnInstance | getOverlayGateway
  | getControlVlan | getVe | getCluster | getClusterStatus => rfl
  | _ => simp [Asks, verb, name] at hop

/-! ### Repeated work -/

/-- Work that is not refused is acknowledged again when it is repeated, and then changes nothing. -/
def Repeats (work : ConfigurationM Response) (c : Configuration) : Prop :=
  ∀ r, (work.run.run c).1 = .ok r → work.run.run (work.run.run c).2 = (.ok .ok, (work.run.run c).2)

section repeats

variable {c : Configuration}

/-- What has achieved what it is for has no further effect. -/
private theorem repeats_of_configures {op : Operation} (hop : op.configures = true) : Repeats op.apply c :=
  fun _ hr => apply_of_achieved (achieved_of_apply hop hr)

private theorem repeats_store {f : Configuration → Configuration} (h : f (f c) = f c) : Repeats (store f) c := by
  intro r _
  simp only [run_store, h]

private theorem addL2EvpnNeighbor_again (peerIp peerLoopbackIp encapsulation : String) (c : Configuration) :
    addL2EvpnNeighbor peerIp peerLoopbackIp encapsulation (addL2EvpnNeighbor peerIp peerLoopbackIp encapsulation c) =
      addL2EvpnNeighbor peerIp peerLoopbackIp encapsulation c := by
  have hneighbors : (((c.l2EvpnNeighbors.insert peerIp).insert peerLoopbackIp).insert peerIp).insert peerLoopbackIp =
      (c.l2EvpnNeighbors.insert peerIp).insert peerLoopbackIp := by
    rw [set_insert_again, set_insert_insert]
  simp only [addL2EvpnNeighbor, hneighbors]
  split <;> rfl

private theorem repeats_acknowledge {step : ConfigurationM Unit}
    (h : ∀ c', step.run.run c = (.ok ⟨⟩, c') → step.run.run c' = (.ok ⟨⟩, c')) : Repeats (acknowledge step) c := by
  intro r hr
  simp only [run_acknowledge] at hr ⊢
  rcases hstep : step.run.run c with ⟨answer, c'⟩
  cases answer with
  | ok u => rw [h c' hstep]; rfl
  | error e =>
    rw [hstep] at hr
    cases hr

private theorem repeats_changePortChannel (name : String) {f : PortChannel → PortChannel} (h : ∀ p, f (f p) = f p) :
    Repeats (acknowledge (changePortChannel name f)) c := by
  refine repeats_acknowledge fun c' hc' => ?_
  simp only [changePortChannel, run_bind, run_get] at hc' ⊢
  rcases Option.eq_none_or_eq_some c.portChannels[name]? with hchannel | ⟨p, hchannel⟩ <;> rw [hchannel] at hc'
  · cases hc'
  · cases hc'
    simp only [ExtTreeMap.getElem?_insert_self, run_modify, insert_insert, h]

/-- A cluster object that is there under its name can be created anew. -/
private theorem repeats_createClusterObject (object : ClusterObject) :
    Repeats (acknowledge (createClusterObject object)) c := by
  refine repeats_acknowledge fun c' hc' => ?_
  have hself : (some object).filter (fun o => !o.isNamed object.name object.id) = none := by
    simp [Option.filter, ClusterObject.isNamed]
  simp only [createClusterObject, run_bind, run_get] at hc' ⊢
  split at hc'
  · cases hc'
  · cases hc'
    simp only [hself]
    rfl

/-- What is done with the object of some name and number can be done again if it leaves one with both that asks for
nothing more. -/
private theorem repeats_expectCluster (name : String) (id : UInt32) {f : ClusterObject → Configuration → Configuration}
    (h : ∀ object, object.isNamed name id = true →
      ∃ object', (f object c).cluster = some object' ∧ object'.isNamed name id = true ∧
        f object' (f object c) = f object c) :
    Repeats (acknowledge do let object ← expectCluster name id; modify (f object)) c := by
  refine repeats_acknowledge fun c' hc' => ?_
  simp only [expectCluster, run_bind, run_get] at hc' ⊢
  rcases Option.eq_none_or_eq_some (c.clusterNamed? name id) with hobject | ⟨object, hobject⟩ <;> rw [hobject] at hc'
  · cases hc'
  · cases hc'
    obtain ⟨object', hcluster, hnamed, hagain⟩ := h object (Option.filter_eq_some_iff.1 hobject).2
    have hthere : (f object c).clusterNamed? name id = some object' := by
      rw [clusterNamed?, hcluster, Option.filter, if_pos hnamed]
    simp only [hthere]
    exact congrArg (Except.ok PUnit.unit, ·) hagain

end repeats

/-- An operation that configures, creates or adds something and is carried out is acknowledged again when it is repeated,
and then changes nothing. -/
theorem apply_again {op : Operation} (hop : op.Supplies) (c : Configuration) : Repeats op.apply c := by
  cases op with
  | configureL2Mtu | configureIpMtu | configureAnycastGateway | configureLoopback | configureNumbered
  | configureUnnumbered | configureRouteMap | configureBgp | configureNonClosBgp | configureNeighbor
  | configureNonClosEvpnNeighbor | configureRouterId | configureMacAndArp | createEvpnInstance | createOverlayGateway =>
    exact repeats_of_configures rfl
  | configureL2EvpnNeighbor peerIp peerLoopbackIp number asn encapsulation bfd =>
    exact repeats_store (addL2EvpnNeighbor_again peerIp peerLoopbackIp encapsulation c)
  | configureNodeId nodeId => exact repeats_store rfl
  | createControlVlan vlan ve description =>
    refine repeats_store ?_
    simp only [bindControlVlan, insert_insert, insertIfNew_insertIfNew]
  | createPortChannel name speed description vlan =>
    refine repeats_store ?_
    simp only [setPortChannel, ExtTreeMap.getD_insert_self, insert_insert]
  | addMember member portChannel speed =>
    exact repeats_changePortChannel portChannel fun p => by rw [set_insert_insert]
  | configureSpeed portChannel speed => exact repeats_changePortChannel portChannel fun p => rfl
  | configureVe ve ip _ | configureVeIp ve ip =>
    refine repeats_store ?_
    simp only [setVeAddress, insert_insert]
  | configureRoute destination nextHop =>
    refine repeats_store ?_
    simp only [set_insert_insert]
  | createCluster name id peerKind peerName peerIp => exact repeats_createClusterObject _
  | configureCluster binding =>
    exact repeats_expectCluster binding.name binding.id fun _ hnamed => ⟨_, rfl, hnamed, rfl⟩
  | configurePeerIp name id peerIp => exact repeats_expectCluster name id fun _ hnamed => ⟨_, rfl, hnamed, rfl⟩
  | _ => simp [Supplies, verb, name] at hop

end Operation

namespace Network

variable {n : Network} {host : String} {op : Operation} {d : Device}

/-- The configuration of a host. -/
def configuration? (n : Network) (host : String) : Option Configuration := (n.device? host).map (·.configuration)

/-- Why an operation is refused that is sent to a host. -/
inductive Refuses (n : Network) (host : String) (op : Operation) : Rejection → Prop
  | unknownHost (h : n.device? host = none) : Refuses n host op (.unknownHost host)
  | injected {d : Device} (hd : n.device? host = some d) (h : d.failing.contains op.name = true) :
      Refuses n host op .injected
  | rejected {d : Device} {cause : Rejection} (hd : n.device? host = some d)
      (hfailing : d.failing.contains op.name = false)
      (h : (op.apply.run.run d.configuration).1 = .error cause) : Refuses n host op cause

theorem configuration?_setDevice (n : Network) (host : String) (d : Device) :
    (n.setDevice host d).configuration? host = some d.configuration := by
  rw [configuration?, device?_setDevice_self, Option.map_some]

/-- An operation is refused for one of the reasons, which the answer names. -/
theorem execute_eq_error {e : DeviceError} :
    (n.execute host op).1 = .error e ↔ ∃ cause, n.Refuses host op cause ∧ e = .rejected op.name cause.message := by
  constructor
  · intro h
    rcases Option.eq_none_or_eq_some (n.device? host) with hd | ⟨d, hd⟩
    · rw [execute_of_absent hd] at h
      cases h
      exact ⟨_, .unknownHost hd, rfl⟩
    · rcases execute_cases hd op with ⟨hfailing, hrun⟩ | ⟨-, -, hrun⟩ | ⟨hfailing, -, hrun⟩ <;> rw [hrun] at h
      · cases h
        exact ⟨_, .injected hd hfailing, rfl⟩
      · cases h
      · cases hanswer : (op.apply.run.run d.configuration).1 with
        | ok r =>
          rw [hanswer] at h
          cases h
        | error cause =>
          rw [hanswer] at h
          cases h
          exact ⟨cause, .rejected hd hfailing hanswer, rfl⟩
  · rintro ⟨cause, hrefuses, rfl⟩
    cases hrefuses with
    | unknownHost hd => rw [execute_of_absent hd]
    | injected hd h =>
      rcases execute_cases hd op with ⟨-, hrun⟩ | ⟨hfailing, -⟩ | ⟨hfailing, -⟩
      · rw [hrun]
      · simp [h] at hfailing
      · simp [h] at hfailing
    | rejected hd hfailing h =>
      rcases execute_cases hd op with ⟨hinjected, -⟩ | ⟨-, rfl, -⟩ | ⟨-, -, hrun⟩
      · simp [hfailing] at hinjected
      · cases h
      · rw [hrun, h]
        rfl

/-- Whatever the host does to its configuration, it does by applying the operation. -/
theorem configuration?_execute_of_fixed
    (h : ∀ d, n.device? host = some d → d.failing.contains op.name = false →
      (op.apply.run.run d.configuration).2 = d.configuration) :
    (n.execute host op).2.configuration? host = n.configuration? host := by
  rcases Option.eq_none_or_eq_some (n.device? host) with hd | ⟨d, hd⟩
  · rw [execute_of_absent hd]
  · have hbefore : n.configuration? host = some d.configuration := by rw [configuration?, hd, Option.map_some]
    rcases execute_cases hd op with ⟨-, hrun⟩ | ⟨-, -, hrun⟩ | ⟨hfailing, -, hrun⟩ <;>
      rw [hrun, configuration?_setDevice, hbefore]
    · rfl
    · rfl
    · exact congrArg some (h d hd hfailing)

theorem configuration?_execute_of_refused {cause : Rejection} (h : n.Refuses host op cause) :
    (n.execute host op).2.configuration? host = n.configuration? host := by
  refine configuration?_execute_of_fixed fun d hd hfailing => ?_
  cases h with
  | unknownHost habsent =>
    rw [habsent] at hd
    cases hd
  | injected hd' hinjected =>
    rw [hd'] at hd
    cases hd
    simp [hinjected] at hfailing
  | rejected hd' _ hrejected =>
    rw [hd'] at hd
    cases hd
    exact Operation.apply_of_refused _ hrejected

/-- What was configured, created or added can be configured, created or added again. -/
theorem execute_again (hop : op.Supplies) {r : Response} (h : (n.execute host op).1 = .ok r) :
    ((n.execute host op).2.execute host op).1 = .ok .ok ∧
      ((n.execute host op).2.execute host op).2.configuration? host = (n.execute host op).2.configuration? host := by
  have hstatus : op ≠ .getClusterStatus := by
    rintro rfl
    simp [Operation.Supplies, Operation.verb, Operation.name] at hop
  rcases Option.eq_none_or_eq_some (n.device? host) with hd | ⟨d, hd⟩
  · rw [execute_of_absent hd] at h
    cases h
  rcases execute_cases hd op with ⟨-, hrun⟩ | ⟨-, hop', -⟩ | ⟨hfailing, -, hrun⟩
  · rw [hrun] at h
    cases h
  · exact absurd hop' hstatus
  · have hanswer : (op.apply.run.run d.configuration).1 = .ok r := mapError_eq_ok.1 (by rw [← h, hrun])
    have hagain := Operation.apply_again hop d.configuration r hanswer
    have hd' := device?_setDevice_self n host { d.record op with configuration := (op.apply.run.run d.configuration).2 }
    rw [hrun]
    rcases execute_cases hd' op with ⟨hinjected, -⟩ | ⟨-, hop', -⟩ | ⟨-, -, hrun'⟩
    · exact absurd (hinjected.symm.trans hfailing) nofun
    · exact absurd hop' hstatus
    · rw [hrun', configuration?_setDevice, configuration?_setDevice]
      exact ⟨by rw [hagain]; rfl, by rw [hagain]⟩

/-- An operation is written down once by the host that it is sent to, if it is there, and by no other, and no other host
changes.  It is refused exactly for the reasons that there are to refuse it, and then leaves the configuration of the
host as it was, as a question always does.  What configures, creates or adds something and is carried out can be
repeated at once: it is acknowledged again, and the configuration stays. -/
theorem execute_atomic (n : Network) (host : String) (op : Operation) :
    let r := n.execute host op
    (∀ other, r.2.journal other = n.journal other ++ if other = host ∧ host ∈ n.hosts then [op] else []) ∧
    (∀ other, other ≠ host → r.2.device? other = n.device? other) ∧
    (∀ e, r.1 = .error e ↔ ∃ cause, n.Refuses host op cause ∧ e = .rejected op.name cause.message) ∧
    (∀ e, r.1 = .error e → r.2.configuration? host = n.configuration? host) ∧
    (op.Asks → r.2.configuration? host = n.configuration? host) ∧
    (op.Supplies → ∀ answer, r.1 = .ok answer →
      (r.2.execute host op).1 = .ok .ok ∧ (r.2.execute host op).2.configuration? host = r.2.configuration? host) := by
  refine ⟨fun other => ?_, fun other hother => n.device?_execute_of_ne (Ne.symm hother) op, fun e => execute_eq_error,
    fun e he => ?_, fun hop => ?_, fun hop answer hanswer => execute_again hop hanswer⟩
  · rcases Option.eq_none_or_eq_some (n.device? host) with hd | ⟨d, hd⟩
    · have habsent : host ∉ n.hosts := fun hmem => by
        obtain ⟨d, hd'⟩ := mem_hosts.1 hmem
        rw [hd] at hd'
        cases hd'
      rw [execute_of_absent hd, if_neg fun h => habsent h.2, List.append_nil]
    · rw [journal_execute hd op other]
      simp only [mem_hosts.2 ⟨d, hd⟩, and_true, eq_comm]
  · obtain ⟨cause, hrefuses, -⟩ := execute_eq_error.1 he
    exact configuration?_execute_of_refused hrefuses
  · exact configuration?_execute_of_fixed fun d _ _ => Operation.apply_of_asks hop d.configuration

/-- A leaf with an interface that borrows the address of a loopback, which shows a fault. -/
def borrower : Network :=
  ((((Network.ofHosts ["leaf-1"]).failOperation "leaf-1" "Configure System L2 MTU").execute "leaf-1"
    (.configureLoopback "1" "10.0.0.1/32")).2.execute "leaf-1"
      (.configureUnnumbered "ethernet" "0/1" "loopback" "1")).2

/-- An address is refused by the interface, and nothing is changed; a cluster can be created twice. -/
theorem borrower_atomic :
    let addressed := borrower.execute "leaf-1" (.configureNumbered "ethernet" "0/1" "10.1.0.0/31" "")
    let clustered := addressed.2.execute "leaf-1" (.createCluster "pair" 1 "Port-channel" "64" "10.2.0.1")
    addressed.1 = .error (.rejected "Configure Interface Numbered" "ethernet 0/1 is unnumbered from loopback 1") ∧
      addressed.2.configuration? "leaf-1" = borrower.configuration? "leaf-1" ∧
      clustered.1 = .ok .ok ∧
      (clustered.2.execute "leaf-1" (.createCluster "pair" 1 "Port-channel" "64" "10.2.0.1")).1 = .ok .ok := by
  intro addressed clustered
  have hrefused : addressed.1 =
      .error (.rejected "Configure Interface Numbered" "ethernet 0/1 is unnumbered from loopback 1") := by decide +kernel
  have hcreated : clustered.1 = .ok .ok := by decide +kernel
  obtain ⟨-, -, -, hsame, -, -⟩ := execute_atomic borrower "leaf-1" (.configureNumbered "ethernet" "0/1" "10.1.0.0/31" "")
  obtain ⟨-, -, -, -, -, hagain⟩ :=
    execute_atomic addressed.2 "leaf-1" (.createCluster "pair" 1 "Port-channel" "64" "10.2.0.1")
  exact ⟨hrefused, hsame _ hrefused, hcreated,
    (hagain (by simp [Operation.Supplies, Operation.verb, Operation.name]) _ hcreated).1⟩

end Network

end FabricProvision
