import FabricProvision.Proofs.Device.Frames
import FabricProvision.Proofs.File.Loopbacks
import FabricProvision.Provision.Bgp

/-!
# Router-ids

The router-id of a switch is the address of the last loopback with the chosen name, without its mask.  It is read off
the text, so it is an address only if the text of that loopback starts with one.  In an accepted file this holds of
every loopback that is given an address, and allocation writes one for every other (`InterfaceSpec.written_of_allocate`).
So each switch of the request that lists a loopback of the chosen name has an address for its router-id, and no switch
refuses it for being empty (`FabricFile.allocate_routerIds`).

What a loopback with a donor has for its address is not looked at, so no loopback is to have one.
-/

namespace FabricProvision

/-! ### Addresses of loopbacks -/

/-- A written address without its mask is an address. -/
theorem InterfaceSpec.Written.dotted {i : InterfaceSpec} (h : i.Written) : ∃ a, Ipv4.Dotted i.addressText.toList a := by
  obtain ⟨b, address, length, haddress, -, hip⟩ := h
  rw [addressText, SwitchSpec.toList_withoutMask haddress hip]
  exact ⟨b.member, haddress⟩

theorem Ipv4.Dotted.isEmpty_eq_false {text : String} {a : Ipv4} (h : Dotted text.toList a) : text.isEmpty = false := by
  rw [Bool.eq_false_iff, ne_eq, String.isEmpty_iff]
  rintro rfl
  exact h.ne_nil String.toList_empty

/-- A loopback of an accepted file has a written address once it was allocated, be it given or drawn. -/
theorem InterfaceSpec.written_of_allocate {fabric : FabricId} {device : UInt32} {position : Nat} {i i' : InterfaceSpec}
    {p p' : Pools} (h : (i.allocate fabric device position).run.run p = (.ok i', p')) (hvalid : i.Valid)
    (hdonor : i.kind = .loopback → i.donor = none) (hkind : i'.kind = .loopback) : i'.Written := by
  rcases allocate_eq_ok.1 h with ⟨-, a, -, rfl⟩ | ⟨hgiven, rfl, -⟩
  · exact ⟨_, Block.written_text a⟩
  · have hip : i'.ip ≠ "" := by simpa [needsAddress, hkind] using hgiven
    exact hvalid.wellFormed (hdonor hkind) hip

namespace SwitchSpec

variable {s : SwitchSpec}

theorem mem_routerLoopbacks {i : InterfaceSpec} :
    i ∈ s.routerLoopbacks ↔ i ∈ s.interfaces ∧ i.kind = .loopback ∧ i.name = s.loopbackPort := by
  simp [routerLoopbacks]

/-- Where loopbacks have written addresses, that of the last one with the chosen name is the router-id. -/
theorem routerId?_of_written (h : ∀ i ∈ s.interfaces, i.kind = .loopback → i.Written) :
    s.routerId? = s.routerLoopbacks.getLast?.map (·.addressText) := by
  unfold routerId?
  rcases hlast : s.routerLoopbacks.getLast? with _ | i
  · rfl
  · obtain ⟨hi, hkind, -⟩ := mem_routerLoopbacks.1 (List.mem_of_getLast? hlast)
    obtain ⟨a, hdotted⟩ := (h i hi hkind).dotted
    exact if_neg (Bool.eq_false_iff.1 hdotted.isEmpty_eq_false)

/-- Where loopbacks have written addresses, a switch has a router-id if it lists a loopback of the chosen name. -/
theorem isSome_routerId_of_written (h : ∀ i ∈ s.interfaces, i.kind = .loopback → i.Written) :
    s.routerId?.isSome ↔ ∃ i ∈ s.interfaces, i.kind = .loopback ∧ i.name = s.loopbackPort := by
  rw [routerId?_of_written h, Option.isSome_map, List.getLast?_isSome]
  constructor
  · intro hsome
    obtain ⟨i, hi⟩ := List.exists_mem_of_ne_nil _ hsome
    exact ⟨i, mem_routerLoopbacks.1 hi⟩
  · rintro ⟨i, hi⟩
    exact List.ne_nil_of_mem (mem_routerLoopbacks.2 hi)

theorem dotted_of_routerId (h : ∀ i ∈ s.interfaces, i.kind = .loopback → i.Written) {id : String}
    (hid : s.routerId? = some id) : ∃ a, Ipv4.Dotted id.toList a := by
  rw [routerId?_of_written h] at hid
  obtain ⟨i, hlast, rfl⟩ := Option.map_eq_some_iff.1 hid
  obtain ⟨hi, hkind, -⟩ := mem_routerLoopbacks.1 (List.mem_of_getLast? hlast)
  exact (h i hi hkind).dotted

end SwitchSpec

/-! ### Operations -/

/-- One step is named for the router-id, and sends it, or an empty text if there is none. -/
theorem SwitchSpec.filter_bgpSteps (s : SwitchSpec) (t : Topology) :
    (s.bgpSteps t).filter (·.1 == "Router ID") = [("Router ID", .configureRouterId (s.routerId?.getD ""))] := by
  have hother : ("BGP Neighbor" == "Router ID") = false := by decide
  have hroute : (if s.needsRouteMap t then [("BGP Operation Route Map", Operation.configureRouteMap)] else []).filter
      (·.1 == "Router ID") = [] := by
    split <;> rfl
  have hneighbors (ns : List NeighborSpec) (op : NeighborSpec → Operation) :
      (ns.map fun n => ("BGP Neighbor", op n)).filter (·.1 == "Router ID") = [] := by
    rw [List.filter_eq_nil_iff]
    rintro _ hstep
    obtain ⟨n, -, rfl⟩ := List.mem_map.1 hstep
    simp [hother]
  simp only [bgpSteps, List.filter_append, hneighbors, hroute, List.nil_append]
  rfl

/-- A router-id that is not empty is refused only where all are. -/
theorem Device.receive_routerId {id : String} (h : id.isEmpty = false) (d : Device) (status : ClusterStatus) :
    (d.receive status (.configureRouterId id)).1 =
      if d.failing.contains (Operation.configureRouterId id).name then .error .injected else .ok .ok := by
  have happly : (Operation.configureRouterId id).apply.run.run d.configuration =
      (.ok .ok, { d.configuration with routerId := some id }) := by
    simp only [Operation.apply, h, Bool.false_eq_true, if_false]
    rfl
  rcases d.receive_cases status (.configureRouterId id) with ⟨hfail, hreceive⟩ | ⟨-, hop, -⟩ | ⟨hfail, -, hreceive⟩
  · rw [hreceive, if_pos hfail]
  · cases hop
  · rw [hreceive, happly, hfail]
    rfl

/-! ### The file -/

/-- Accepted files lead to well-formed router-ids.  Let a file be accepted, let none of its loopbacks have a donor, and
let it be allocated on any pools.  Then a switch of the request has a router-id exactly if it lists a loopback of the
chosen name.  The router-id is four octets with points between, without a mask; it is what the one step named for it
sends, and a switch refuses that only where it refuses every such operation, so never for being empty. -/
theorem FabricFile.allocate_routerIds (f : FabricFile) (p : Pools) (hvalid : f.validate = .ok ⟨⟩)
    (hdonor : ∀ s ∈ f.switches, ∀ i ∈ s.interfaces, i.kind = .loopback → i.donor = none) {request : FabricRequest}
    {p' : Pools} (h : f.allocate.run.run p = (.ok request, p')) :
    ∀ s ∈ request.switches,
      (s.routerId?.isSome ↔ ∃ i ∈ s.interfaces, i.kind = .loopback ∧ i.name = s.loopbackPort) ∧
      ∀ id, s.routerId? = some id →
        (∃ a, Ipv4.Dotted id.toList a) ∧
        (∀ t, (s.bgpSteps t).filter (·.1 == "Router ID") = [("Router ID", .configureRouterId id)]) ∧
        ∀ (d : Device) status, (d.receive status (.configureRouterId id)).1 =
          if d.failing.contains (Operation.configureRouterId id).name then .error .injected else .ok .ok := by
  have hfile := faults_eq_nil.1 (validate_eq_ok.1 hvalid)
  obtain ⟨p₁, ss', -, hswitches, rfl⟩ := allocate_eq_ok.1 h
  intro s' hs'
  obtain ⟨s, hs, device, q, q', hswitch⟩ := SwitchSpec.exists_allocate_of_mem hswitches hs'
  obtain ⟨n, is, q₁, -, hinterfaces, rfl⟩ := SwitchSpec.allocate_eq_ok.1 hswitch
  have hwritten : ∀ i' ∈ is, i'.kind = .loopback → i'.Written := by
    intro i' hi' hkind
    obtain ⟨i, hi, position, r, r', hinterface⟩ := InterfaceSpec.exists_allocate_of_mem hinterfaces hi'
    exact InterfaceSpec.written_of_allocate hinterface ((hfile.switches s hs).interfaces i hi) (hdonor s hs i hi) hkind
  refine ⟨SwitchSpec.isSome_routerId_of_written hwritten, fun id hid => ?_⟩
  obtain ⟨a, hdotted⟩ := SwitchSpec.dotted_of_routerId hwritten hid
  refine ⟨⟨a, hdotted⟩, fun t => ?_, Device.receive_routerId hdotted.isEmpty_eq_false⟩
  rw [SwitchSpec.filter_bgpSteps, hid]
  rfl

/-- The last loopback of the chosen name draws its address, the one before it has another, and the second switch lists
none of that name. -/
theorem FabricFile.repeatedLoopback_routerId :
    let f : FabricFile := {
      settings := { name := "dc" }
      pools := { addresses := [⟨"Loopback", "10.0.0.0/30", false⟩] }
      switches := [
        { host := "192.0.2.1", role := .leaf, bgp := { localAsn := 64512 }, loopbackPort := "1"
          interfaces := [
            { name := "1", kind := .loopback, ip := "10.9.0.1/24" }, { name := "1", kind := .loopback },
            { name := "2", kind := .loopback, ip := "10.9.0.2/32" }] },
        { host := "192.0.2.2", role := .leaf, bgp := { localAsn := 64513 }, loopbackPort := "1"
          interfaces := [{ name := "0/1", kind := .ethernet, ip := "10.9.1.0/31" }] }] }
    f.validate = .ok ⟨⟩ ∧
      ∃ request p', f.allocate.run.run {} = (.ok request, p') ∧
        request.switches.map (·.routerLoopbacks.map (·.addressText)) = [["10.9.0.1", "10.0.0.0"], []] ∧
        ∀ s ∈ request.switches,
          s.routerId?.isSome ↔ ∃ i ∈ s.interfaces, i.kind = .loopback ∧ i.name = s.loopbackPort := by
  intro f
  have hvalid : f.validate = .ok ⟨⟩ := by cbv
  have hdonor : ∀ s ∈ f.switches, ∀ i ∈ s.interfaces, i.kind = .loopback → i.donor = none := by decide
  have hgiven : ((f.allocate.run.run {}).1.map fun request =>
      request.switches.map (·.routerLoopbacks.map (·.addressText))) = .ok [["10.9.0.1", "10.0.0.0"], []] := by cbv
  refine ⟨hvalid, ?_⟩
  rcases hrun : f.allocate.run.run {} with ⟨e | request, p'⟩ <;> rw [hrun] at hgiven
  · cases hgiven
  · exact ⟨request, p', rfl, Except.ok.inj hgiven, fun s hs => (allocate_routerIds f {} hvalid hdonor hrun s hs).1⟩

end FabricProvision
