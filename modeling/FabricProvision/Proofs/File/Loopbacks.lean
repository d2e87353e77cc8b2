import FabricProvision.Proofs.File.Accepted
import FabricProvision.Proofs.File.Allocated

/-!
# Addresses of loopbacks

The loopbacks of a request are those that had an address in the file, as they were, and those that drew one
(`SwitchSpec.loopbacks_perm`).  Drawn addresses differ from each other and are from the ranges of loopbacks.  Given
ones are not reserved, unlike given numbers, so a given address that is in such a range may be drawn as well
(`FabricFile.givenLoopback_drawn`).  If none is, all loopbacks of the request have addresses of their own
(`FabricFile.allocate_apart`).

Two texts may write one address, so addresses are compared both as they are written and as they are read.
-/

namespace FabricProvision

open Step

/-! ### Addresses in texts -/

/-- Without its mask a block is its address, as it is written. -/
theorem SwitchSpec.toList_withoutMask {ip : String} {address length : List Char} {a : Ipv4}
    (h : Ipv4.Dotted address a) (hip : ip.toList = address ++ '/' :: length) : (withoutMask ip).toList = address := by
  have hslash : ∀ c ∈ address, (c != '/') = true := by
    intro c hc
    rcases h.isDigit_or c hc with hdigit | rfl
    · rw [bne_iff_ne]
      rintro rfl
      cases hdigit
    · rfl
  rw [withoutMask, String.toList_ofList, hip, List.takeWhile_append_of_pos hslash,
    List.takeWhile_cons_of_neg (by simp), List.append_nil]

theorem SwitchSpec.withoutMask_text (a : Ipv4) : withoutMask (a.text ++ "/32") = a.text :=
  String.toList_injective (toList_withoutMask (Ipv4.dotted_text a) String.toList_append)

namespace InterfaceSpec

/-- The address of an interface as it is written, without the mask. -/
def addressText (i : InterfaceSpec) : String := SwitchSpec.withoutMask i.ip

/-- The address of an interface, if it has one. -/
def address? (i : InterfaceSpec) : Option Ipv4 := Ipv4.parse? i.addressText

/-- The interfaces have one address, in the same or in different texts. -/
def SharesAddress (i j : InterfaceSpec) : Prop :=
  i.addressText = j.addressText ∨ ∃ a, i.address? = some a ∧ j.address? = some a

variable {i j : InterfaceSpec}

theorem SharesAddress.symm (h : i.SharesAddress j) : j.SharesAddress i :=
  h.imp Eq.symm fun ⟨a, hi, hj⟩ => ⟨a, hj, hi⟩

theorem address?_of_drawn {a : Ipv4} (h : i.ip = a.text ++ "/32") : i.address? = some a := by
  rw [address?, addressText, h, SwitchSpec.withoutMask_text, Ipv4.parse?_text]

/-- An interface that drew an address shares it exactly with those that have this address. -/
theorem sharesAddress_drawn {a : Ipv4} (h : j.ip = a.text ++ "/32") : i.SharesAddress j ↔ i.address? = some a := by
  constructor
  · rintro (htext | ⟨b, hi, hj⟩)
    · rw [address?, htext]
      exact address?_of_drawn h
    · rw [hi, ← hj, address?_of_drawn h]
  · exact fun hi => .inr ⟨a, hi, address?_of_drawn h⟩

/-- What each interface drew is one of the drawn addresses. -/
theorem mem_drawn {drawn : List Ipv4} {js : List InterfaceSpec} (h : js.map (·.ip) = drawn.map (·.text ++ "/32"))
    (hj : j ∈ js) : ∃ a ∈ drawn, j.ip = a.text ++ "/32" := by
  obtain ⟨a, ha, htext⟩ := List.mem_map.1 (h ▸ List.mem_map_of_mem hj)
  exact ⟨a, ha, htext.symm⟩

/-- Interfaces that drew different addresses share none. -/
theorem pairwise_drawn {drawn : List Ipv4} {js : List InterfaceSpec} (h : js.map (·.ip) = drawn.map (·.text ++ "/32"))
    (hdrawn : drawn.Nodup) : js.Pairwise fun i j => ¬ i.SharesAddress j := by
  induction js generalizing drawn with
  | nil => exact .nil
  | cons i rest ih =>
    rcases drawn with _ | ⟨a, later⟩
    · cases h
    · obtain ⟨hi, hrest⟩ := List.cons.inj h
      obtain ⟨ha, hlater⟩ := List.nodup_cons.1 hdrawn
      refine .cons (fun j hj hshares => ha ?_) (ih hrest hlater)
      obtain ⟨b, hb, hj⟩ := mem_drawn hrest hj
      have hsame : some a = some b := (address?_of_drawn hi).symm.trans ((sharesAddress_drawn hj).1 hshares)
      rwa [Option.some.inj hsame]

end InterfaceSpec

/-! ### Loopbacks of a request -/

/-- The loopbacks of a switch, in order. -/
def SwitchSpec.loopbacks (s : SwitchSpec) : List InterfaceSpec := s.interfaces.filter (·.kind == .loopback)

namespace InterfaceSpec

/-- The interfaces that waited for an address before, as they are after. -/
def filled (before after : List InterfaceSpec) : List InterfaceSpec :=
  ((before.zip after).filter (·.1.needsAddress)).map (·.2)

theorem map_ip_filled (before after : List InterfaceSpec) : (filled before after).map (·.ip) = filledIps before after :=
  List.map_map

/-- A loopback keeps its address or is filled in. -/
private theorem loopbacks_perm_of_filled {is is' : List InterfaceSpec} (h : List.Forall₂ Filled is is') :
    (is'.filter (·.kind == .loopback)).Perm
      ((is.filter (·.kind == .loopback)).filter (!·.ip.isEmpty) ++ filled is is') := by
  induction h with
  | nil => exact .nil
  | @cons i i' rest rest' hi hrest ih =>
    have hkind : i'.kind = i.kind := by rw [hi.rest]
    unfold filled at ih ⊢
    by_cases hwaiting : i.kind = .loopback ∧ i.ip = ""
    · -- The interface is filled in.
      simpa [List.filter_cons, hkind, hwaiting, needsAddress] using (ih.cons i').trans List.perm_middle.symm
    · -- The interface stays as it is.
      have hsame : i' = i := by rw [hi.rest, hi.ip hwaiting]
      have hneeds : i.needsAddress = false := by simpa [needsAddress] using hwaiting
      by_cases hloopback : i.kind = .loopback
      · have hip : i.ip ≠ "" := fun hip => hwaiting ⟨hloopback, hip⟩
        simpa [List.filter_cons, hsame, hneeds, hloopback, hip] using ih.cons i
      · simpa [List.filter_cons, hsame, hneeds, hloopback] using ih

end InterfaceSpec

namespace SwitchSpec

/-- The loopbacks of switches have the address that they were given, or are filled in. -/
private theorem loopbacks_perm {name : String} {ss ss' : List SwitchSpec} (h : List.Forall₂ (Filled name) ss ss') :
    (ss'.flatMap loopbacks).Perm ((ss.flatMap loopbacks).filter (!·.ip.isEmpty) ++
      (ss.zip ss').flatMap fun x => InterfaceSpec.filled x.1.interfaces x.2.interfaces) := by
  induction h with
  | nil => exact .nil
  | @cons s s' rest rest' hs hrest ih =>
    simp only [List.flatMap_cons, List.zip_cons_cons, List.filter_append]
    have hswitch := InterfaceSpec.loopbacks_perm_of_filled hs.interfaces
    refine (hswitch.append ih).trans ?_
    simp only [List.append_assoc]
    exact (List.perm_append_comm_assoc _ _ _).append_left _

end SwitchSpec

/-! ### Where addresses are drawn from -/

theorem Stock.populated_draw {k : Kind} (s : Stock k) (owner : k.Owner) :
    ((draw owner).run.run s).2.populated = s.populated := by
  rcases draw_cases s owner with ⟨held, -, h⟩ | ⟨-, -, h⟩ | ⟨u, -, -, h⟩ <;> rw [h]
  rfl

namespace Pools

/-- The addresses that were added to the categories of the fabric are the same. -/
def SameAddresses (fabric : FabricId) (p p' : Pools) : Prop :=
  ∀ c, (p'.addresses.stock fabric c).populated = (p.addresses.stock fabric c).populated

variable (fabric : FabricId)

instance : Std.Refl (SameAddresses fabric) := ⟨fun _ _ => rfl⟩

instance : Trans (SameAddresses fabric) (SameAddresses fabric) (SameAddresses fabric) :=
  ⟨fun h h' c => (h' c).trans (h c)⟩

/-- Draws and reservations add no address. -/
private theorem sameAddresses_allocate (name : String) (device : UInt32) (s : SwitchSpec) :
    Respects (SameAddresses fabric) (s.allocate fabric name device) := by
  refine SwitchSpec.respects_allocate (fun c => ?_) (fun c n => ?_) (fun n => ?_) name s
  · exact respects_onPool fun _ _ => rfl
  · exact respects_onPool fun _ _ => rfl
  · refine respects_onPool fun p c => ?_
    show (((Pool.draw fabric loopbackCategory _).run.run p.addresses).2.stock fabric c).populated = _
    rw [Pool.draw, Pool.stock_onStock]
    split
    · exact Stock.populated_draw _ _
    · rfl

private theorem sameAddresses_allocateAll {fabric : FabricId} {name : String} {first : Nat} {ss ss' : List SwitchSpec}
    {p p' : Pools}
    (h : (SwitchSpec.allocateAll fabric name first ss).run.run p = (.ok ss', p')) : SameAddresses fabric p p' := by
  have hrespects := SwitchSpec.respects_allocateAll (sameAddresses_allocate fabric name) first ss p
  rwa [h] at hrespects

end Pools

/-! ### The file -/

theorem FabricFile.faults_of_validate {f : FabricFile} (h : f.validate = .ok ⟨⟩) : f.faults = [] := validate_eq_ok.1 h

/-- Loopbacks have addresses of their own if no given one is in a range to draw from.  Let a file be accepted, let the
addresses that its loopbacks are given differ from each other, and let none of them be in a range of loopbacks.  If the
file is allocated on empty pools, then the addresses of all loopbacks in the request, given or drawn, differ from each
other. -/
theorem FabricFile.allocate_apart (f : FabricFile) (hvalid : f.validate = .ok ⟨⟩) {request : FabricRequest} {p' : Pools}
    (h : f.allocate.run.run {} = (.ok request, p'))
    (hgiven : ((f.switches.flatMap SwitchSpec.loopbacks).filter (!·.ip.isEmpty)).Pairwise fun i j =>
      ¬ i.SharesAddress j)
    (houtside : ∀ i ∈ f.switches.flatMap SwitchSpec.loopbacks, ∀ a, i.address? = some a →
      ∀ r ∈ f.pools.addresses, r.category = loopbackCategory → a ∉ Kind.address.units r) :
    (request.switches.flatMap SwitchSpec.loopbacks).Pairwise fun i j => ¬ i.SharesAddress j := by
  have hfaults : f.pools.faults = [] := by
    have hall := faults_of_validate hvalid
    simp only [faults, List.append_eq_nil_iff] at hall
    exact hall.1.1.2
  obtain ⟨p₁, ss', hpopulate, hswitches, rfl⟩ := allocate_eq_ok.1 h
  have hloaded (k : Kind) : (p₁.pool k).Loaded f.settings.id (f.pools.ranges k) := by
    rcases Pools.populate_cases hfaults f.settings.id with ⟨-, k', c, unit, hfail⟩ | ⟨-, -, hloaded⟩
    · rw [hpopulate] at hfail
      cases hfail
    · rw [hpopulate] at hloaded
      exact hloaded k
  have hp : p₁.Conserved f.settings.id := ⟨(hloaded .number).conserved, (hloaded .address).conserved⟩
  obtain ⟨hfilled, drawn, hhands, hips⟩ := SwitchSpec.hands_allocateAll hp hswitches
  have haddresses := hhands.addresses loopbackCategory
  rw [if_pos rfl] at haddresses
  have hnodup : drawn.Nodup := (List.pairwise_map.1 haddresses.distinct).imp fun hne => (hne rfl).symm
  have hdrawn : ∀ a ∈ drawn, ∃ r ∈ f.pools.addresses, r.category = loopbackCategory ∧ a ∈ Kind.address.units r := by
    intro a ha
    have hpopulated := (haddresses.drawn (a, true) (List.mem_map.2 ⟨a, ha, rfl⟩) rfl).1
    rw [Pools.sameAddresses_allocateAll hswitches loopbackCategory] at hpopulated
    exact ((hloaded .address).populated loopbackCategory a).1 hpopulated
  refine ((SwitchSpec.loopbacks_perm hfilled).pairwise_iff fun hne hshares => hne hshares.symm).2 ?_
  have hip : ((f.switches.zip ss').flatMap fun x => InterfaceSpec.filled x.1.interfaces x.2.interfaces).map (·.ip) =
      drawn.map (·.text ++ "/32") := by
    rw [← hips, List.map_flatMap]
    simp only [InterfaceSpec.map_ip_filled]
  refine List.pairwise_append.2 ⟨hgiven, InterfaceSpec.pairwise_drawn hip hnodup, fun i hi j hj hshares => ?_⟩
  -- A given address is in no range that addresses are drawn from.
  obtain ⟨a, ha, hj⟩ := InterfaceSpec.mem_drawn hip hj
  obtain ⟨r, hr, hcategory, hunit⟩ := hdrawn a ha
  exact houtside i (List.mem_filter.1 hi).1 a ((InterfaceSpec.sharesAddress_drawn hj).1 hshares) r hr hcategory hunit

/-- The first address of the range is given to the loopback of one leaf, and drawn for that of the next. -/
theorem FabricFile.givenLoopback_drawn :
    let f : FabricFile := {
      settings := { name := "dc" }
      pools := { addresses := [⟨"Loopback", "10.0.0.0/30", false⟩] }
      switches := [
        { host := "192.0.2.1", role := .leaf, bgp := { localAsn := 64512 }
          interfaces := [{ name := "1", kind := .loopback, ip := "10.0.0.0/32" }] },
        { host := "192.0.2.2", role := .leaf, bgp := { localAsn := 64513 }
          interfaces := [{ name := "1", kind := .loopback }] }] }
    f.validate = .ok ⟨⟩ ∧
      (((f.switches.flatMap SwitchSpec.loopbacks).filter (!·.ip.isEmpty)).map (·.addressText)).Nodup ∧
      ∃ request p', f.allocate.run.run {} = (.ok request, p') ∧
        (request.switches.flatMap SwitchSpec.loopbacks).map (·.addressText) = ["10.0.0.0", "10.0.0.0"] := by
  intro f
  refine ⟨by cbv, by decide, ?_⟩
  have haddresses : ((f.allocate.run.run {}).1.map fun request =>
      (request.switches.flatMap SwitchSpec.loopbacks).map (·.addressText)) = .ok ["10.0.0.0", "10.0.0.0"] := by cbv
  rcases hrun : f.allocate.run.run {} with ⟨e | request, p'⟩ <;> rw [hrun] at haddresses
  · cases haddresses
  · exact ⟨request, p', rfl, Except.ok.inj haddresses⟩

/-- Two leaves draw from a range, and a third has an address from outside it. -/
theorem FabricFile.threeLoopbacks_apart :
    let f : FabricFile := {
      settings := { name := "dc" }
      pools := { addresses := [⟨"Loopback", "10.0.0.0/30", false⟩] }
      switches := [
        { host := "192.0.2.1", role := .leaf, bgp := { localAsn := 64512 }
          interfaces := [{ name := "1", kind := .loopback }] },
        { host := "192.0.2.2", role := .leaf, bgp := { localAsn := 64513 }
          interfaces := [{ name := "1", kind := .loopback, ip := "10.0.0.4/32" }] },
        { host := "192.0.2.3", role := .leaf, bgp := { localAsn := 64514 }
          interfaces := [{ name := "1", kind := .loopback }] }] }
    f.validate = .ok ⟨⟩ ∧
      ∃ request p', f.allocate.run.run {} = (.ok request, p') ∧
        (request.switches.flatMap SwitchSpec.loopbacks).length = 3 ∧
        (request.switches.flatMap SwitchSpec.loopbacks).Pairwise fun i j => ¬ i.SharesAddress j := by
  intro f
  have hvalid : f.validate = .ok ⟨⟩ := by cbv
  have hgiven : ((f.switches.flatMap SwitchSpec.loopbacks).filter (!·.ip.isEmpty)).Pairwise fun i j =>
      ¬ i.SharesAddress j := List.pairwise_singleton _ _
  have houtside : ∀ i ∈ f.switches.flatMap SwitchSpec.loopbacks, ∀ a, i.address? = some a →
      ∀ r ∈ f.pools.addresses, r.category = loopbackCategory → a ∉ Kind.address.units r := by
    have haddresses : (f.switches.flatMap SwitchSpec.loopbacks).filterMap (·.address?) = [.ofNat 0x0a000004] := by cbv
    have hunits : f.pools.addresses.flatMap Kind.address.units =
        [.ofNat 0x0a000000, .ofNat 0x0a000001, .ofNat 0x0a000002, .ofNat 0x0a000003] := by cbv
    intro i hi a ha r hr _ hunit
    have hgiven := haddresses ▸ List.mem_filterMap.2 ⟨i, hi, ha⟩
    have hrange := hunits ▸ List.mem_flatMap.2 ⟨r, hr, hunit⟩
    rw [List.mem_singleton.1 hgiven] at hrange
    revert hrange
    decide
  have hlength : ((f.allocate.run.run {}).1.map fun request =>
      (request.switches.flatMap SwitchSpec.loopbacks).length) = .ok 3 := by cbv
  refine ⟨hvalid, ?_⟩
  rcases hrun : f.allocate.run.run {} with ⟨e | request, p'⟩ <;> rw [hrun] at hlength
  · cases hlength
  · exact ⟨request, p', rfl, Except.ok.inj hlength, allocate_apart f hvalid hrun hgiven houtside⟩

end FabricProvision
