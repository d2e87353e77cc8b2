import FabricProvision.Proofs.File.Allocated

/-!
# Allocation of what was allocated

A request lists switches and clusters as a file does.  A file that takes them from its request, and keeps its ranges,
leads to the same request again (`FabricFile.allocate_again`).  The two runs differ: a number that was drawn is reserved
the second time, and no loopback is left that waits for an address.  But where an owner drew a unit it could have
reserved it (`Stock.reserve_of_draw`), so the numbers go through the same states in both runs, switch by switch
(`SwitchSpec.allocate_repeats`).  Zero, which is a number to draw and stands for one that is unset, is drawn both times.
-/

namespace FabricProvision

open Step

theorem Pool.reserve_of_draw {k : Kind} {p p' : Pool k} {fabric : FabricId} {category : String} {owner : k.Owner}
    {unit : k.Unit} (h : (draw fabric category owner).run.run p = (.ok unit, p')) (hpooled : k.pooled unit = unit) :
    (reserve fabric category owner unit).run.run p = (.ok ⟨⟩, p') := by
  rw [draw, run_onStock] at h
  obtain ⟨hanswer, rfl⟩ := Prod.mk.inj h
  have hdraw : (Stock.draw owner).run.run (p.stock fabric category) = (.ok unit, _) :=
    Prod.ext (mapError_eq_ok.1 hanswer) rfl
  rw [reserve, run_onStock, Stock.reserve_of_draw hdraw hpooled]
  rfl

/-- A step on one pool does the same wherever that pool is the same. -/
theorem Pools.onPool_of_pool_eq {α : Type} {k : Kind} {step : PoolM k α} {p p' q : Pools} {a : α}
    (h : (onPool k step).run.run p = (.ok a, p')) (hq : q.pool k = p.pool k) :
    (onPool k step).run.run q = (.ok a, q.setPool k (p'.pool k)) := by
  obtain ⟨r, hr, rfl⟩ := onPool_eq_ok.1 h
  rw [pool_setPool]
  exact onPool_eq_ok.2 ⟨r, hq ▸ hr, rfl⟩

/-- The numbers are the same. -/
def Pools.SameNumbers (p p' : Pools) : Prop := p'.numbers = p.numbers

instance : Std.Refl Pools.SameNumbers := ⟨fun _ => rfl⟩

instance : Trans Pools.SameNumbers Pools.SameNumbers Pools.SameNumbers := ⟨fun h h' => h'.trans h⟩

theorem orName_orName (name text : String) : orName name (orName name text) = orName name text := by
  unfold orName
  by_cases htext : text.isEmpty
  · rw [if_pos htext, ite_self]
  · rw [if_neg htext, if_neg htext]

/-! ### Interfaces -/

namespace InterfaceSpec

variable {fabric : FabricId} {device : UInt32} {position : Nat} {p p' : Pools}

/-- No interface waits for an address once the interfaces of a switch were gone through. -/
private theorem given_of_allocateAll {is is' : List InterfaceSpec}
    (h : (allocateAll fabric device position is).run.run p = (.ok is', p')) : ∀ i ∈ is', i.needsAddress = false := by
  intro i' hi'
  obtain ⟨i, -, position, q, q', hallocate⟩ := exists_allocate_of_mem h hi'
  rcases allocate_eq_ok.1 hallocate with ⟨-, a, -, rfl⟩ | ⟨hgiven, rfl, -⟩
  · have hip : (a.text ++ "/32").isEmpty = false := by simp
    rw [needsAddress, hip, Bool.and_false]
  · exact hgiven

/-- Addresses are not drawn from numbers. -/
private theorem numbers_allocateAll {is is' : List InterfaceSpec}
    (h : (allocateAll fabric device position is).run.run p = (.ok is', p')) : p'.numbers = p.numbers := by
  have hrespects : Respects Pools.SameNumbers (allocateAll fabric device position is) :=
    respects_allocateAll (fun _ => Pools.respects_onPool fun _ => rfl) position is
  have hsame := hrespects p
  rwa [h] at hsame

/-- Interfaces that do not wait for an address stay as they are. -/
private theorem allocateAll_of_given {is : List InterfaceSpec} (h : ∀ i ∈ is, i.needsAddress = false) (p : Pools) :
    (allocateAll fabric device position is).run.run p = (.ok is, p) := by
  induction is generalizing position with
  | nil => rfl
  | cons i rest ih =>
    obtain ⟨hi, hrest⟩ := List.forall_mem_cons.1 h
    have hfirst : (i.allocate fabric device position).run.run p = (.ok i, p) := allocate_eq_ok.2 (.inr ⟨hi, rfl, rfl⟩)
    unfold allocateAll
    exact run_bind_eq_ok.2 ⟨i, p, hfirst, run_bind_eq_ok.2 ⟨rest, p, ih hrest, rfl⟩⟩

end InterfaceSpec

/-! ### Switches -/

namespace SwitchSpec

variable {fabric : FabricId} {p p' q : Pools}

/-- A switch that was given a number takes that number again where the numbers are what they were. -/
private theorem allocateNumber_repeats {device : UInt32} {s s' : SwitchSpec} {n : UInt32}
    (h : (s.allocateNumber fabric device).run.run p = (.ok n, p')) (hq : q.numbers = p.numbers)
    (hrole : s'.role = s.role) (hn : s'.bgp.localAsn = n) :
    (s'.allocateNumber fabric device).run.run q = (.ok n, { q with numbers := p'.numbers }) := by
  unfold allocateNumber at h ⊢
  rw [hrole, hn]
  by_cases hzero : s.bgp.localAsn = 0
  · simp only [hzero, if_true] at h
    by_cases hn0 : n = 0
    · rw [if_pos hn0]
      exact Pools.onPool_of_pool_eq h hq
    · rw [if_neg hn0]
      obtain ⟨r, hdraw, rfl⟩ := Pools.onPool_eq_ok.1 h
      have hreserve : (Pools.onPool .number (Pool.reserve fabric s.role.name device n)).run.run p =
          (.ok ⟨⟩, p.setPool .number r) := Pools.onPool_eq_ok.2 ⟨r, Pool.reserve_of_draw hdraw rfl, rfl⟩
      exact run_bind_eq_ok.2 ⟨⟨⟩, _, Pools.onPool_of_pool_eq hreserve hq, rfl⟩
  · simp only [hzero, if_false] at h
    obtain ⟨_, r, hreserve, hpure⟩ := run_bind_eq_ok.1 h
    cases hpure
    rw [if_neg hzero]
    exact run_bind_eq_ok.2 ⟨⟨⟩, _, Pools.onPool_of_pool_eq hreserve hq, rfl⟩

/-- A switch that was filled in is left as it is where the numbers are what they were, and the numbers evolve in the
same way. -/
private theorem allocate_repeats {name : String} {device : UInt32} {s s' : SwitchSpec}
    (h : (s.allocate fabric name device).run.run p = (.ok s', p')) (hq : q.numbers = p.numbers) :
    (s'.allocate fabric name device).run.run q = (.ok s', { q with numbers := p'.numbers }) := by
  obtain ⟨n, is, p₁, hnumber, hinterfaces, rfl⟩ := allocate_eq_ok.1 h
  have hgiven := InterfaceSpec.given_of_allocateAll hinterfaces
  have hnumbers := InterfaceSpec.numbers_allocateAll hinterfaces
  have hfirst : ((s.fill name n is).allocateNumber fabric device).run.run q = (.ok n, { q with numbers := p₁.numbers }) :=
    allocateNumber_repeats hnumber hq rfl rfl
  rw [hnumbers]
  refine allocate_eq_ok.2 ⟨n, is, _, hfirst, InterfaceSpec.allocateAll_of_given hgiven _, ?_⟩
  simp only [fill, orName_orName]

private theorem allocateAll_repeats {name : String} {device : Nat} {ss ss' : List SwitchSpec}
    (h : (allocateAll fabric name device ss).run.run p = (.ok ss', p')) (hq : q.numbers = p.numbers) :
    (allocateAll fabric name device ss').run.run q = (.ok ss', { q with numbers := p'.numbers }) := by
  induction ss generalizing p q device ss' with
  | nil =>
    cases h
    rw [← hq]
    rfl
  | cons s rest ih =>
    unfold allocateAll at h
    obtain ⟨s', p₁, hfirst, h⟩ := run_bind_eq_ok.1 h
    obtain ⟨rest', p₂, hrest, hpure⟩ := run_bind_eq_ok.1 h
    cases hpure
    unfold allocateAll
    exact run_bind_eq_ok.2 ⟨s', _, allocate_repeats hfirst hq, run_bind_eq_ok.2 ⟨rest', _, ih hrest rfl, rfl⟩⟩

end SwitchSpec

/-! ### The file -/

/-- Allocation leaves what it returned.  Let the allocation of a file succeed on any pools.  Then the file that has the
switches and clusters of the request in place of its own is allocated on the same pools with success, and its request is
the same.  Numbers end up bound as they were after the first run, and no address is drawn: of the other pools only the
ranges are loaded. -/
theorem FabricFile.allocate_again (f : FabricFile) (p : Pools) {request : FabricRequest} {p' : Pools}
    (h : f.allocate.run.run p = (.ok request, p')) :
    let loaded := ((Pools.populate f.settings.id f.pools).run.run p).2
    let filled : FabricFile := { f with switches := request.switches, clusters := request.clusters }
    filled.allocate.run.run p = (.ok request, { loaded with numbers := p'.numbers }) := by
  intro loaded filled
  obtain ⟨p₁, ss', hpopulate, hswitches, rfl⟩ := allocate_eq_ok.1 h
  have hloaded : loaded = p₁ := congrArg Prod.snd hpopulate
  rw [hloaded]
  refine allocate_eq_ok.2 ⟨p₁, ss', hpopulate, SwitchSpec.allocateAll_repeats hswitches rfl, ?_⟩
  have hclusters (batches : ClusterBatches) (g : ClusterSpec → ClusterSpec) (hg : ∀ c, g (g c) = g c) :
      (batches.map g).map g = batches.map g := by
    simp only [ClusterBatches.map, List.map_map, Function.comp_def, hg]
  simp only [filled, request]
  rw [hclusters _ _ fun c => by simp only [orName_orName]]

/-- Zero is drawn in both runs, two leaves share a number, one has a number from outside the range, and the number of the
last one is drawn only in the first run, as is the address of the loopback. -/
theorem FabricFile.sharedNumbers_allocated_again :
    let f : FabricFile := {
      settings := { name := "dc" }
      pools := { numbers := [⟨"Leaf", "0-3", false⟩], addresses := [⟨"Loopback", "10.0.0.0/30", false⟩] }
      switches := [
        { host := "192.0.2.1", role := .leaf, interfaces := [{ name := "1", kind := .loopback }] },
        { host := "192.0.2.2", role := .leaf, bgp := { localAsn := 2 } },
        { host := "192.0.2.3", role := .leaf, bgp := { localAsn := 2 } },
        { host := "192.0.2.4", role := .leaf, bgp := { localAsn := 64512 } },
        { host := "192.0.2.5", role := .leaf }] }
    ∃ request p', f.allocate.run.run {} = (.ok request, p') ∧
      request.switches.map (·.bgp.localAsn) = [0, 2, 2, 64512, 1] ∧
      (({ f with switches := request.switches, clusters := request.clusters } : FabricFile).allocate.run.run {}).1 =
        .ok request := by
  intro f
  have hgiven : ((f.allocate.run.run {}).1.map fun request => request.switches.map (·.bgp.localAsn)) =
      .ok [0, 2, 2, 64512, 1] := by cbv
  rcases hrun : f.allocate.run.run {} with ⟨e | request, p'⟩
  · rw [hrun] at hgiven
    cases hgiven
  · rw [hrun] at hgiven
    exact ⟨request, p', rfl, Except.ok.inj hgiven, congrArg Prod.fst (allocate_again f {} hrun)⟩

end FabricProvision
