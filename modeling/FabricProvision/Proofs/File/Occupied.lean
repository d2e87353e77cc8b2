import FabricProvision.Proofs.File.Allocated

/-!
# Owners of what is allocated

Switches are numbered by their position, so to empty pools each of them is a new device, and its number is drawn or
reserved unless none is left.  A loopback owns its address as interface of the number that it is named by, or of its
position if its name is no number (`InterfaceSpec.number`), and is refused if an earlier one of its switch has that
number.  So allocation gets in its own way exactly where a switch lists two loopbacks without an address that have one
number (`FabricFile.allocate_unoccupied`).  Different names do not rule that out: the loopback `1` at position 0 and the
loopback `lo` at position 1 are both number 1 (`FabricFile.namedAndPlaced_occupied`).

What a step changes are records of its device, whether it succeeds or not (`Pools.Within`), so that the devices that
follow stay new (`Pools.NewFrom`).
-/

namespace FabricProvision

open Step

/-! ### Records of owners -/

namespace Pool

variable {k : Kind}

/-- In the categories of the fabric nothing changes in what owners hold, apart from one owner. -/
def Spares (fabric : FabricId) (name : k.Owner) (p p' : Pool k) : Prop :=
  ∀ (c : String) (other : k.Owner), other ≠ name → (p'.stock fabric c).used[other]? = (p.stock fabric c).used[other]?

variable (p : Pool k) (fabric : FabricId) (category : String)

private theorem spares_onStock {α : Type} {step : StockM k α} {name : k.Owner}
    (h : ∀ (s : Stock k) (other : k.Owner), other ≠ name → (step.run.run s).2.used[other]? = s.used[other]?) :
    p.Spares fabric name ((onStock fabric category step).run.run p).2 := by
  intro c other hother
  rw [stock_onStock]
  split
  · exact h _ other hother
  · rfl

/-- A range changes nothing in what owners hold. -/
theorem spares_populate (name : k.Owner) (range : String) (allowSmall : Bool) :
    p.Spares fabric name ((populate fabric category range allowSmall).run.run p).2 :=
  p.spares_onStock fabric category fun s _ _ => by rw [Stock.used_populate]

theorem spares_draw (owner : k.Owner) :
    p.Spares fabric (k.canonical owner).1 ((draw fabric category owner).run.run p).2 := by
  refine p.spares_onStock fabric category fun s other hother => ?_
  rcases Stock.draw_cases s owner with ⟨held, -, h⟩ | ⟨-, -, h⟩ | ⟨u, -, -, h⟩ <;> rw [h]
  exact Stock.used_give_of_ne _ _ hother.symm

/-- A draw gives a unit to an owner that held nothing, or tells that none is left, or that the owner holds one. -/
theorem draw_cases (owner : k.Owner) :
    let draw := (draw fabric category owner).run.run p
    let held := (p.stock fabric category).used[(k.canonical owner).1]?
    (∃ u, draw.1 = .ok u ∧ held = none ∧
        (draw.2.stock fabric category).used[(k.canonical owner).1]? = some (k.orient (k.canonical owner).2 u)) ∨
      draw.1 = .error ⟨k, fabric, category, .exhausted⟩ ∨
      draw.1 = .error ⟨k, fabric, category, .occupied owner⟩ ∧ held ≠ none := by
  intro draw held
  have hanswer : draw.1 = ((Stock.draw owner).run.run (p.stock fabric category)).1.mapError (⟨k, fabric, category, ·⟩) :=
    congrArg Prod.fst (run_onStock fabric category (Stock.draw owner) p)
  have hstock : draw.2.stock fabric category = ((Stock.draw owner).run.run (p.stock fabric category)).2 :=
    (stock_onStock (Stock.draw owner) p fabric fabric category category).trans (if_pos ⟨rfl, rfl⟩)
  rw [hanswer, hstock]
  rcases Stock.draw_cases (p.stock fabric category) owner with ⟨u, hheld, h⟩ | ⟨-, -, h⟩ | ⟨u, hfree, -, h⟩ <;> rw [h]
  · refine .inr (.inr ⟨rfl, fun hnone => ?_⟩)
    cases hheld.symm.trans hnone
  · exact .inr (.inl rfl)
  · exact .inl ⟨u, rfl, hfree, Stock.used_give_self _ _ _⟩

/-- An owner that holds nothing may reserve any number and any address. -/
theorem reserve_free {owner : k.Owner} (unit : k.Unit) (hunit : k.pooledReservation? owner unit = none)
    (hfree : (p.stock fabric category).used[(k.canonical owner).1]? = none) :
    ((reserve fabric category owner unit).run.run p).1 = .ok ⟨⟩ := by
  rw [reserve, run_onStock, Stock.reserve_free hfree (.inl hunit)]
  rfl

theorem spares_reserve (owner : k.Owner) (unit : k.Unit) :
    p.Spares fabric (k.canonical owner).1 ((reserve fabric category owner unit).run.run p).2 :=
  p.spares_onStock fabric category fun _ _ hother => Stock.used_reserve fun _ => hother.symm

end Pool

namespace Pools

variable {fabric : FabricId} {device : UInt32} {p p' p'' : Pools}

/-- The number that a device holds in a category. -/
def numberOf (p : Pools) (fabric : FabricId) (category : String) (device : UInt32) : Option UInt32 :=
  (p.numbers.stock fabric category).used[device]?

/-- The address that an interface holds as a loopback. -/
def loopbackOf (p : Pools) (fabric : FabricId) (owner : InterfaceRef) : Option Ipv4 :=
  (p.addresses.stock fabric loopbackCategory).used[owner]?

/-- Only what a device and its interfaces hold has changed. -/
structure Within (fabric : FabricId) (device : UInt32) (p p' : Pools) : Prop where
  numbers : ∀ c other, other ≠ device → p'.numberOf fabric c other = p.numberOf fabric c other
  loopbacks : ∀ owner : InterfaceRef, owner.device ≠ device → p'.loopbackOf fabric owner = p.loopbackOf fabric owner

instance : Std.Refl (Within fabric device) := ⟨fun _ => ⟨fun _ _ _ => rfl, fun _ _ => rfl⟩⟩

instance : Trans (Within fabric device) (Within fabric device) (Within fabric device) :=
  ⟨fun h h' => ⟨fun c other hother => (h'.numbers c other hother).trans (h.numbers c other hother),
    fun owner howner => (h'.loopbacks owner howner).trans (h.loopbacks owner howner)⟩⟩

theorem within_number {q : Pool .number} (h : p.numbers.Spares fabric device q) :
    Within fabric device p (p.setPool .number q) :=
  ⟨fun c other hother => h c other hother, fun _ _ => rfl⟩

theorem within_address (owner : InterfaceRef) {q : Pool .address} (h : p.addresses.Spares (k := .address) fabric owner q) :
    Within fabric owner.device p (p.setPool .address q) := by
  refine ⟨fun _ _ _ => rfl, fun other hother => h loopbackCategory other ?_⟩
  rintro rfl
  exact hother rfl

private theorem respects_within_populate (fabric : FabricId) (device : UInt32) (settings : PoolSettings) :
    Respects (Within fabric device) (populate fabric settings) := by
  refine respects_populate (fun k c range allowSmall => respects_onPool fun p => ?_) settings
  cases k with
  | number => exact within_number (p.numbers.spares_populate fabric c device range allowSmall)
  | address => exact within_address ⟨device, 0⟩ (p.addresses.spares_populate fabric c _ range allowSmall)
  | link => exact ⟨fun _ _ _ => rfl, fun _ _ => rfl⟩

private theorem respects_within_allocate (fabric : FabricId) (name : String) (device : UInt32) (s : SwitchSpec) :
    Respects (Within fabric device) (s.allocate fabric name device) := by
  refine SwitchSpec.respects_allocate (fun c => ?_) (fun c n => ?_) (fun n => ?_) name s
  · exact respects_onPool fun p => within_number (p.numbers.spares_draw fabric c device)
  · exact respects_onPool fun p => within_number (p.numbers.spares_reserve fabric c device n)
  · exact respects_onPool fun p => within_address ⟨device, n⟩ (p.addresses.spares_draw fabric loopbackCategory _)

/-- From the device of this number on, devices and their interfaces hold nothing. -/
structure NewFrom (fabric : FabricId) (first : Nat) (p : Pools) : Prop where
  numbers : ∀ c (device : UInt32), first ≤ device.toNat → p.numberOf fabric c device = none
  loopbacks : ∀ owner : InterfaceRef, first ≤ owner.device.toNat → p.loopbackOf fabric owner = none

theorem newFrom_empty : NewFrom fabric 0 {} := by
  constructor <;> intros <;> simp [numberOf, loopbackOf, Pool.stock]

theorem NewFrom.next {first : Nat} (h : NewFrom fabric first p) (hfirst : first < UInt32.size)
    (hwithin : Within fabric (UInt32.ofNat first) p p') : NewFrom fabric (first + 1) p' := by
  have hlater (other : UInt32) (hother : first + 1 ≤ other.toNat) : other ≠ UInt32.ofNat first := by
    rintro rfl
    rw [UInt32.toNat_ofNat_of_lt' hfirst] at hother
    omega
  refine ⟨fun c other hother => ?_, fun owner howner => ?_⟩
  · rw [hwithin.numbers c other (hlater other hother)]
    exact h.numbers c other (by omega)
  · rw [hwithin.loopbacks owner (hlater _ howner)]
    exact h.loopbacks owner (by omega)

end Pools

/-! ### How allocation ends -/

/-- Steps of allocation end well, or nothing is left of what is drawn, or a loopback is refused since an interface of its
number holds an address; whether `distinct` holds tells the first end from the last. -/
inductive Ending (fabric : FabricId) (distinct : Prop) {α : Type} : Except PoolError α → Prop
  | done (a : α) (h : distinct) : Ending fabric distinct (.ok a)
  | exhausted (k : Kind) (category : String) : Ending fabric distinct (.error ⟨k, fabric, category, .exhausted⟩)
  | occupied (owner : InterfaceRef) (h : ¬ distinct) :
      Ending fabric distinct (.error ⟨.address, fabric, loopbackCategory, .occupied owner⟩)

namespace Ending

variable {α β : Type} {fabric : FabricId} {first later distinct : Prop} {p : Pools}

theorem of_iff {answer : Except PoolError α} (h : Ending fabric first answer) (hiff : first ↔ distinct) :
    Ending fabric distinct answer := by
  rwa [← propext hiff]

theorem of_ok {a : α} (h : Ending fabric distinct (.ok a)) : distinct := by
  cases h with
  | done _ h => exact h

theorem of_error {e : PoolError} (h : Ending fabric distinct (.error e : Except PoolError α)) (hdistinct : distinct) :
    e.cause = .exhausted := by
  cases h with
  | exhausted k category => rfl
  | occupied owner h => exact absurd hdistinct h

theorem bind {x : PoolsM α} {f : α → PoolsM β} (hx : Ending fabric first (x.run.run p).1)
    (hf : ∀ a p', x.run.run p = (.ok a, p') → Ending fabric later ((f a).run.run p').1) :
    Ending fabric (first ∧ later) ((x >>= f).run.run p).1 := by
  rw [run_bind]
  rcases hrun : x.run.run p with ⟨answer, p'⟩
  rw [hrun] at hx
  cases hx with
  | done a hfirst => exact (hf a p' hrun).of_iff (and_iff_right hfirst).symm
  | exhausted k category => exact .exhausted k category
  | occupied owner hfirst => exact .occupied owner fun h => hfirst h.1

/-- What is made of the answer does not matter. -/
theorem bind_pure {x : PoolsM α} (hx : Ending fabric distinct (x.run.run p).1) (g : α → β) :
    Ending fabric distinct ((x >>= fun a => pure (g a)).run.run p).1 :=
  (hx.bind fun a _ _ => .done (g a) trivial).of_iff (and_iff_left trivial)

end Ending

/-! ### Interfaces -/

namespace InterfaceSpec

variable (fabric : FabricId) {device : UInt32} {p : Pools}

/-- The numbers of the loopbacks that wait for an address; `position` is that of the first interface. -/
def waiting (position : Nat) : List InterfaceSpec → List UInt32
  | [] => []
  | i :: rest =>
    if i.needsAddress then i.number position :: waiting (position + 1) rest else waiting (position + 1) rest

/-- A loopback draws an address unless an interface of its number holds one. -/
private theorem draw_ending (owner : InterfaceRef) (p : Pools) :
    let draw := (Pools.onPool .address (Pool.draw (k := .address) fabric loopbackCategory owner)).run.run p
    Ending fabric (p.loopbackOf fabric owner = none) draw.1 ∧
      ∀ a p', draw = (.ok a, p') → p'.loopbackOf fabric owner = some a ∧
        ∀ other ≠ owner, p'.loopbackOf fabric other = p.loopbackOf fabric other := by
  intro draw
  have hspares := p.addresses.spares_draw (k := .address) fabric loopbackCategory owner
  have hcases := p.addresses.draw_cases (k := .address) fabric loopbackCategory owner
  rcases hq : (Pool.draw (k := .address) fabric loopbackCategory owner).run.run p.addresses with ⟨answer, q⟩
  have hdraw : draw = (answer, p.setPool .address q) :=
    (Pools.run_onPool .address _ p).trans (congrArg (fun run => (run.1, p.setPool .address run.2)) hq)
  simp only [hq] at hspares hcases
  rw [hdraw]
  rcases hcases with ⟨u, rfl, hfree, hheld⟩ | rfl | ⟨rfl, hheld⟩
  · refine ⟨.done u hfree, ?_⟩
    rintro _ _ ⟨⟩
    exact ⟨hheld, fun other hother => hspares loopbackCategory other hother⟩
  · exact ⟨.exhausted .address loopbackCategory, nofun⟩
  · exact ⟨.occupied owner hheld, nofun⟩

/-- Once a number is taken and the others are as they were, they are free exactly if they were and the number is none
of them. -/
private theorem free_after {n : UInt32} {later : List UInt32} {a : Ipv4} {p' : Pools}
    (htaken : p'.loopbackOf fabric ⟨device, n⟩ = some a)
    (hothers : ∀ other ≠ ⟨device, n⟩, p'.loopbackOf fabric other = p.loopbackOf fabric other) :
    (later.Nodup ∧ ∀ m ∈ later, p'.loopbackOf fabric ⟨device, m⟩ = none) ↔
      n ∉ later ∧ later.Nodup ∧ ∀ m ∈ later, p.loopbackOf fabric ⟨device, m⟩ = none := by
  have hother (m : UInt32) (hm : m ≠ n) : p'.loopbackOf fabric ⟨device, m⟩ = p.loopbackOf fabric ⟨device, m⟩ :=
    hothers _ fun hsame => hm (congrArg InterfaceRef.interface hsame)
  constructor
  · rintro ⟨hnodup, hfree⟩
    have hn : n ∉ later := fun hmem => by cases htaken.symm.trans (hfree n hmem)
    exact ⟨hn, hnodup, fun m hm => (hother m (ne_of_mem_of_not_mem hm hn)).symm.trans (hfree m hm)⟩
  · rintro ⟨hn, hnodup, hfree⟩
    exact ⟨hnodup, fun m hm => (hother m (ne_of_mem_of_not_mem hm hn)).trans (hfree m hm)⟩

/-- Loopbacks draw their addresses, one after the other, as long as their numbers differ and none is taken. -/
private theorem allocateAll_ending (device : UInt32) (position : Nat) (is : List InterfaceSpec) (p : Pools) :
    Ending fabric ((waiting position is).Nodup ∧ ∀ n ∈ waiting position is, p.loopbackOf fabric ⟨device, n⟩ = none)
      ((allocateAll fabric device position is).run.run p).1 := by
  induction is generalizing p position with
  | nil => exact .done [] ⟨.nil, nofun⟩
  | cons i rest ih =>
    unfold allocateAll waiting allocate
    by_cases hneeds : i.needsAddress
    · simp only [if_pos hneeds, bind_assoc, pure_bind]
      obtain ⟨hdraw, hafter⟩ := draw_ending fabric ⟨device, i.number position⟩ p
      have hboth := hdraw.bind fun a p' hrun =>
        ((ih (position + 1) p').bind_pure ({ i with ip := a.text ++ "/32" } :: ·)).of_iff
          (free_after fabric (hafter a p' hrun).1 (hafter a p' hrun).2)
      refine hboth.of_iff ?_
      simp only [List.nodup_cons, List.forall_mem_cons]
      tauto
    · simp only [if_neg hneeds]
      exact (ih (position + 1) p).bind_pure (i :: ·)

end InterfaceSpec

/-! ### Switches -/

namespace SwitchSpec

open InterfaceSpec (waiting)

variable {fabric : FabricId} {p : Pools}

/-- The number of a device that holds none is drawn unless none is left, and can be reserved in any case. -/
private theorem allocateNumber_ending {device : UInt32} (hfree : ∀ c, p.numberOf fabric c device = none) (s : SwitchSpec) :
    Ending fabric True ((s.allocateNumber fabric device).run.run p).1 := by
  unfold allocateNumber
  by_cases hzero : s.bgp.localAsn = 0
  · rw [if_pos hzero, Pools.run_onPool]
    show Ending fabric True ((Pool.draw (k := .number) fabric s.role.name device).run.run p.numbers).1
    rcases p.numbers.draw_cases (k := .number) fabric s.role.name device with ⟨n, h, -⟩ | h | ⟨-, hheld⟩
    · rw [h]
      exact .done n trivial
    · rw [h]
      exact .exhausted .number s.role.name
    · exact absurd (hfree s.role.name) hheld
  · rw [if_neg hzero]
    have hreserve := p.numbers.reserve_free (k := .number) fabric s.role.name s.bgp.localAsn rfl (hfree s.role.name)
    have hdone : Ending fabric True ((Pools.onPool .number
        (Pool.reserve (k := .number) fabric s.role.name device s.bgp.localAsn)).run.run p).1 := by
      rw [Pools.run_onPool]
      show Ending fabric True ((Pool.reserve (k := .number) fabric s.role.name device s.bgp.localAsn).run.run p.numbers).1
      rw [hreserve]
      exact .done _ trivial
    exact hdone.bind_pure fun _ => s.bgp.localAsn

private theorem addresses_allocateNumber {device n : UInt32} {s : SwitchSpec} {p' : Pools}
    (h : (s.allocateNumber fabric device).run.run p = (.ok n, p')) : p'.addresses = p.addresses := by
  unfold allocateNumber at h
  split at h
  · obtain ⟨q, -, rfl⟩ := Pools.onPool_eq_ok.1 h
    rfl
  · obtain ⟨_, p₁, hreserve, hpure⟩ := run_bind_eq_ok.1 h
    cases hpure
    obtain ⟨q, -, rfl⟩ := Pools.onPool_eq_ok.1 hreserve
    rfl

private theorem allocate_ending (name : String) {device : UInt32} (hnumber : ∀ c, p.numberOf fabric c device = none)
    (hloopback : ∀ n, p.loopbackOf fabric ⟨device, n⟩ = none) (s : SwitchSpec) :
    Ending fabric (waiting 0 s.interfaces).Nodup ((s.allocate fabric name device).run.run p).1 := by
  have hfree (n : UInt32) (p' : Pools) (hrun : (s.allocateNumber fabric device).run.run p = (.ok n, p')) (m : UInt32) :
      p'.loopbackOf fabric ⟨device, m⟩ = none := by
    rw [Pools.loopbackOf, addresses_allocateNumber hrun]
    exact hloopback m
  have hboth := (allocateNumber_ending hnumber s).bind fun n p' hrun =>
    ((InterfaceSpec.allocateAll_ending fabric device 0 s.interfaces p').of_iff
      (and_iff_left fun m _ => hfree n p' hrun m)).bind_pure (s.fill name n)
  exact hboth.of_iff (and_iff_right trivial)

/-- Switches get their numbers and addresses, one after the other, as long as the loopbacks of each have different
numbers: each is a new device. -/
private theorem allocateAll_ending (name : String) {first : Nat} {ss : List SwitchSpec} (hp : p.NewFrom fabric first)
    (hsize : first + ss.length ≤ UInt32.size) :
    Ending fabric (∀ s ∈ ss, (waiting 0 s.interfaces).Nodup) ((allocateAll fabric name first ss).run.run p).1 := by
  induction ss generalizing p first with
  | nil => exact .done [] fun s hs => absurd hs List.not_mem_nil
  | cons s rest ih =>
    rw [List.length_cons] at hsize
    have hfirst : first < UInt32.size := by omega
    have hdevice : first ≤ (UInt32.ofNat first).toNat := by rw [UInt32.toNat_ofNat_of_lt' hfirst]
    have hswitch := allocate_ending name (fun c => hp.numbers c _ hdevice)
      (fun n => hp.loopbacks ⟨_, n⟩ hdevice) s
    have hall := hswitch.bind fun s' p' hrun => by
      have hwithin := Pools.respects_within_allocate fabric name (UInt32.ofNat first) s p
      rw [hrun] at hwithin
      exact (ih (hp.next hfirst hwithin) (by omega)).bind_pure (s' :: ·)
    refine hall.of_iff ?_
    rw [List.forall_mem_cons]

end SwitchSpec

/-! ### The file -/

/-- Allocation gets in its own way only where a switch lists two loopbacks of one number.  Let a file list less than
2^32 switches, and let the loopbacks without an address of each switch have different numbers, as interfaces that are
named by a number or else by their position.  If it is allocated on empty pools and that fails, a range could not be
loaded or nothing is left of what is drawn; no owner is ever refused.  Conversely, where allocation succeeds these
numbers do differ. -/
theorem FabricFile.allocate_unoccupied (f : FabricFile) (hsize : f.switches.length < UInt32.size) :
    let loaded := ((Pools.populate f.settings.id f.pools).run.run {}).1
    let answer := (f.allocate.run.run {}).1
    let distinct := ∀ s ∈ f.switches, (InterfaceSpec.waiting 0 s.interfaces).Nodup
    (distinct → ∀ e, answer = .error e → loaded = .error e ∨ e.cause = .exhausted) ∧
      ∀ request, answer = .ok request → distinct := by
  intro loaded answer distinct
  -- Ranges change nothing in what owners hold, so all devices but the first, which no switch is, are new in any case.
  have hwithin := Pools.respects_within_populate f.settings.id 0 f.pools {}
  have hanswer : answer = (f.allocate.run.run {}).1 := rfl
  unfold allocate at hanswer
  rw [run_bind] at hanswer
  rcases hload : (Pools.populate f.settings.id f.pools).run.run {} with ⟨e | _, p⟩ <;> rw [hload] at hanswer hwithin
  · have hloaded : loaded = .error e := congrArg Prod.fst hload
    refine ⟨fun _ e' he' => .inl ?_, fun request hrequest => ?_⟩
    · cases he'.symm.trans hanswer
      exact hloaded
    · cases hanswer.symm.trans hrequest
  · have hnew : p.NewFrom f.settings.id 1 := Pools.newFrom_empty.next (by decide) hwithin
    have hending : Ending f.settings.id distinct answer := by
      rw [hanswer]
      exact (SwitchSpec.allocateAll_ending f.settings.name hnew (by omega)).bind_pure _
    refine ⟨fun hdistinct e he => .inr ?_, fun request hrequest => ?_⟩
    · exact (he ▸ hending).of_error hdistinct
    · exact (hrequest ▸ hending).of_ok

/-- Two loopbacks of one switch have different names and one number, which the first has as its name and the other as its
position.  The file is accepted, and allocation refuses the second one. -/
theorem FabricFile.namedAndPlaced_occupied :
    let f : FabricFile := {
      settings := { name := "dc" }
      pools := { addresses := [⟨"Loopback", "10.0.0.0/30", false⟩] }
      switches := [{
        host := "192.0.2.1", role := .leaf, bgp := { localAsn := 64512 }
        interfaces := [{ name := "1", kind := .loopback }, { name := "lo", kind := .loopback }] }] }
    f.validate = .ok ⟨⟩ ∧ (∀ s ∈ f.switches, (s.interfaces.map (·.name)).Nodup) ∧
      (f.allocate.run.run {}).1 = .error ⟨.address, 1, "Loopback", .occupied ⟨1, 1⟩⟩ := by
  intro f
  refine ⟨by cbv, ?_, by cbv⟩
  decide

/-- Three loopbacks of two switches share a range of two addresses: the last is told that none is left, and none is told
that it has an address. -/
theorem FabricFile.threeLoopbacks_exhausted :
    let f : FabricFile := {
      settings := { name := "dc" }
      pools := { addresses := [⟨"Loopback", "10.0.0.0/31", true⟩] }
      switches := [
        { host := "192.0.2.1", role := .leaf, bgp := { localAsn := 64512 }
          interfaces := [{ name := "lo", kind := .loopback }, { name := "2", kind := .loopback }] },
        { host := "192.0.2.2", role := .leaf, bgp := { localAsn := 64512 }
          interfaces := [{ name := "lo", kind := .loopback }] }] }
    f.switches.length < UInt32.size ∧ (∀ s ∈ f.switches, (InterfaceSpec.waiting 0 s.interfaces).Nodup) ∧
      ∃ e, (f.allocate.run.run {}).1 = .error e ∧ e.cause = .exhausted := by
  intro f
  have hsize : f.switches.length < UInt32.size := by decide
  have hdistinct : ∀ s ∈ f.switches, (InterfaceSpec.waiting 0 s.interfaces).Nodup := by decide
  have hloaded : ((Pools.populate f.settings.id f.pools).run.run {}).1 = .ok ⟨⟩ := by cbv
  have hfails : (Step.error? (f.allocate.run.run {}).1).isSome := by cbv
  refine ⟨hsize, hdistinct, ?_⟩
  rcases hrun : (f.allocate.run.run {}).1 with e | request
  · refine ⟨e, rfl, ?_⟩
    rcases (allocate_unoccupied f hsize).1 hdistinct e hrun with hload | hexhausted
    · cases hloaded.symm.trans hload
    · exact hexhausted
  · rw [hrun] at hfails
    cases hfails

end FabricProvision
