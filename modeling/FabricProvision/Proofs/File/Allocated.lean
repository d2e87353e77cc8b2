import Mathlib
import FabricProvision.File.Allocation
import FabricProvision.Proofs.Pool.Handed
import FabricProvision.Proofs.Pool.Loaded

/-!
# What allocation fills in

Allocation copies the file, and fills in only what is unset (`SwitchSpec.Filled`, `InterfaceSpec.Filled`).  It goes
through the switches and their interfaces and uses two pools by turns: numbers of the switch's role are drawn or
reserved, addresses are drawn for loopbacks.  What is given on the way is listed for each category (`Pools.Hands`),
and the lists of one switch, or interface, after the other add up.  So numbers that are drawn differ from those of all
earlier switches of the role, and addresses that are drawn differ from each other (`FabricFile.allocate_fills`).

What a run that succeeds went through is said once for a switch and once for the file (`SwitchSpec.allocate_eq_ok`,
`FabricFile.allocate_eq_ok`), and a relation that every draw and every reservation respects is respected by the whole
(`SwitchSpec.respects_allocateAll`).
-/

namespace FabricProvision

open Step

/-! ### Steps on the pools -/

/-- A step on a category gives what it gives on the stock of that category, and leaves the other categories. -/
theorem Pool.hands_onStock {k : Kind} {α : Type} {p p' : Pool k} {fabric : FabricId} {category : String}
    {step : StockM k α} {a : α} {gifts : List (k.Unit × Bool)} (hp : ∀ c, (p.stock fabric c).Conserved)
    (h : (onStock fabric category step).run.run p = (.ok a, p'))
    (hstep : ∀ s s', s.Conserved → step.run.run s = (.ok a, s') → Stock.Hands s s' gifts) (c : String) :
    Stock.Hands (p.stock fabric c) (p'.stock fabric c) (if category = c then gifts else []) := by
  have hstock := stock_onStock step p fabric fabric category c
  have hanswer := run_onStock fabric category step p
  rw [h] at hstock hanswer
  rw [hstock]
  by_cases hc : category = c
  · subst hc
    rw [if_pos ⟨rfl, rfl⟩, if_pos rfl]
    refine hstep _ _ (hp category) (Prod.ext ?_ rfl)
    exact mapError_eq_ok.1 (congrArg Prod.fst hanswer).symm
  · rw [if_neg fun hkey => hc hkey.2, if_neg hc]
    exact Stock.Hands.refl (hp c)

namespace Pools

theorem onPool_eq_ok {α : Type} {k : Kind} {step : PoolM k α} {p p' : Pools} {a : α} :
    (onPool k step).run.run p = (.ok a, p') ↔ ∃ q, step.run.run (p.pool k) = (.ok a, q) ∧ p' = p.setPool k q := by
  rw [run_onPool]
  rcases step.run.run (p.pool k) with ⟨answer, q⟩
  constructor
  · rintro h
    cases h
    exact ⟨q, rfl, rfl⟩
  · rintro ⟨q, ⟨⟩, rfl⟩
    rfl

section respects

variable {R : Pools → Pools → Prop}

theorem respects_onPool {α : Type} {k : Kind} {step : PoolM k α}
    (h : ∀ p : Pools, R p (p.setPool k (step.run.run (p.pool k)).2)) : Respects R (onPool k step) := by
  intro p
  rw [run_onPool]
  exact h p

/-- Loading ranges respects what loading each one does. -/
theorem respects_populate [Std.Refl R] [Trans R R R] {fabric : FabricId}
    (h : ∀ (k : Kind) (c range : String) (allowSmall : Bool),
      Respects R (onPool k (Pool.populate fabric c range allowSmall))) (settings : PoolSettings) :
    Respects R (populate fabric settings) := by
  have hkind (k : Kind) (ranges : List PoolRange) : Respects R (populateKind k fabric ranges) := by
    unfold populateKind
    induction ranges with
    | nil => exact respects_pure _
    | cons r rest ih =>
      have hrange := respects_bind (h k r.category r.range r.allowSmall) fun _ => respects_pure PUnit.unit
      exact respects_bind hrange fun _ => ih
  exact respects_bind (hkind .number _) fun _ => respects_bind (hkind .address _) fun _ => hkind .link _

end respects

/-- The stocks that allocation draws from are conserved. -/
structure Conserved (fabric : FabricId) (p : Pools) : Prop where
  numbers : ∀ c, (p.numbers.stock fabric c).Conserved
  addresses : ∀ c, (p.addresses.stock fabric c).Conserved

/-- From `p` to `p'` numbers of each category were given, each with whether it was drawn, and addresses were drawn for
loopbacks. -/
structure Hands (fabric : FabricId) (p p' : Pools) (numbers : String → List (UInt32 × Bool)) (addresses : List Ipv4) :
    Prop where
  numbers : ∀ c, Stock.Hands (k := .number) (p.numbers.stock fabric c) (p'.numbers.stock fabric c) (numbers c)
  addresses : ∀ c, Stock.Hands (k := .address) (p.addresses.stock fabric c) (p'.addresses.stock fabric c)
    (if loopbackCategory = c then addresses.map (·, true) else [])

variable {fabric : FabricId} {p p' p'' : Pools}

theorem Hands.conservation {numbers : String → List (UInt32 × Bool)} {addresses : List Ipv4}
    (h : Hands fabric p p' numbers addresses) : p'.Conserved fabric :=
  ⟨fun c => (h.numbers c).conservation, fun c => (h.addresses c).conservation⟩

/-- Addresses that were given, if any, do not count as numbers, nor the other way round. -/
theorem Hands.of_numbers {numbers : String → List (UInt32 × Bool)} (hp : p.Conserved fabric)
    (h : ∀ c, Stock.Hands (k := .number) (p.numbers.stock fabric c) (p'.numbers.stock fabric c) (numbers c))
    (hsame : p'.addresses = p.addresses) : Hands fabric p p' numbers [] := by
  refine ⟨h, fun c => ?_⟩
  rw [hsame, List.map_nil, ite_self]
  exact .refl (hp.addresses c)

theorem Hands.of_addresses {addresses : List Ipv4} (hp : p.Conserved fabric)
    (h : ∀ c, Stock.Hands (k := .address) (p.addresses.stock fabric c) (p'.addresses.stock fabric c)
      (if loopbackCategory = c then addresses.map (·, true) else []))
    (hsame : p'.numbers = p.numbers) : Hands fabric p p' (fun _ => []) addresses := by
  refine ⟨fun c => ?_, h⟩
  rw [hsame]
  exact .refl (hp.numbers c)

theorem Hands.refl (hp : p.Conserved fabric) : Hands fabric p p (fun _ => []) [] :=
  .of_numbers hp (fun c => .refl (hp.numbers c)) rfl

theorem Hands.append {numbers numbers' : String → List (UInt32 × Bool)} {addresses addresses' : List Ipv4}
    (h : Hands fabric p p' numbers addresses) (h' : Hands fabric p' p'' numbers' addresses') :
    Hands fabric p p'' (fun c => numbers c ++ numbers' c) (addresses ++ addresses') := by
  refine ⟨fun c => (h.numbers c).append (h'.numbers c), fun c => ?_⟩
  have happend := (h.addresses c).append (h'.addresses c)
  by_cases hc : loopbackCategory = c
  · rw [if_pos hc, if_pos hc, ← List.map_append] at happend
    rwa [if_pos hc]
  · rw [if_neg hc, if_neg hc] at happend
    rwa [if_neg hc]

/-! ### Ranges -/

/-- A range gives nothing to anybody. -/
private theorem hands_range (hp : p.Conserved fabric) {k : Kind} {r : PoolRange} {n : Nat}
    (h : (onPool k (Pool.populate fabric r.category r.range r.allowSmall)).run.run p = (.ok n, p')) :
    Hands fabric p p' (fun _ => []) [] := by
  obtain ⟨q, hq, rfl⟩ := onPool_eq_ok.1 h
  have hgifts {k : Kind} (s s' : Stock k) (hs : s.Conserved)
      (hrun : (Stock.populate r.range r.allowSmall).run.run s = (.ok n, s')) : Stock.Hands s s' [] := by
    have hhands := hs.hands_populate r.range r.allowSmall
    rwa [hrun] at hhands
  cases k with
  | number =>
    refine .of_numbers hp (fun c => ?_) rfl
    have hhands := Pool.hands_onStock hp.numbers hq hgifts c
    rwa [ite_self] at hhands
  | address =>
    refine .of_addresses hp (fun c => ?_) rfl
    have hhands := Pool.hands_onStock hp.addresses hq hgifts c
    rw [ite_self] at hhands
    rwa [List.map_nil, ite_self]
  | link => exact .of_numbers hp (fun c => .refl (hp.numbers c)) rfl

private theorem hands_populateKind (hp : p.Conserved fabric) {k : Kind} {ranges : List PoolRange}
    (h : (populateKind k fabric ranges).run.run p = (.ok ⟨⟩, p')) : Hands fabric p p' (fun _ => []) [] := by
  unfold populateKind at h
  induction ranges generalizing p with
  | nil =>
    cases h
    exact .refl hp
  | cons r rest ih =>
    obtain ⟨_, q, hrange, hrest⟩ := run_bind_eq_ok.1 h
    obtain ⟨n, q', hrange, hpure⟩ := run_bind_eq_ok.1 hrange
    cases hpure
    have hfirst := hands_range hp hrange
    exact hfirst.append (ih hfirst.conservation hrest)

/-- Loading ranges gives nothing to anybody. -/
theorem hands_populate (hp : p.Conserved fabric) {settings : PoolSettings}
    (h : (populate fabric settings).run.run p = (.ok ⟨⟩, p')) : Hands fabric p p' (fun _ => []) [] := by
  obtain ⟨_, p₁, hnumbers, h⟩ := run_bind_eq_ok.1 h
  obtain ⟨_, p₂, haddresses, hlinks⟩ := run_bind_eq_ok.1 h
  have h₁ := hands_populateKind hp hnumbers
  have h₂ := h₁.append (hands_populateKind h₁.conservation haddresses)
  exact h₂.append (hands_populateKind h₂.conservation hlinks)

end Pools

/-! ### Interfaces -/

namespace InterfaceSpec

/-- What may be filled in of an interface: the address of a loopback that has none. -/
structure Filled (i i' : InterfaceSpec) : Prop where
  rest : i' = { i with ip := i'.ip }
  ip : ¬ (i.kind = .loopback ∧ i.ip = "") → i'.ip = i.ip

/-- What loopbacks that had no address got for one. -/
def filledIps (before after : List InterfaceSpec) : List String :=
  ((before.zip after).filter (·.1.needsAddress)).map (·.2.ip)

variable {fabric : FabricId} {p p' : Pools}

theorem filled_refl (i : InterfaceSpec) : i.Filled i := ⟨rfl, fun _ => rfl⟩

/-- Interfaces of a device respect what its draws do. -/
theorem respects_allocateAll {R : Pools → Pools → Prop} [Std.Refl R] [Trans R R R] {device : UInt32}
    (h : ∀ n, Respects R (Pools.onPool .address (Pool.draw (k := .address) fabric loopbackCategory ⟨device, n⟩)))
    (position : Nat) (is : List InterfaceSpec) : Respects R (allocateAll fabric device position is) := by
  induction is generalizing position with
  | nil => exact respects_pure _
  | cons i rest ih =>
    have hfirst : Respects R (i.allocate fabric device position) := by
      unfold allocate
      split
      · exact respects_bind (h _) fun _ => respects_pure _
      · exact respects_pure _
    exact respects_bind hfirst fun _ => respects_bind (ih (position + 1)) fun _ => respects_pure _

/-- An interface that waits for an address draws one, and every other is left as it is. -/
theorem allocate_eq_ok {device : UInt32} {position : Nat} {i i' : InterfaceSpec} :
    (i.allocate fabric device position).run.run p = (.ok i', p') ↔
      (i.needsAddress = true ∧ ∃ a : Ipv4,
        (Pools.onPool .address (Pool.draw (k := .address) fabric loopbackCategory ⟨device, i.number position⟩)).run.run p =
          (.ok a, p') ∧ i' = { i with ip := a.text ++ "/32" }) ∨
      (i.needsAddress = false ∧ i' = i ∧ p' = p) := by
  unfold allocate
  cases hneeds : i.needsAddress with
  | true =>
    simp only [if_true, run_bind_eq_ok, true_and, Bool.true_eq_false, false_and, or_false]
    constructor
    · rintro ⟨a, q, hdraw, hpure⟩
      cases hpure
      exact ⟨a, hdraw, rfl⟩
    · rintro ⟨a, hdraw, rfl⟩
      exact ⟨a, p', hdraw, rfl⟩
  | false =>
    simp only [Bool.false_eq_true, if_false, run_pure, false_and, false_or, true_and]
    constructor
    · rintro ⟨⟩
      exact ⟨rfl, rfl⟩
    · rintro ⟨rfl, rfl⟩
      rfl

/-- Each interface that is returned was allocated. -/
theorem exists_allocate_of_mem {device : UInt32} {position : Nat} {is is' : List InterfaceSpec} {i' : InterfaceSpec}
    (h : (allocateAll fabric device position is).run.run p = (.ok is', p')) (hi : i' ∈ is') :
    ∃ i ∈ is, ∃ position q q', (i.allocate fabric device position).run.run q = (.ok i', q') := by
  induction is generalizing p position is' with
  | nil =>
    cases h
    cases hi
  | cons i rest ih =>
    unfold allocateAll at h
    obtain ⟨first, q, hfirst, h⟩ := run_bind_eq_ok.1 h
    obtain ⟨rest', q', hrest, hpure⟩ := run_bind_eq_ok.1 h
    cases hpure
    rcases List.mem_cons.1 hi with rfl | hi
    · exact ⟨i, List.mem_cons_self, position, p, q, hfirst⟩
    · obtain ⟨j, hj, hallocate⟩ := ih hrest hi
      exact ⟨j, List.mem_cons_of_mem i hj, hallocate⟩

private theorem hands_allocate (hp : p.Conserved fabric) {device : UInt32} {position : Nat} {i i' : InterfaceSpec}
    (h : (i.allocate fabric device position).run.run p = (.ok i', p')) :
    i.Filled i' ∧ ∃ drawn : List Ipv4, Pools.Hands fabric p p' (fun _ => []) drawn ∧
      filledIps [i] [i'] = drawn.map (·.text ++ "/32") := by
  rcases allocate_eq_ok.1 h with ⟨hneeds, a, hdraw, rfl⟩ | ⟨hneeds, rfl, rfl⟩
  · obtain ⟨q, hq, rfl⟩ := Pools.onPool_eq_ok.1 hdraw
    have hneeds' : i.kind = .loopback ∧ i.ip = "" := by simpa [needsAddress] using hneeds
    refine ⟨⟨rfl, fun hno => absurd hneeds' hno⟩, [a], .of_addresses hp (fun c => ?_) rfl, ?_⟩
    · exact Pool.hands_onStock hp.addresses hq (fun s s' hs hrun => hs.hands_draw hrun) c
    · simp [filledIps, hneeds]
  · exact ⟨filled_refl _, [], .refl hp, by simp [filledIps, hneeds]⟩

/-- Interfaces, one after the other: what loopbacks got are the drawn addresses. -/
private theorem hands_allocateAll (hp : p.Conserved fabric) {device : UInt32} {position : Nat}
    {is is' : List InterfaceSpec} (h : (allocateAll fabric device position is).run.run p = (.ok is', p')) :
    List.Forall₂ Filled is is' ∧ ∃ drawn : List Ipv4, Pools.Hands fabric p p' (fun _ => []) drawn ∧
      filledIps is is' = drawn.map (·.text ++ "/32") := by
  induction is generalizing p position is' with
  | nil =>
    cases h
    exact ⟨.nil, [], .refl hp, rfl⟩
  | cons i rest ih =>
    unfold allocateAll at h
    obtain ⟨i', q, hfirst, h⟩ := run_bind_eq_ok.1 h
    obtain ⟨rest', q', hrest, hpure⟩ := run_bind_eq_ok.1 h
    cases hpure
    obtain ⟨hfilled, drawn, hhands, hips⟩ := hands_allocate hp hfirst
    obtain ⟨hfilled', drawn', hhands', hips'⟩ := ih hhands.conservation hrest
    refine ⟨.cons hfilled hfilled', drawn ++ drawn', hhands.append hhands', ?_⟩
    rw [List.map_append, ← hips, ← hips']
    simp only [filledIps, List.zip_cons_cons, List.zip_nil_right, List.filter_cons, List.filter_nil]
    split <;> rfl

end InterfaceSpec

/-! ### Switches -/

namespace SwitchSpec

/-- What may be filled in of a switch: names of the fabric where they are empty, a number where it is zero, and
addresses of interfaces. -/
structure Filled (name : String) (s s' : SwitchSpec) : Prop where
  rest : s' = s.fill name s'.bgp.localAsn s'.interfaces
  number : s.bgp.localAsn ≠ 0 → s'.bgp.localAsn = s.bgp.localAsn
  interfaces : List.Forall₂ InterfaceSpec.Filled s.interfaces s'.interfaces

/-- A switch gets its number first, and then its interfaces get their addresses. -/
theorem allocate_eq_ok {fabric : FabricId} {name : String} {device : UInt32} {s s' : SwitchSpec} {p p' : Pools} :
    (s.allocate fabric name device).run.run p = (.ok s', p') ↔
      ∃ n is p₁, (s.allocateNumber fabric device).run.run p = (.ok n, p₁) ∧
        (InterfaceSpec.allocateAll fabric device 0 s.interfaces).run.run p₁ = (.ok is, p') ∧ s' = s.fill name n is := by
  unfold allocate
  rw [run_bind_eq_ok]
  constructor
  · rintro ⟨n, p₁, hnumber, h⟩
    obtain ⟨is, p₂, hinterfaces, hpure⟩ := run_bind_eq_ok.1 h
    cases hpure
    exact ⟨n, is, p₁, hnumber, hinterfaces, rfl⟩
  · rintro ⟨n, is, p₁, hnumber, hinterfaces, rfl⟩
    exact ⟨n, p₁, hnumber, run_bind_eq_ok.2 ⟨is, p', hinterfaces, rfl⟩⟩

/-- Each switch that is returned was allocated. -/
theorem exists_allocate_of_mem {fabric : FabricId} {name : String} {device : Nat} {ss ss' : List SwitchSpec}
    {s' : SwitchSpec} {p p' : Pools} (h : (allocateAll fabric name device ss).run.run p = (.ok ss', p'))
    (hs : s' ∈ ss') : ∃ s ∈ ss, ∃ device q q', (s.allocate fabric name device).run.run q = (.ok s', q') := by
  induction ss generalizing p device ss' with
  | nil =>
    cases h
    cases hs
  | cons s rest ih =>
    unfold allocateAll at h
    obtain ⟨first, q, hfirst, h⟩ := run_bind_eq_ok.1 h
    obtain ⟨rest', q', hrest, hpure⟩ := run_bind_eq_ok.1 h
    cases hpure
    rcases List.mem_cons.1 hs with rfl | hs
    · exact ⟨s, List.mem_cons_self, _, p, q, hfirst⟩
    · obtain ⟨e, he, hallocate⟩ := ih hrest hs
      exact ⟨e, List.mem_cons_of_mem s he, hallocate⟩

section respects

variable {R : Pools → Pools → Prop} [Std.Refl R] [Trans R R R] {fabric : FabricId}

/-- A switch respects what the draws and reservations of its device do. -/
theorem respects_allocate {device : UInt32}
    (hdraw : ∀ c, Respects R (Pools.onPool .number (Pool.draw (k := .number) fabric c device)))
    (hreserve : ∀ c n, Respects R (Pools.onPool .number (Pool.reserve (k := .number) fabric c device n)))
    (haddress : ∀ n, Respects R (Pools.onPool .address (Pool.draw (k := .address) fabric loopbackCategory ⟨device, n⟩)))
    (name : String) (s : SwitchSpec) : Respects R (s.allocate fabric name device) := by
  have hnumber : Respects R (s.allocateNumber fabric device) := by
    unfold allocateNumber
    split
    · exact hdraw _
    · exact respects_bind (hreserve _ _) fun _ => respects_pure _
  exact respects_bind hnumber fun _ =>
    respects_bind (InterfaceSpec.respects_allocateAll haddress 0 _) fun _ => respects_pure _

theorem respects_allocateAll {name : String} (h : ∀ device s, Respects R (allocate fabric name device s)) (device : Nat)
    (ss : List SwitchSpec) : Respects R (allocateAll fabric name device ss) := by
  induction ss generalizing device with
  | nil => exact respects_pure _
  | cons s rest ih =>
    exact respects_bind (h _ s) fun _ => respects_bind (ih (device + 1)) fun _ => respects_pure _

end respects

/-- The numbers that switches of a category were given, each with whether it was drawn. -/
def givenNumbers (category : String) (before after : List SwitchSpec) : List (UInt32 × Bool) :=
  ((before.zip after).filter (·.1.role.name == category)).map fun x => (x.2.bgp.localAsn, x.1.bgp.localAsn == 0)

variable {fabric : FabricId} {p p' : Pools}

/-- A switch is given the number it asks for, and else draws one, in the category of its role. -/
private theorem hands_allocateNumber (hp : p.Conserved fabric) {device : UInt32} {s : SwitchSpec} {n : UInt32}
    (h : (s.allocateNumber fabric device).run.run p = (.ok n, p')) :
    (s.bgp.localAsn ≠ 0 → n = s.bgp.localAsn) ∧
      Pools.Hands fabric p p' (fun c => if s.role.name = c then [(n, s.bgp.localAsn == 0)] else []) [] := by
  unfold allocateNumber at h
  by_cases hzero : s.bgp.localAsn = 0
  · simp only [hzero, if_true] at h
    obtain ⟨q, hq, rfl⟩ := Pools.onPool_eq_ok.1 h
    refine ⟨fun hne => absurd hzero hne, .of_numbers hp (fun c => ?_) rfl⟩
    rw [hzero]
    exact Pool.hands_onStock hp.numbers hq (fun s s' hs hrun => hs.hands_draw hrun) c
  · simp only [hzero, if_false] at h
    obtain ⟨_, q, hreserve, hpure⟩ := run_bind_eq_ok.1 h
    cases hpure
    obtain ⟨q, hq, rfl⟩ := Pools.onPool_eq_ok.1 hreserve
    refine ⟨fun _ => rfl, .of_numbers hp (fun c => ?_) rfl⟩
    rw [beq_eq_false_iff_ne.2 hzero]
    exact Pool.hands_onStock hp.numbers hq (fun s s' hs hrun => hs.hands_reserve rfl hrun) c

private theorem hands_allocate (hp : p.Conserved fabric) {name : String} {device : UInt32} {s s' : SwitchSpec}
    (h : (s.allocate fabric name device).run.run p = (.ok s', p')) :
    s.Filled name s' ∧ ∃ drawn : List Ipv4, Pools.Hands fabric p p' (fun c => givenNumbers c [s] [s']) drawn ∧
      InterfaceSpec.filledIps s.interfaces s'.interfaces = drawn.map (·.text ++ "/32") := by
  obtain ⟨n, is, q, hnumber, hinterfaces, rfl⟩ := allocate_eq_ok.1 h
  obtain ⟨hn, hhands⟩ := hands_allocateNumber hp hnumber
  obtain ⟨hfilled, drawn, hhands', hips⟩ := InterfaceSpec.hands_allocateAll hhands.conservation hinterfaces
  refine ⟨⟨rfl, hn, hfilled⟩, drawn, ?_, hips⟩
  have hboth := hhands.append hhands'
  simp only [List.append_nil, List.nil_append] at hboth
  have hgiven (c : String) (s' : SwitchSpec) : givenNumbers c [s] [s'] =
      if s.role.name = c then [(s'.bgp.localAsn, s.bgp.localAsn == 0)] else [] := by
    by_cases hc : s.role.name = c <;> simp [givenNumbers, hc]
  simp only [hgiven]
  exact hboth

/-- Switches, one after the other. -/
theorem hands_allocateAll (hp : p.Conserved fabric) {name : String} {device : Nat} {ss ss' : List SwitchSpec}
    (h : (allocateAll fabric name device ss).run.run p = (.ok ss', p')) :
    List.Forall₂ (Filled name) ss ss' ∧ ∃ drawn : List Ipv4,
      Pools.Hands fabric p p' (fun c => givenNumbers c ss ss') drawn ∧
        (ss.zip ss').flatMap (fun x => InterfaceSpec.filledIps x.1.interfaces x.2.interfaces) =
          drawn.map (·.text ++ "/32") := by
  induction ss generalizing p device ss' with
  | nil =>
    cases h
    exact ⟨.nil, [], .refl hp, rfl⟩
  | cons s rest ih =>
    unfold allocateAll at h
    obtain ⟨s', q, hfirst, h⟩ := run_bind_eq_ok.1 h
    obtain ⟨rest', q', hrest, hpure⟩ := run_bind_eq_ok.1 h
    cases hpure
    obtain ⟨hfilled, drawn, hhands, hips⟩ := hands_allocate hp hfirst
    obtain ⟨hfilled', drawn', hhands', hips'⟩ := ih hhands.conservation hrest
    have hgiven (c : String) :
        givenNumbers c [s] [s'] ++ givenNumbers c rest rest' = givenNumbers c (s :: rest) (s' :: rest') := by
      simp only [givenNumbers, List.zip_cons_cons, List.zip_nil_right, List.filter_cons, List.filter_nil]
      split <;> rfl
    have hboth := hhands.append hhands'
    simp only [hgiven] at hboth
    refine ⟨.cons hfilled hfilled', drawn ++ drawn', hboth, ?_⟩
    rw [List.map_append, ← hips, ← hips']
    rfl

end SwitchSpec

/-! ### The file -/

/-- A file is allocated by loading its ranges and going through its switches. -/
theorem FabricFile.allocate_eq_ok {f : FabricFile} {request : FabricRequest} {p p' : Pools} :
    f.allocate.run.run p = (.ok request, p') ↔
      ∃ p₁ ss', (Pools.populate f.settings.id f.pools).run.run p = (.ok ⟨⟩, p₁) ∧
        (SwitchSpec.allocateAll f.settings.id f.settings.name 1 f.switches).run.run p₁ = (.ok ss', p') ∧
        request = f.request ss' := by
  unfold allocate
  rw [run_bind_eq_ok]
  constructor
  · rintro ⟨_, p₁, hpopulate, h⟩
    obtain ⟨ss', q, hswitches, hpure⟩ := run_bind_eq_ok.1 h
    cases hpure
    exact ⟨p₁, ss', hpopulate, hswitches, rfl⟩
  · rintro ⟨p₁, ss', hpopulate, hswitches, rfl⟩
    exact ⟨⟨⟩, p₁, hpopulate, run_bind_eq_ok.2 ⟨ss', p', hswitches, rfl⟩⟩

/-- Allocation fills in what is missing, and nothing it draws collides.  Let the pools be left by any calls, and let
the allocation of a file succeed.  Then the request has the name and the topology of the file, and its switches and
clusters in order, the same up to what was unset: empty names of the fabric, numbers that were zero, and addresses of
loopbacks that had none.  A number that was drawn was populated for the switch's role and held by no device there
before, and is none of the numbers of the earlier switches of the role, whether these were drawn or given.  The
addresses that were drawn differ from each other, were populated for loopbacks and held by none before. -/
theorem FabricFile.allocate_fills (numbers : List (Call .number)) (addresses : List (Call .address))
    (links : List (Call .link)) (f : FabricFile) {request : FabricRequest} {p' : Pools}
    (h : f.allocate.run.run ⟨.afterCalls numbers, .afterCalls addresses, .afterCalls links⟩ = (.ok request, p')) :
    let fabric := f.settings.id
    let name := f.settings.name
    let switches := f.switches.zip request.switches
    (request = f.request request.switches ∧ List.Forall₂ (SwitchSpec.Filled name) f.switches request.switches) ∧
    (∀ x ∈ switches, x.1.bgp.localAsn = 0 →
      x.2.bgp.localAsn ∈ (p'.numbers.stock fabric x.1.role.name).populated ∧
        ¬ ((Pool.afterCalls numbers).stock fabric x.1.role.name).Bound x.2.bgp.localAsn) ∧
    switches.Pairwise (fun earlier later => earlier.1.role = later.1.role → later.1.bgp.localAsn = 0 →
      later.2.bgp.localAsn ≠ earlier.2.bgp.localAsn) ∧
    ∃ drawn : List Ipv4,
      switches.flatMap (fun x => InterfaceSpec.filledIps x.1.interfaces x.2.interfaces) =
        drawn.map (·.text ++ "/32") ∧
      drawn.Nodup ∧ ∀ a ∈ drawn, a ∈ (p'.addresses.stock fabric loopbackCategory).populated ∧
        ¬ ((Pool.afterCalls addresses).stock fabric loopbackCategory).Bound a := by
  intro fabric name switches
  have hp : Pools.Conserved fabric ⟨.afterCalls numbers, .afterCalls addresses, .afterCalls links⟩ :=
    ⟨fun c => Pool.afterCalls_invariant Stock.conserved_empty (fun _ _ hs h => hs.change h) numbers fabric c,
      fun c => Pool.afterCalls_invariant Stock.conserved_empty (fun _ _ hs h => hs.change h) addresses fabric c⟩
  obtain ⟨_, q, hpopulate, h⟩ := run_bind_eq_ok.1 h
  obtain ⟨ss', q', hswitches, hpure⟩ := run_bind_eq_ok.1 h
  cases hpure
  have hranges := Pools.hands_populate hp hpopulate
  obtain ⟨hfilled, drawn, hhands, hips⟩ := SwitchSpec.hands_allocateAll hranges.conservation hswitches
  have hall := hranges.append hhands
  simp only [List.nil_append] at hall
  refine ⟨⟨rfl, hfilled⟩, fun x hx hzero => ?_, ?_, drawn, hips, ?_, fun a ha => ?_⟩
  · refine (hall.numbers x.1.role.name).drawn (x.2.bgp.localAsn, true) ?_ rfl
    exact List.mem_map.2 ⟨x, List.mem_filter.2 ⟨hx, beq_self_eq_true _⟩, by rw [hzero]; rfl⟩
  · refine List.pairwise_iff_forall_sublist.2 fun {earlier later} hsub hrole hzero => ?_
    have hdistinct := (hall.numbers later.1.role.name).distinct
    rw [SwitchSpec.givenNumbers, List.pairwise_map, List.pairwise_filter] at hdistinct
    refine List.pairwise_iff_forall_sublist.1 hdistinct hsub ?_ (beq_self_eq_true _) (beq_iff_eq.2 hzero)
    exact beq_iff_eq.2 (congrArg Role.name hrole)
  · have hdistinct := (hall.addresses loopbackCategory).distinct
    rw [if_pos rfl, List.pairwise_map] at hdistinct
    exact hdistinct.imp fun hne => (hne rfl).symm
  · have hdrawn := (hall.addresses loopbackCategory).drawn (a, true)
    rw [if_pos rfl] at hdrawn
    exact hdrawn (List.mem_map.2 ⟨a, ha, rfl⟩) rfl

/-- Three leaves of a fabric in which a number is taken: the first and the last draw their number, the other one asks
for the number that the last would have got, and two of them have a loopback without an address. -/
theorem FabricFile.threeLeaves_allocated :
    let f : FabricFile := {
      settings := { name := "dc" }
      pools := { numbers := [⟨"Leaf", "64513-64516", false⟩], addresses := [⟨"Loopback", "10.0.0.0/30", false⟩] }
      switches := [
        { host := "192.0.2.1", role := .leaf, interfaces := [{ name := "1", kind := .loopback }] },
        { host := "192.0.2.2", role := .leaf, bgp := { localAsn := 64514 } },
        { host := "192.0.2.3", role := .leaf, interfaces := [{ name := "1", kind := .loopback }] }] }
    let numbers : List (Call .number) := [.populate 1 "Leaf" "64512" false, .reserve 1 "Leaf" 9 64512]
    ∃ request p', f.allocate.run.run ⟨.afterCalls numbers, .afterCalls [], .afterCalls []⟩ = (.ok request, p') ∧
      request.switches.map (·.bgp.localAsn) = [64513, 64514, 64515] ∧
      (f.switches.zip request.switches).Pairwise (fun earlier later => earlier.1.role = later.1.role →
        later.1.bgp.localAsn = 0 → later.2.bgp.localAsn ≠ earlier.2.bgp.localAsn) ∧
      ∃ drawn : List Ipv4,
        (f.switches.zip request.switches).flatMap
          (fun x => InterfaceSpec.filledIps x.1.interfaces x.2.interfaces) = drawn.map (·.text ++ "/32") ∧
        drawn.Nodup := by
  intro f numbers
  have hgiven : ((f.allocate.run.run ⟨.afterCalls numbers, .afterCalls [], .afterCalls []⟩).1.map fun request =>
      request.switches.map (·.bgp.localAsn)) = .ok [64513, 64514, 64515] := by cbv
  rcases hrun : f.allocate.run.run ⟨.afterCalls numbers, .afterCalls [], .afterCalls []⟩ with ⟨e | request, p'⟩
  · rw [hrun] at hgiven
    cases hgiven
  · rw [hrun] at hgiven
    obtain ⟨-, -, hdistinct, drawn, hips, hnodup, -⟩ := allocate_fills numbers [] [] f hrun
    exact ⟨request, p', rfl, Except.ok.inj hgiven, hdistinct, drawn, hips, hnodup⟩

end FabricProvision
