import Mathlib
import FabricProvision.File.Fault
import FabricProvision.Proofs.Pool.Draws
import FabricProvision.Proofs.Pool.Links

/-!
# Loaded ranges

A range is added to a category unless one of its units was added before or is held there, and then the failure names
such a unit (`Stock.populate_of_expand`).  A pool into which ranges are loaded, and nothing else is done, holds in each
category the units of its ranges, all of them available (`Pool.Loaded`), so the next range is refused exactly if it has
a unit in common with one of them.  Two ranges of links that have an address in common have a pair in common, since
pairs are aligned (`Kind.separate_iff`).  So the ranges of a file can be loaded exactly if no two of one kind and one
category overlap, and then nothing is counted twice (`Pools.populate_separate`).
-/

namespace FabricProvision

open Std (ExtTreeSet)
open Step

/-! ### Steps on the pool of one kind -/

namespace Pools

variable {k k' : Kind} (p : Pools) (q q' : Pool k)

theorem pool_setPool : (p.setPool k q).pool k = q := by cases k <;> rfl

theorem pool_setPool_of_ne (h : k ≠ k') : (p.setPool k q).pool k' = p.pool k' := by
  cases k <;> cases k' <;> first | rfl | exact absurd rfl h

theorem setPool_setPool : (p.setPool k q).setPool k q' = p.setPool k q' := by cases k <;> rfl

theorem setPool_pool : p.setPool k (p.pool k) = p := by cases k <;> rfl

theorem run_onPool {α : Type} (k : Kind) (step : PoolM k α) (p : Pools) :
    (onPool k step).run.run p = ((step.run.run (p.pool k)).1, p.setPool k (step.run.run (p.pool k)).2) := by
  unfold onPool
  simp only [run_bind, run_get]
  obtain ⟨answer, q⟩ := step.run.run (p.pool k)
  simp only [run_bind, run_modify]
  cases answer <;> rfl

end Pools

/-! ### Ranges -/

namespace Kind

/-- The units of a range; a text that is no range has none. -/
def units (k : Kind) (r : PoolRange) : List k.Unit :=
  match k.expand r.range r.allowSmall with
  | .ok units => units
  | .error _ => []

/-- Ranges of one category have no unit in common. -/
def Separate (k : Kind) (r r' : PoolRange) : Prop := r.category = r'.category → ∀ u ∈ k.units r, u ∉ k.units r'

/-- Some number, or some address, is in both ranges. -/
def Overlap (k : Kind) (r r' : PoolRange) : Prop :=
  match k with
  | .number => ∃ n ∈ number.units r, n ∈ number.units r'
  | .address | .link => ∃ a ∈ address.units r, a ∈ address.units r'

variable {k : Kind} {r r' : PoolRange}

theorem units_of_expand {units : List k.Unit} (h : k.expand r.range r.allowSmall = .ok units) : k.units r = units := by
  rw [Kind.units, h]

theorem nodup_units (k : Kind) (r : PoolRange) : (k.units r).Nodup := by
  unfold Kind.units
  rcases h : k.expand r.range r.allowSmall with e | units
  · exact List.nodup_nil
  · refine (Kind.ascending_expand h).sorted.imp fun {u v} hlt hsame => ?_
    rw [hsame, Std.ReflOrd.compare_self] at hlt
    cases hlt

/-- The addresses of a range are those of its pairs. -/
private theorem mem_addresses_iff (r : PoolRange) (a : Ipv4) :
    a ∈ address.units r ↔ ∃ p ∈ link.units r, AddressPair.Mentions p a := by
  rcases h : expandPairs r.range r.allowSmall with e | pairs
  · have haddresses : expandAddresses r.range r.allowSmall = .error e := by
      unfold expandPairs at h
      rcases haddresses : expandAddresses r.range r.allowSmall with e' | addresses <;> rw [haddresses] at h <;> cases h
      rfl
    have hnone : address.units r = [] := by rw [Kind.units, show address.expand r.range r.allowSmall = _ from haddresses]
    have hnone' : link.units r = [] := by rw [Kind.units, show link.expand r.range r.allowSmall = _ from h]
    simp [hnone, hnone']
  · obtain ⟨addresses, haddresses, hmem⟩ := mem_of_expandPairs h
    rw [units_of_expand (k := address) haddresses, units_of_expand (k := link) h]
    exact hmem a

private theorem aligned_of_mem {p : AddressPair} (hp : p ∈ link.units r) : p.Aligned := by
  rcases h : expandPairs r.range r.allowSmall with e | pairs
  · rw [Kind.units, show link.expand r.range r.allowSmall = _ from h] at hp
    cases hp
  · rw [units_of_expand (k := link) h] at hp
    exact aligned_of_expandPairs h p hp

/-- Ranges of links have a pair in common exactly if they have an address in common. -/
private theorem overlap_link : link.Overlap r r' ↔ ∃ p ∈ link.units r, p ∈ link.units r' := by
  show (∃ a ∈ address.units r, a ∈ address.units r') ↔ _
  constructor
  · rintro ⟨a, ha, ha'⟩
    obtain ⟨p, hp, hpa⟩ := (mem_addresses_iff r a).1 ha
    obtain ⟨p', hp', hpa'⟩ := (mem_addresses_iff r' a).1 ha'
    have hsame : p = p' := (aligned_of_mem hp).eq_of_mentions (aligned_of_mem hp') hpa hpa'
    exact ⟨p, hp, hsame ▸ hp'⟩
  · rintro ⟨p, hp, hp'⟩
    exact ⟨p.first, (mem_addresses_iff r _).2 ⟨p, hp, .inl rfl⟩, (mem_addresses_iff r' _).2 ⟨p, hp', .inl rfl⟩⟩

theorem separate_iff (k : Kind) (r r' : PoolRange) :
    k.Separate r r' ↔ (r.category = r'.category → ¬ k.Overlap r r') := by
  have hoverlap : k.Overlap r r' ↔ ∃ u ∈ k.units r, u ∈ k.units r' := by
    cases k with
    | number => exact Iff.rfl
    | address => exact Iff.rfl
    | link => exact overlap_link
  rw [Separate, hoverlap]
  exact forall_congr' fun _ => ⟨fun h ⟨u, hu, hu'⟩ => h u hu hu', fun h u hu hu' => h ⟨u, hu, hu'⟩⟩

end Kind

/-! ### One pool -/

namespace Pool

variable {k : Kind} {fabric : FabricId} {ranges : List PoolRange} {q : Pool k}

/-- Ranges were loaded into the pool for a fabric, and nothing else was done. -/
structure Loaded (fabric : FabricId) (ranges : List PoolRange) (q : Pool k) : Prop where
  conserved : ∀ c, (q.stock fabric c).Conserved
  unused : ∀ c (owner : k.Owner), (q.stock fabric c).used[owner]? = none
  populated : ∀ c (u : k.Unit), u ∈ (q.stock fabric c).populated ↔ ∃ r ∈ ranges, r.category = c ∧ u ∈ k.units r

theorem loaded_nil (k : Kind) (fabric : FabricId) : ({} : Pool k).Loaded fabric [] := by
  have hstock (c : String) : ({} : Pool k).stock fabric c = {} := by simp [stock]
  refine ⟨fun c => ?_, fun c owner => ?_, fun c u => ?_⟩ <;> rw [hstock]
  · exact Stock.conserved_empty
  · simp
  · simp

theorem Loaded.not_bound (h : q.Loaded fabric ranges) (c : String) (u : k.Unit) : ¬ (q.stock fabric c).Bound u := by
  rintro ⟨owner, held, howner, -⟩
  rw [h.unused] at howner
  cases howner

/-- What is recorded in a category are the units of its ranges. -/
theorem Loaded.recorded_iff (h : q.Loaded fabric ranges) (c : String) (u : k.Unit) :
    (q.stock fabric c).Recorded u ↔ ∃ r ∈ ranges, r.category = c ∧ u ∈ k.units r :=
  (or_iff_left (h.not_bound c u)).trans (h.populated c u)

/-- What is available in a category are the units of its ranges. -/
theorem Loaded.mem_available (h : q.Loaded fabric ranges) (c : String) (u : k.Unit) :
    u ∈ (q.stock fabric c).available ↔ ∃ r ∈ ranges, r.category = c ∧ u ∈ k.units r := by
  rw [(h.conserved c).mem_available, and_iff_left (h.not_bound c u), h.populated]

/-- As many units are available in a category as its ranges have, if these are separate. -/
theorem Loaded.size_available (h : q.Loaded fabric ranges) (hseparate : ranges.Pairwise k.Separate) (c : String) :
    (q.stock fabric c).available.size =
      ((ranges.filter (·.category == c)).map fun r => (k.units r).length).sum := by
  have hnodup : ((ranges.filter (·.category == c)).flatMap k.units).Nodup := by
    refine List.nodup_flatMap.2 ⟨fun r _ => k.nodup_units r, ?_⟩
    rw [List.pairwise_filter]
    refine hseparate.imp fun {r r'} hapart hr hr' u hu hu' => ?_
    exact hapart ((beq_iff_eq.1 hr).trans (beq_iff_eq.1 hr').symm) u hu hu'
  have hmem (u : k.Unit) :
      u ∈ (q.stock fabric c).available ↔ u ∈ (ranges.filter (·.category == c)).flatMap k.units := by
    rw [h.mem_available]
    simp only [List.mem_flatMap, List.mem_filter, beq_iff_eq, and_assoc]
  rw [set_size_eq_length hnodup hmem, List.length_flatMap]

/-- The next range is loaded if it is separate from the others, and else a unit that they have in common is named. -/
theorem Loaded.populate (h : q.Loaded fabric ranges) {r : PoolRange} {units : List k.Unit}
    (hunits : k.expand r.range r.allowSmall = .ok units) :
    let load := (Pool.populate fabric r.category r.range r.allowSmall).run.run q
    (∃ unit, (¬ ∀ r' ∈ ranges, k.Separate r' r) ∧
        load.1 = .error ⟨k, fabric, r.category, .unitRecorded unit⟩) ∨
      (∀ r' ∈ ranges, k.Separate r' r) ∧ load.1 = .ok units.length ∧ load.2.Loaded fabric (ranges ++ [r]) := by
  intro load
  have hanswer : load.1 = ((Stock.populate r.range r.allowSmall).run.run (q.stock fabric r.category)).1.mapError
      (⟨k, fabric, r.category, ·⟩) := congrArg Prod.fst (run_onStock _ _ _ _)
  have hstock (c : String) : load.2.stock fabric c = if fabric = fabric ∧ r.category = c then
      ((Stock.populate r.range r.allowSmall).run.run (q.stock fabric c)).2 else q.stock fabric c :=
    stock_onStock (Stock.populate r.range r.allowSmall) q fabric fabric r.category c
  have hr : k.units r = units := Kind.units_of_expand hunits
  rcases Stock.populate_of_expand hunits (q.stock fabric r.category) with ⟨u, hu, hrecorded, hfail⟩ |
    ⟨hnew, staged, hstaged, hdone⟩
  · refine .inl ⟨u, fun hall => ?_, by rw [hanswer, hfail]; rfl⟩
    obtain ⟨r', hr', hcategory, hu'⟩ := (h.recorded_iff r.category u).1 hrecorded
    exact hall r' hr' hcategory u hu' (hr ▸ hu)
  refine .inr ⟨fun r' hr' hcategory u hu' hu => ?_, by rw [hanswer, hdone]; rfl, fun c => ?_, fun c owner => ?_,
    fun c u => ?_⟩
  · exact hnew u (hr ▸ hu) ((h.recorded_iff r.category u).2 ⟨r', hr', hcategory, hu'⟩)
  · rw [hstock]
    split
    · exact (h.conserved c).change (.populate _ r.range r.allowSmall)
    · exact h.conserved c
  · rw [hstock]
    split
    · rw [Stock.used_populate]
      exact h.unused c owner
    · exact h.unused c owner
  · have hmem : (∃ r' ∈ ranges ++ [r], r'.category = c ∧ u ∈ k.units r') ↔
        (∃ r' ∈ ranges, r'.category = c ∧ u ∈ k.units r') ∨ r.category = c ∧ u ∈ units := by
      simp only [List.mem_append, List.mem_singleton, or_and_right, exists_or, exists_eq_left, hr]
    rw [hmem, ← h.populated, hstock]
    by_cases hc : r.category = c
    · rw [if_pos ⟨rfl, hc⟩, ← hc, hdone, ExtTreeSet.mem_union_iff, hstaged]
      simp only [true_and]
    · rw [if_neg fun hkey => hc hkey.2]
      simp only [hc, false_and, or_false]

end Pool

/-! ### The three pools -/

namespace PoolSettings

/-- The ranges of a kind. -/
def ranges (s : PoolSettings) : Kind → List PoolRange
  | .number => s.numbers
  | .address => s.addresses
  | .link => s.links

/-- Settings without faults list ranges only. -/
theorem expand_of_faultless {s : PoolSettings} (hs : s.faults = []) (k : Kind) :
    ∀ r ∈ s.ranges k, ∃ units, k.expand r.range r.allowSmall = .ok units := by
  have hfaults (k : Kind) {r : PoolRange} (hr : rangeFaults k r = []) :
      ∃ units, k.expand r.range r.allowSmall = .ok units := by
    unfold rangeFaults at hr
    rcases h : k.expand r.range r.allowSmall with e | units
    · rw [h] at hr
      cases hr
    · exact ⟨units, rfl⟩
  simp only [faults, List.append_eq_nil_iff, List.flatMap_eq_nil_iff] at hs
  obtain ⟨⟨hnumbers, haddresses⟩, hlinks⟩ := hs
  cases k with
  | number => exact fun r hr => hfaults .number (hnumbers r hr)
  | address => exact fun r hr => hfaults .address (haddresses r hr)
  | link => exact fun r hr => hfaults .link (hlinks r hr)

end PoolSettings

namespace Pools

variable {k : Kind} {fabric : FabricId}

private theorem run_populateKind_cons (k : Kind) (fabric : FabricId) (r : PoolRange) (rest : List PoolRange)
    (p : Pools) :
    (populateKind k fabric (r :: rest)).run.run p =
      match (Pool.populate fabric r.category r.range r.allowSmall).run.run (p.pool k) with
      | (.ok _, q) => (populateKind k fabric rest).run.run (p.setPool k q)
      | (.error e, q) => (.error e, p.setPool k q) := by
  unfold populateKind
  rw [List.forM_eq_forM, List.forM_cons, run_bind, run_bind, run_onPool]
  rcases (Pool.populate fabric r.category r.range r.allowSmall).run.run (p.pool k) with ⟨e | n, q⟩ <;> rfl

/-- More ranges of a kind are loaded exactly if they are separate from each other and from those that were loaded
before, and else the failure names a unit. -/
private theorem populateKind_cases {p : Pools} {loaded ranges : List PoolRange} (h : (p.pool k).Loaded fabric loaded)
    (hloaded : loaded.Pairwise k.Separate)
    (hexpand : ∀ r ∈ ranges, ∃ units, k.expand r.range r.allowSmall = .ok units) :
    let load := (populateKind k fabric ranges).run.run p
    (¬ (loaded ++ ranges).Pairwise k.Separate ∧
        ∃ c unit, load.1 = .error ⟨k, fabric, c, .unitRecorded unit⟩) ∨
      (loaded ++ ranges).Pairwise k.Separate ∧
        ∃ q : Pool k, q.Loaded fabric (loaded ++ ranges) ∧ load = (.ok ⟨⟩, p.setPool k q) := by
  induction ranges generalizing p loaded with
  | nil =>
    rw [List.append_nil]
    exact .inr ⟨hloaded, p.pool k, h, by rw [setPool_pool]; rfl⟩
  | cons r rest ih =>
    intro load
    obtain ⟨units, hunits⟩ := hexpand r List.mem_cons_self
    have hload : load = _ := run_populateKind_cons k fabric r rest p
    have hfirst := h.populate hunits
    rcases hrun : (Pool.populate fabric r.category r.range r.allowSmall).run.run (p.pool k) with ⟨answer, q⟩
    rw [hrun] at hload hfirst
    rcases hfirst with ⟨unit, hoverlap, rfl⟩ | ⟨hseparate, rfl, hq⟩
    · refine .inl ⟨fun hall => hoverlap fun r' hr' => ?_, r.category, unit, by rw [hload]⟩
      exact (List.pairwise_append.1 hall).2.2 r' hr' r List.mem_cons_self
    · -- The range joins those that are loaded.
      have hnext : (loaded ++ [r]).Pairwise k.Separate :=
        List.pairwise_append.2 ⟨hloaded, List.pairwise_singleton _ _, fun r' hr' _ hmem => by
          rw [List.mem_singleton.1 hmem]
          exact hseparate r' hr'⟩
      have hrest := @ih (p.setPool k q) (loaded ++ [r]) (by rwa [pool_setPool]) hnext
        fun r' hr' => hexpand r' (List.mem_cons_of_mem r hr')
      simp only [List.append_assoc, List.singleton_append, setPool_setPool] at hrest
      rwa [hload]

/-- The ranges of all kinds are loaded if those of each kind are separate, and else the failure names a unit. -/
theorem populate_cases {settings : PoolSettings} (hsettings : settings.faults = []) (fabric : FabricId) :
    let load := (populate fabric settings).run.run {}
    ((¬ ∀ k, (settings.ranges k).Pairwise k.Separate) ∧
        ∃ k c unit, load.1 = .error ⟨k, fabric, c, .unitRecorded unit⟩) ∨
      (∀ k, (settings.ranges k).Pairwise k.Separate) ∧
        load.1 = .ok ⟨⟩ ∧ ∀ k, (load.2.pool k).Loaded fabric (settings.ranges k) := by
  have hkind (k : Kind) (p : Pools) (hp : p.pool k = {}) :=
    populateKind_cases (show (p.pool k).Loaded fabric [] by rw [hp]; exact Pool.loaded_nil k fabric) .nil
      (settings.expand_of_faultless hsettings k)
  simp only [populate, run_bind]
  -- Each kind finds its own pool empty, since the kinds before it do not touch it.
  have hnumbers := hkind .number {} rfl
  rcases hrun : (populateKind .number fabric settings.numbers).run.run {} with ⟨answer, p⟩
  simp only [PoolSettings.ranges, List.nil_append, hrun] at hnumbers
  rcases hnumbers with ⟨hoverlap, c, unit, rfl⟩ | ⟨hnumbers, q, hq, ⟨⟩⟩
  · exact .inl ⟨fun hall => hoverlap (hall .number), .number, c, unit, rfl⟩
  have haddresses := hkind .address _ (pool_setPool_of_ne {} q (show Kind.number ≠ .address by decide))
  rcases hrun : (populateKind .address fabric settings.addresses).run.run (setPool {} .number q) with ⟨answer, p⟩
  simp only [PoolSettings.ranges, List.nil_append, hrun] at haddresses
  rcases haddresses with ⟨hoverlap, c, unit, rfl⟩ | ⟨haddresses, q', hq', ⟨⟩⟩
  · exact .inl ⟨fun hall => hoverlap (hall .address), .address, c, unit, by simp only [hrun]⟩
  have hlinks := hkind .link _ (show ((setPool {} .number q).setPool .address q').pool .link = {} from rfl)
  rcases hrun' : (populateKind .link fabric settings.links).run.run ((setPool {} .number q).setPool .address q') with
    ⟨answer, p⟩
  simp only [PoolSettings.ranges, List.nil_append, hrun'] at hlinks
  rcases hlinks with ⟨hoverlap, c, unit, rfl⟩ | ⟨hlinks, q'', hq'', ⟨⟩⟩
  · exact .inl ⟨fun hall => hoverlap (hall .link), .link, c, unit, by simp only [hrun, hrun']⟩
  refine .inr ⟨fun k => ?_, by simp only [hrun, hrun'], fun k => ?_⟩
  · cases k with
    | number => exact hnumbers
    | address => exact haddresses
    | link => exact hlinks
  · simp only [hrun, hrun']
    cases k with
    | number => exact hq
    | address => exact hq'
    | link => exact hq''

/-- Ranges can be loaded exactly if they do not overlap.  Let the settings have no faults, so that each range lists
units.  Then loading them into empty pools succeeds exactly if no number is in two ranges of numbers of one category, no
address in two ranges of addresses, and no address in two ranges of links.  Once it succeeded, what is available in a
category are the units of its ranges, and as many as the ranges have together.  If it fails, a unit was recorded twice.

After any calls, a range is added to a category exactly if none of its units was added there before or is held there in
any order, and else the failure is that the pool cannot be initialized, and names such a unit. -/
theorem populate_separate (fabric : FabricId) (settings : PoolSettings) (hsettings : settings.faults = []) :
    let load := (populate fabric settings).run.run {}
    (load.1 = .ok ⟨⟩ ↔ ∀ k, (settings.ranges k).Pairwise fun r r' => r.category = r'.category → ¬ k.Overlap r r') ∧
    (load.1 = .ok ⟨⟩ → ∀ (k : Kind) (c : String),
      let available := ((load.2.pool k).stock fabric c).available
      let ranges := (settings.ranges k).filter (·.category == c)
      (∀ u, u ∈ available ↔ ∃ r ∈ ranges, u ∈ k.units r) ∧
        available.size = (ranges.map fun r => (k.units r).length).sum) ∧
    (∀ e, load.1 = .error e → ∃ k c unit, e = ⟨k, fabric, c, .unitRecorded unit⟩) ∧
    ∀ (k : Kind) (calls : List (Call k)) (c range : String) (allowSmall : Bool) (units : List k.Unit),
      k.expand range allowSmall = .ok units →
        let p := Pool.afterCalls calls
        let filling : Call k := .populate fabric c range allowSmall
        let isRecorded (u : k.Unit) : Prop := u ∈ (p.stock fabric c).populated ∨ (p.stock fabric c).Bound u
        (filling.error? p = none ↔ ∀ u ∈ units, ¬ isRecorded u) ∧
          ∀ e, filling.error? p = some e → ∃ u ∈ units, isRecorded u ∧ e = ⟨k, fabric, c, .unitRecorded u⟩ ∧
            e.message = s!"{k.label} Pool Initialization Failed for {k.categoryNoun} {c}: " ++
              duplicateText fabric c (k.unitText u) := by
  intro load
  refine ⟨?_, fun hok k c => ?_, fun e he => ?_, fun k calls c range allowSmall units hunits => ?_⟩
  · simp only [← Kind.separate_iff]
    rcases populate_cases hsettings fabric with ⟨hoverlap, k, c, unit, hfail⟩ | ⟨hseparate, hdone, -⟩
    · exact iff_of_false (fun hok => by cases hok.symm.trans hfail) hoverlap
    · exact iff_of_true hdone hseparate
  · rcases populate_cases hsettings fabric with ⟨-, k, c, unit, hfail⟩ | ⟨hseparate, -, hloaded⟩
    · cases hok.symm.trans hfail
    · refine ⟨fun u => ?_, (hloaded k).size_available (hseparate k) c⟩
      rw [(hloaded k).mem_available]
      simp only [List.mem_filter, beq_iff_eq, and_assoc]
  · rcases populate_cases hsettings fabric with ⟨-, k, c, unit, hfail⟩ | ⟨-, hdone, -⟩
    · exact ⟨k, c, unit, Except.error.inj (he.symm.trans hfail)⟩
    · cases he.symm.trans hdone
  · intro p filling isRecorded
    have hanswer : filling.error? p = (Step.error? ((Stock.populate range allowSmall).run.run (p.stock fabric c)).1).map
        (⟨k, fabric, c, ·⟩) := by
      rw [← error?_mapError]
      exact congrArg (fun x => Step.error? x.1) (Pool.run_onStock fabric c (Stock.populate range allowSmall) p)
    rcases Stock.populate_of_expand hunits (p.stock fabric c) with ⟨u, hu, hrecorded, hfail⟩ |
      ⟨hnew, staged, -, hdone⟩
    · rw [hanswer, hfail]
      refine ⟨iff_of_false nofun fun hnew => hnew u hu hrecorded, ?_⟩
      rintro _ ⟨⟩
      exact ⟨u, hu, hrecorded, rfl, rfl⟩
    · rw [hanswer, hdone]
      exact ⟨iff_of_true rfl hnew, nofun⟩

/-- One number may be in ranges of two roles, and links may share a block of which each has its own pairs.  Two ranges of
loopbacks that have an address in common are refused, although the second one is of a smaller block. -/
theorem populate_separate_roles :
    let settings : PoolSettings := {
      numbers := [⟨"Leaf", "64512-64513", false⟩, ⟨"Spine", "64513", false⟩]
      links := [⟨"Link", "10.1.0.0/31", true⟩, ⟨"Link", "10.1.0.2/31", true⟩] }
    let nested : PoolSettings := {
      addresses := [⟨"Loopback", "10.0.0.0/30", false⟩, ⟨"Loopback", "10.0.0.2/31", true⟩] }
    (settings.faults = [] ∧ nested.faults = []) ∧
    (∀ k, (settings.ranges k).Pairwise fun r r' => r.category = r'.category → ¬ k.Overlap r r') ∧
    ((((populate 1 settings).run.run {}).2.links.stock 1 "Link").available.size =
      (settings.links.map fun r => (Kind.link.units r).length).sum) ∧
    ∃ k c unit, ((populate 1 nested).run.run {}).1 = .error ⟨k, 1, c, .unitRecorded unit⟩ := by
  intro settings nested
  have hsettings : settings.faults = [] := by cbv
  have hnested : nested.faults = [] := by cbv
  obtain ⟨hseparate, hsizes, -, -⟩ := populate_separate 1 settings hsettings
  have hdone : ((populate 1 settings).run.run {}).1 = .ok ⟨⟩ := by cbv
  refine ⟨⟨hsettings, hnested⟩, hseparate.1 hdone, (hsizes hdone .link "Link").2, ?_⟩
  obtain ⟨hoverlap, -, hfail, -⟩ := populate_separate 1 nested hnested
  rcases hload : ((populate 1 nested).run.run {}).1 with e | _
  · obtain ⟨k, c, unit, rfl⟩ := hfail e hload
    exact ⟨k, c, unit, rfl⟩
  · have hnone : ¬ Kind.address.Overlap ⟨"Loopback", "10.0.0.0/30", false⟩ ⟨"Loopback", "10.0.0.2/31", true⟩ :=
      List.rel_of_pairwise_cons (hoverlap.1 hload .address) List.mem_cons_self rfl
    have hlarge : Kind.address.units ⟨"Loopback", "10.0.0.0/30", false⟩ =
        [.ofNat 0x0a000000, .ofNat 0x0a000001, .ofNat 0x0a000002, .ofNat 0x0a000003] := by cbv
    have hsmall : Kind.address.units ⟨"Loopback", "10.0.0.2/31", true⟩ =
        [.ofNat 0x0a000002, .ofNat 0x0a000003] := by cbv
    exact absurd ⟨.ofNat 0x0a000002, by rw [hlarge]; decide, by rw [hsmall]; decide⟩ hnone

end Pools

end FabricProvision
