import FabricProvision.Provision.Failure
import Mathlib.Data.List.Basic

/-!
# Reports

A report lists failures by host, and those of one host in the order in which they arose (`Failure.ofHost_report`).
So it depends on nothing but what arose at each host: lists with the same failures of each host have the same
report (`Failure.report_congr`), however the failures of different hosts are mixed in them.
-/

namespace FabricProvision.Failure

variable {fs gs : List Failure} {host : String}

/-- The failures of one host, in the order of the list. -/
def ofHost (host : String) (fs : List Failure) : List Failure := fs.filter (·.host == host)

@[simp] theorem mem_ofHost {f : Failure} : f ∈ ofHost host fs ↔ f ∈ fs ∧ f.host = host := by simp [ofHost]

/-- What is found at different places, each with the failures of its own host: those of one host are what is found at
its place. -/
theorem ofHost_flatMap {ι : Type} {targets : List ι} {place : ι → String} {found : ι → List Failure}
    (hdistinct : targets.Pairwise fun a b => place a ≠ place b)
    (hfound : ∀ a ∈ targets, ∀ f ∈ found a, f.host = place a) {a : ι} (ha : a ∈ targets) :
    ofHost (place a) (targets.flatMap found) = found a := by
  have hnone : ∀ b ∈ targets, place b ≠ place a → ofHost (place a) (found b) = [] := by
    refine fun b hb hne => List.eq_nil_iff_forall_not_mem.2 fun f hf => ?_
    obtain ⟨hf, hhost⟩ := mem_ofHost.1 hf
    exact hne ((hfound b hb f hf).symm.trans hhost)
  induction targets with
  | nil => cases ha
  | cons b rest ih =>
    obtain ⟨hne, hrest⟩ := List.pairwise_cons.1 hdistinct
    have happend : ofHost (place a) ((b :: rest).flatMap found) =
        ofHost (place a) (found b) ++ ofHost (place a) (rest.flatMap found) := List.filter_append ..
    rw [happend]
    rcases List.mem_cons.1 ha with rfl | ha
    · have hself : ofHost (place a) (found a) = found a :=
        List.filter_eq_self.2 fun f hf => beq_iff_eq.2 (hfound a List.mem_cons_self f hf)
      have hothers : ofHost (place a) (rest.flatMap found) = [] := by
        refine List.eq_nil_iff_forall_not_mem.2 fun f hf => ?_
        obtain ⟨hf, hhost⟩ := mem_ofHost.1 hf
        obtain ⟨b, hb, hf⟩ := List.mem_flatMap.1 hf
        exact hne b hb (hhost.symm.trans (hfound b (List.mem_cons_of_mem a hb) f hf))
      rw [hself, hothers, List.append_nil]
    · rw [hnone b List.mem_cons_self (hne a ha), List.nil_append]
      exact ih hrest (fun c hc => hfound c (List.mem_cons_of_mem b hc)) ha
        fun c hc => hnone c (List.mem_cons_of_mem b hc)

/-- Of what is found at places apart, at most one piece has failures of a host. -/
theorem ofHost_lone {ι : Type} {targets : List ι} {place : ι → String → Prop} {found : ι → List Failure}
    (hapart : targets.Pairwise fun a b => ∀ host, place a host → ¬ place b host)
    (hfound : ∀ a ∈ targets, ∀ f ∈ found a, place a f.host) (host : String) :
    targets.Pairwise fun a b => ofHost host (found a) = [] ∨ ofHost host (found b) = [] := by
  have hnone : ∀ a ∈ targets, ¬ place a host → ofHost host (found a) = [] := by
    refine fun a ha hplace => List.eq_nil_iff_forall_not_mem.2 fun f hf => ?_
    obtain ⟨hmem, rfl⟩ := mem_ofHost.1 hf
    exact hplace (hfound a ha f hmem)
  refine hapart.imp_of_mem fun {a b} ha hb hab => ?_
  by_cases hplace : place a host
  · exact .inr (hnone b hb (hab host hplace))
  · exact .inl (hnone a ha hplace)

/-- A failure may stand before another one in a report. -/
private def precedes (f g : Failure) : Bool := !(compare f.host g.host).isGT

private theorem precedes_eq (f g : Failure) : precedes f g = (compare f.host g.host).isLE := by
  unfold precedes
  cases compare f.host g.host <;> rfl

private theorem precedes_trans (f g h : Failure) (hfg : precedes f g) (hgh : precedes g h) : precedes f h := by
  rw [precedes_eq] at *
  exact Std.TransCmp.isLE_trans hfg hgh

private theorem precedes_total (f g : Failure) : precedes f g || precedes g f := by
  have hswap : compare g.host f.host = (compare f.host g.host).swap := Std.OrientedCmp.eq_swap
  rw [precedes_eq, precedes_eq, hswap]
  cases compare f.host g.host <;> rfl

private theorem host_eq_of_precedes {f g : Failure} (hfg : precedes f g) (hgf : precedes g f) : f.host = g.host := by
  rw [precedes_eq] at *
  exact Std.LawfulEqCmp.eq_of_compare (Std.OrientedCmp.isLE_antisymm hfg hgf)

private theorem sorted_report (fs : List Failure) : (report fs).Pairwise fun f g => precedes f g :=
  List.pairwise_mergeSort precedes_trans precedes_total fs

theorem report_perm (fs : List Failure) : (report fs).Perm fs := List.mergeSort_perm fs precedes

/-- The failures of one host keep their order in a report. -/
theorem ofHost_report (host : String) (fs : List Failure) : ofHost host (report fs) = ofHost host fs := by
  -- They precede each other, so that sorting keeps them as a sublist; it does not add any.
  have hsorted : (ofHost host fs).Pairwise fun f g => precedes f g := by
    refine List.pairwise_of_forall_mem_list fun f hf g hg => ?_
    have hequal : compare f.host g.host = .eq := by
      rw [(mem_ofHost.1 hf).2, (mem_ofHost.1 hg).2]
      exact Std.ReflCmp.compare_self
    rw [precedes_eq, hequal]
    rfl
  have hkept : (ofHost host fs).Sublist (report fs) :=
    List.sublist_mergeSort precedes_trans precedes_total hsorted List.filter_sublist
  have hfiltered : (ofHost host fs).Sublist (ofHost host (report fs)) := by
    have h := hkept.filter (·.host == host)
    simpa only [ofHost, List.filter_filter, Bool.and_self] using h
  have hlength : (ofHost host fs).length = (ofHost host (report fs)).length :=
    ((report_perm fs).filter _).length_eq.symm
  exact (hfiltered.eq_of_length hlength).symm

private theorem mem_of_ofHost (h : ∀ host, ofHost host fs = ofHost host gs) {f : Failure} (hf : f ∈ fs) : f ∈ gs := by
  have hhost : f ∈ ofHost f.host fs := mem_ofHost.2 ⟨hf, rfl⟩
  rw [h f.host] at hhost
  exact (mem_ofHost.1 hhost).1

/-- Sorted lists with the same failures of each host are the same. -/
private theorem eq_of_sorted (hfs : fs.Pairwise fun f g => precedes f g) (hgs : gs.Pairwise fun f g => precedes f g)
    (h : ∀ host, ofHost host fs = ofHost host gs) : fs = gs := by
  induction fs generalizing gs with
  | nil =>
    cases gs with
    | nil => rfl
    | cons g rest => exact absurd (mem_of_ofHost (fun host => (h host).symm) List.mem_cons_self) List.not_mem_nil
  | cons f fs ih =>
    have hf : f ∈ gs := mem_of_ofHost h List.mem_cons_self
    cases gs with
    | nil => cases hf
    | cons g gs =>
      have hg : g ∈ f :: fs := mem_of_ofHost (fun host => (h host).symm) List.mem_cons_self
      rw [List.pairwise_cons] at hfs hgs
      -- Both heads precede everything, so they are failures of the same host, and the first ones of it.
      have hhost : f.host = g.host := by
        rcases List.mem_cons.1 hf with rfl | hf
        · rfl
        · rcases List.mem_cons.1 hg with rfl | hg
          · rfl
          · exact host_eq_of_precedes (hfs.1 g hg) (hgs.1 f hf)
      have hfirst : f = g := by
        have hheads := h g.host
        simp only [ofHost, List.filter_cons, hhost, beq_self_eq_true, if_true] at hheads
        exact (List.cons.inj hheads).1
      subst hfirst
      have htails : ∀ host, ofHost host fs = ofHost host gs := by
        intro host
        have hall := h host
        simp only [ofHost, List.filter_cons] at hall
        split at hall
        · exact (List.cons.inj hall).2
        · exact hall
      rw [ih hfs.2 hgs.2 htails]

/-- A report depends on nothing but the failures of each host. -/
theorem report_congr (h : ∀ host, ofHost host fs = ofHost host gs) : report fs = report gs := by
  refine eq_of_sorted (sorted_report fs) (sorted_report gs) fun host => ?_
  rw [ofHost_report, ofHost_report, h host]

end FabricProvision.Failure
