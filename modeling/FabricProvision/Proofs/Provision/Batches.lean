import FabricProvision.Proofs.Provision.Clearing

/-!
# The batches of management clusters

Clusters are deleted, then updated, then created.  The deletions and the updates are gates: failures of one of these
batches are the result, and nothing of the later batches is sent to any host
(`FabricRequest.reconcileClusters_gated`).  Within a batch every cluster has its turn, in the order of the request,
whatever failed before it.
-/

namespace FabricProvision

open Dialogue Network

/-- The operations that a host is sent in pieces of work. -/
def Event.sent (host : String) (pieces : List (List Event)) : List Operation :=
  pieces.flatten.filterMap (Event.sentTo host)

namespace FabricRequest

variable (polling : Polling) (force : Bool) (batches : ClusterBatches) (n : Network)

/-- How far the batches get: the failures that are reported, the events of every deletion, update and creation, and
the network in the end. -/
inductive Gated : List Failure → List (List Event) → List (List Event) → List (List Event) → Network → Prop
  /-- Deletions that fail are the last. -/
  | deleting {failures : List Failure} {deletes : List (List Event)} {n' : Network}
      (hdeletes : InTurn adapter (fun c => c.reconcile polling .delete force) batches.delete n failures deletes n')
      (hfailed : failures ≠ []) : Gated failures deletes [] [] n'
  /-- Updates that fail are the last. -/
  | updating {failures : List Failure} {deletes updates : List (List Event)} {n₁ n' : Network}
      (hdeletes : InTurn adapter (fun c => c.reconcile polling .delete force) batches.delete n [] deletes n₁)
      (hupdates : InTurn adapter (fun c => c.reconcile polling .update force) batches.update n₁ failures updates n')
      (hfailed : failures ≠ []) : Gated failures deletes updates [] n'
  /-- Nothing failed until the creations, and these are the last in any case. -/
  | creating {failures : List Failure} {deletes updates creates : List (List Event)} {n₁ n₂ n' : Network}
      (hdeletes : InTurn adapter (fun c => c.reconcile polling .delete force) batches.delete n [] deletes n₁)
      (hupdates : InTurn adapter (fun c => c.reconcile polling .update force) batches.update n₁ [] updates n₂)
      (hcreates : InTurn adapter (createCluster polling force) batches.create n₂ failures creates n') :
      Gated failures deletes updates creates n'

private theorem gated_reconcileClusters :
    let work := reconcileClusters polling force batches
    ∃ deletes updates creates : List (List Event),
      Gated polling force batches n (work.run adapter n).1 deletes updates creates (work.run adapter n).2 ∧
        work.events adapter n = (deletes ++ updates ++ creates).flatten := by
  intro work
  obtain ⟨deletes, hdeleted, hdeletes⟩ :=
    inTurn_fanOut adapter batches.delete (fun c => c.reconcile polling .delete force) n
  unfold work reconcileClusters
  rw [run_stop, run_stop, events_stop, events_stop, hdeleted]
  generalize (fanOut batches.delete fun c => c.reconcile polling .delete force).run adapter n = deletion at *
  obtain ⟨failures, n₁⟩ := deletion
  by_cases hclean : failures = []
  · subst hclean
    obtain ⟨updates, hupdated, hupdates⟩ :=
      inTurn_fanOut adapter batches.update (fun c => c.reconcile polling .update force) n₁
    simp only [if_true, hupdated]
    generalize (fanOut batches.update fun c => c.reconcile polling .update force).run adapter n₁ = update at *
    obtain ⟨failures, n₂⟩ := update
    by_cases hclean : failures = []
    · subst hclean
      obtain ⟨creates, hcreated, hcreates⟩ := inTurn_fanOut adapter batches.create (createCluster polling force) n₂
      simp only [if_true, hcreated]
      exact ⟨deletes, updates, creates, .creating hdeletes hupdates hcreates, by simp⟩
    · simp only [if_neg hclean]
      exact ⟨deletes, updates, [], .updating hdeletes hupdates hclean, by simp⟩
  · simp only [if_neg hclean]
    exact ⟨deletes, [], [], .deleting hdeletes hclean, by simp⟩

variable {polling force batches n}

/-- Whether a created cluster is cleared is a matter of the cluster, of force, and of who accepts logins. -/
private theorem Gated.cleared {failures : List Failure} {deletes updates creates : List (List Event)} {n' : Network}
    (h : Gated polling force batches n failures deletes updates creates n') :
    creates = [] ∨ List.Forall₂ (fun (c : ClusterSpec) es => c.nodes.length ≤ ClusterSpec.maxNodes →
      c.ClearedIf polling (force || c.updates.contains .forceCreate) n es) batches.create creates := by
  cases h with
  | deleting => exact .inl rfl
  | updating => exact .inl rfl
  | creating hdeletes hupdates hcreates =>
    -- The earlier batches change nothing about logins.
    have hdeleted : n.SameLogins _ := hdeletes.keeps (fun _ _ hm => hm.run _) fun _ => rfl
    have hupdated := hupdates.keeps (fun _ _ hm => hm.run _) hdeleted
    exact .inr (hcreates.each (fun _ _ hm => hm.run _) hupdated fun c _ m hm hsize =>
      c.clearedIf_create polling hsize hm _)

/-- Batches of clusters are ordered and gated.  The deletions report failures and are the last, or the updates do, or
the creations have their turn; what is reported are the failures of the last batch, cluster by cluster, and the run
has no other events than those of the clusters that had their turn.  Every device is sent all operations of the
deletions before those of the updates, and these before those of the creations.  A cluster that is created and has
not too many nodes is cleared first exactly if there is force or it asks for it itself. -/
theorem reconcileClusters_gated (polling : Polling) (force : Bool) (batches : ClusterBatches) (n : Network) :
    let work := reconcileClusters polling force batches
    let n' := (work.run adapter n).2
    ∃ deletes updates creates : List (List Event),
      Gated polling force batches n (work.run adapter n).1 deletes updates creates n' ∧
      work.events adapter n = (deletes ++ updates ++ creates).flatten ∧
      (∀ host, (n.device? host).isSome → n'.journal host = n.journal host ++
        (Event.sent host deletes ++ Event.sent host updates ++ Event.sent host creates)) ∧
      (creates = [] ∨ List.Forall₂ (fun (c : ClusterSpec) es => c.nodes.length ≤ ClusterSpec.maxNodes →
        c.ClearedIf polling (force || c.updates.contains .forceCreate) n es) batches.create creates) := by
  intro work n'
  obtain ⟨deletes, updates, creates, hgated, hevents⟩ := gated_reconcileClusters polling force batches n
  refine ⟨deletes, updates, creates, hgated, hevents, fun host hhost => ?_, hgated.cleared⟩
  unfold n' Event.sent
  rw [journal_run work n hhost, hevents]
  simp only [List.flatten_append, List.filterMap_append]

end FabricRequest

end FabricProvision
