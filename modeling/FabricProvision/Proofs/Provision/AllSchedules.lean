import FabricProvision.Proofs.Dialogue.Covered
import FabricProvision.Proofs.Provision.Blame
import FabricProvision.Proofs.Provision.Footprints
import FabricProvision.Proofs.Provision.Spared
import FabricProvision.Provision.Concurrent

/-!
# Provisioning, whatever the schedule

The dialogues of provisioning are those of the list-order schedules (`FabricRequest.mayBe_configure`), and they
cover the concurrent work (`FabricRequest.covered_configure`).  So whatever is known of a run because of the
operations that it may send, and because of the failures that it may end with, is known under every schedule: that it
leaves undeclared hosts alone (`FabricRequest.device?_scheduled`) and does not blame them
(`FabricRequest.blames_scheduled`), that without force nothing that exists is replaced
(`FabricRequest.spares_scheduled`), and what the last two stages send and report (`FabricRequest.finish_scheduled`).
-/

namespace FabricProvision

open Concurrent

/-! ### Switches -/

namespace DataPlaneSpec

variable (d : DataPlaneSpec)

theorem mayBe_remove : d.removeConcurrently.MayBe d.remove := mayBe_fanOut fun _ _ => rfl

theorem mayBe_add : d.addConcurrently.MayBe d.add := mayBe_fanOut fun _ _ => rfl

theorem covered_remove : d.removeConcurrently.CoveredBy d.remove :=
  covered_fanOut fun _ _ => covered_only List.Perm.refl _

theorem covered_add : d.addConcurrently.CoveredBy d.add := covered_fanOut fun _ _ => covered_only List.Perm.refl _

end DataPlaneSpec

namespace SwitchSpec

variable (t : Topology) (force : Bool) (s : SwitchSpec)

/-- The work on a switch, with the work on its data-plane neighbors as it is given. -/
def configureWith (removal addition : Dialogue (List Failure)) : Dialogue (List Failure) :=
  Dialogue.session "Configure Switch Login" s.host s.credentials <| Dialogue.collect <|
    [s.provisionSystem t force, s.provisionInterfaces, s.provisionBgp t, removal] ++
      (if s.isOverlay t then [s.provisionEvpn force] else []) ++ [addition]

/-- The stages of a switch, each with the concurrent work that it is. -/
theorem forall₂_stages {R : Concurrent (List Failure) → Dialogue (List Failure) → Prop} (honly : ∀ x, R (only x) x)
    {removal addition : Dialogue (List Failure)} (hremoval : R s.staleDataPlane.removeConcurrently removal)
    (haddition : R s.dataPlane.addConcurrently addition) :
    List.Forall₂ R
      ([only (s.provisionSystem t force), only s.provisionInterfaces, only (s.provisionBgp t),
        s.staleDataPlane.removeConcurrently] ++
        (if s.isOverlay t then [only (s.provisionEvpn force)] else []) ++ [s.dataPlane.addConcurrently])
      ([s.provisionSystem t force, s.provisionInterfaces, s.provisionBgp t, removal] ++
        (if s.isOverlay t then [s.provisionEvpn force] else []) ++ [addition]) := by
  refine List.rel_append (List.rel_append ?_ ?_) (.cons haddition .nil)
  · exact .cons (honly _) (.cons (honly _) (.cons (honly _) (.cons hremoval .nil)))
  · split
    · exact .cons (honly _) .nil
    · exact .nil

variable {s} in
theorem mayBe_configureWith {removal addition : Dialogue (List Failure)}
    (hremoval : s.staleDataPlane.removeConcurrently.MayBe removal)
    (haddition : s.dataPlane.addConcurrently.MayBe addition) :
    (s.configureConcurrently t force).MayBe (s.configureWith t force removal addition) :=
  mayBe_session (mayBe_collect (s.forall₂_stages t force (fun _ => rfl) hremoval haddition))

theorem mayBe_configure : (s.configureConcurrently t force).MayBe (s.configure t force) :=
  mayBe_configureWith t force s.staleDataPlane.mayBe_remove s.dataPlane.mayBe_add

theorem covered_configure : (s.configureConcurrently t force).CoveredBy (s.configure t force) :=
  covered_session (covered_collect (s.forall₂_stages t force (covered_only List.Perm.refl)
    s.staleDataPlane.covered_remove s.dataPlane.covered_add))

end SwitchSpec

/-! ### Management clusters -/

namespace ClusterSpec

variable (c : ClusterSpec) (polling : Polling) (force : Bool)

/-- The nodes cleared one after the other. -/
private theorem clearAll_eq : c.clearAll = (do
    let _ ← Dialogue.fanOut c.nodes fun x => do
      c.clearOn x
      return []
    return ⟨⟩) := by
  unfold clearAll Dialogue.fanOut
  induction c.nodes with
  | nil => rfl
  | cons x rest ih =>
    simp only [List.forM_eq_forM, List.forM_cons, List.map_cons, Dialogue.collect, bind_assoc, pure_bind] at ih ⊢
    rw [ih]

theorem mayBe_clear : c.clearConcurrently.MayBe c.clearAll := by
  rw [clearAll_eq]
  exact mayBe_bind (mayBe_fanOut fun x _ => mayBe_bind rfl fun _ => rfl) fun _ => rfl

theorem covered_clear : Covered Eq c.clearConcurrently c.clearAll := by
  rw [clearAll_eq]
  refine covered_bind (covered_fanOut fun x _ => ?_) fun _ _ _ => covered_pure rfl
  exact covered_bind (covered_only (fun _ => rfl) _) fun _ _ _ => covered_pure (List.Perm.refl [])

theorem mayBe_clearAndPoll : (c.clearAndPollConcurrently polling).MayBe (c.clearAndPoll polling) :=
  mayBe_bind c.mayBe_clear fun _ => mayBe_fanOut fun _ _ => rfl

theorem covered_clearAndPoll : (c.clearAndPollConcurrently polling).CoveredBy (c.clearAndPoll polling) :=
  covered_bind c.covered_clear fun _ _ _ => covered_fanOut fun _ _ => covered_only List.Perm.refl _

theorem mayBe_pollMembers : (c.pollMembersConcurrently polling).MayBe (c.pollMembers polling) :=
  mayBe_fanOut fun _ _ => rfl

theorem covered_pollMembers : (c.pollMembersConcurrently polling).CoveredBy (c.pollMembers polling) :=
  covered_fanOut fun _ _ => covered_only List.Perm.refl _

/-- The creation of the cluster, with the work on its nodes as it is given. -/
def createWith (clearing creation polls : Dialogue (List Failure)) : Dialogue (List Failure) := do
  if c.nodes.length > maxNodes then
    return [⟨"Configure Management Cluster", c.hosts.headD "", .precondition tooManyNodes⟩]
  let early ← clearing
  let errors ← creation
  if errors.isEmpty then return early ++ (← polls) else return early ++ errors

variable {c} in
theorem mayBe_createWith {clearing creation polls : Dialogue (List Failure)}
    (hclearing : (if force then c.clearAndPollConcurrently polling else pure []).MayBe clearing)
    (hcreation : (fanOut c.nodes fun x => only (c.createOn x)).MayBe creation)
    (hpolls : (c.pollMembersConcurrently polling).MayBe polls) :
    (c.createConcurrently polling force).MayBe (c.createWith clearing creation polls) := by
  unfold createConcurrently createWith
  split
  · rfl
  · cases force
    all_goals
      refine mayBe_bind hclearing fun early => mayBe_bind hcreation fun errors => ?_
      split
      · exact mayBe_bind hpolls fun _ => rfl
      · rfl

theorem mayBe_create : (c.createConcurrently polling force).MayBe (c.create polling force) := by
  have hcreation : (fanOut c.nodes fun x => only (c.createOn x)).MayBe (Dialogue.fanOut c.nodes c.createOn) :=
    mayBe_fanOut fun _ _ => rfl
  cases force
  · exact mayBe_createWith polling false rfl hcreation (c.mayBe_pollMembers polling)
  · exact mayBe_createWith polling true (c.mayBe_clearAndPoll polling) hcreation (c.mayBe_pollMembers polling)

theorem covered_create : (c.createConcurrently polling force).CoveredBy (c.create polling force) := by
  have hcreate : (fanOut c.nodes fun x => only (c.createOn x)).CoveredBy (Dialogue.fanOut c.nodes c.createOn) :=
    covered_fanOut fun _ _ => covered_only List.Perm.refl _
  have hpoll : ∀ early early' : List Failure, early.Perm early' → CoveredBy (do
      let late ← c.pollMembersConcurrently polling
      return early ++ late) (do
        let late ← c.pollMembers polling
        return early' ++ late) := fun _ _ hearly =>
    covered_bind (c.covered_pollMembers polling) fun _ _ hlate => covered_pure (hearly.append hlate)
  unfold createConcurrently create
  split
  · exact covered_pure (List.Perm.refl _)
  · cases force
    all_goals simp only [if_true, if_false, Bool.false_eq_true]
    · refine covered_bind (covered_pure (List.Perm.refl [])) fun early early' hearly => ?_
      refine covered_bind hcreate fun errors errors' herrors => ?_
      rw [herrors.isEmpty_eq]
      split
      · exact hpoll early early' hearly
      · exact covered_pure (hearly.append herrors)
    · refine covered_bind (c.covered_clearAndPoll polling) fun early early' hearly => ?_
      refine covered_bind hcreate fun errors errors' herrors => ?_
      rw [herrors.isEmpty_eq]
      split
      · exact hpoll early early' hearly
      · exact covered_pure (hearly.append herrors)

theorem mayBe_reconcile (action : ClusterAction) :
    (c.reconcileConcurrently polling action force).MayBe (c.reconcile polling action force) := by
  cases action with
  | create => exact c.mayBe_create polling force
  | update => exact mayBe_collect (.cons (mayBe_fanOut fun _ _ => rfl) (.cons (c.mayBe_pollMembers polling) .nil))
  | delete => exact mayBe_fanOut fun _ _ => rfl

theorem covered_reconcile (action : ClusterAction) :
    (c.reconcileConcurrently polling action force).CoveredBy (c.reconcile polling action force) := by
  cases action with
  | create => exact c.covered_create polling force
  | update =>
    exact covered_collect (.cons (covered_fanOut fun _ _ => covered_only List.Perm.refl _)
      (.cons (c.covered_pollMembers polling) .nil))
  | delete => exact covered_fanOut fun _ _ => covered_only List.Perm.refl _

end ClusterSpec

/-! ### Fabrics -/

namespace FabricRequest

variable (polling : Polling) (force : Bool) (r : FabricRequest) (save : Bool)

theorem mayBe_configureSwitches : (r.configureSwitchesConcurrently force).MayBe (r.configureSwitches force) :=
  mayBe_fanOut fun s _ => s.mayBe_configure r.topology force

theorem covered_configureSwitches : (r.configureSwitchesConcurrently force).CoveredBy (r.configureSwitches force) :=
  covered_fanOut fun s _ => s.covered_configure r.topology force

theorem mayBe_reconcileClusters (batches : ClusterBatches) :
    (reconcileClustersConcurrently polling force batches).MayBe (reconcileClusters polling force batches) := by
  refine mayBe_stop (mayBe_fanOut fun c _ => c.mayBe_reconcile polling force .delete) (mayBe_stop ?_
    (mayBe_fanOut fun c _ => c.mayBe_reconcile polling _ .create))
  refine mayBe_collect (List.forall₂_map_left_iff.2 (List.forall₂_map_right_iff.2 (List.forall₂_same.2 fun c _ => ?_)))
  exact c.mayBe_reconcile polling force .update

theorem covered_reconcileClusters (batches : ClusterBatches) :
    (reconcileClustersConcurrently polling force batches).CoveredBy (reconcileClusters polling force batches) := by
  refine covered_stop (covered_fanOut fun c _ => c.covered_reconcile polling force .delete) (covered_stop ?_
    (covered_fanOut fun c _ => c.covered_reconcile polling _ .create))
  refine covered_collect (List.forall₂_map_left_iff.2 (List.forall₂_map_right_iff.2
    (List.forall₂_same.2 fun c _ => ?_)))
  exact c.covered_reconcile polling force .update

theorem mayBe_finish : (r.finishConcurrently force save).MayBe (r.finish force save) := by
  refine mayBe_bind rfl fun principals => mayBe_bind (mayBe_fanOut fun _ _ => rfl) fun errors => ?_
  cases save
  all_goals simp only [if_true, if_false, Bool.false_eq_true]
  · exact mayBe_bind rfl fun _ => rfl
  · exact mayBe_bind (mayBe_fanOut fun _ _ => rfl) fun _ => rfl

theorem covered_finish : (r.finishConcurrently force save).CoveredBy (r.finish force save) := by
  refine covered_bind (covered_only (fun _ => rfl) _) ?_
  rintro principals _ rfl
  refine covered_bind (covered_fanOut fun _ _ => covered_only List.Perm.refl _) fun errors errors' herrors => ?_
  cases save
  all_goals simp only [if_true, if_false, Bool.false_eq_true]
  · exact covered_bind (covered_pure (List.Perm.refl [])) fun _ _ hlate => covered_pure (herrors.append hlate)
  · exact covered_bind (covered_fanOut fun _ _ => covered_only List.Perm.refl _)
      fun _ _ hlate => covered_pure (herrors.append hlate)

/-- The list-order schedule is one of the schedules. -/
theorem mayBe_configure : (r.configureConcurrently polling force save).MayBe (r.configure polling force save) :=
  mayBe_stop (r.mayBe_configureSwitches force)
    (mayBe_stop (mayBe_reconcileClusters polling force r.clusters) (r.mayBe_finish force save))

/-- The list-order schedule covers all schedules. -/
theorem covered_configure :
    (r.configureConcurrently polling force save).CoveredBy (r.configure polling force save) :=
  covered_stop (r.covered_configureSwitches force)
    (covered_stop (covered_reconcileClusters polling force r.clusters) (r.covered_finish force save))

variable {polling} {force} {r} {save} {x : Dialogue (List Failure)}

/-- Under every schedule the devices of hosts that the request does not declare stay as they are. -/
theorem device?_scheduled (hx : (r.configureConcurrently polling force save).MayBe x) {host : String}
    (hhost : host ∉ r.hosts) (n : Network) : (x.run Network.adapter n).2.device? host = n.device? host :=
  Network.device?_run ((r.covered_configure polling force save).allStay
    (r.stays_configure_hosts polling force save) x hx) (fun _ hop => hhost hop) n

/-- Under every schedule the failures are those of hosts that the request declares, and a failed login is what the
network answers. -/
theorem blames_scheduled (hx : (r.configureConcurrently polling force save).MayBe x) (n : Network) :
    ∀ f ∈ (x.run Network.adapter n).1, f.Blames (· ∈ r.hosts) n := by
  have hblames : n.Blames (· ∈ r.hosts) x := by
    intro failures hends f hf
    obtain ⟨failures', hends', hperm⟩ := (r.covered_configure polling force save).ends x hx _ failures hends
    exact r.blames_configure polling force save n failures' hends' f (hperm.mem_iff.1 hf)
  exact hblames.run fun _ => rfl

/-- Under every schedule a run without force replaces nothing that exists: operations that take something away only
go to clusters to be deleted or created from scratch, and the unique objects and the other clusters stay. -/
theorem spares_scheduled (hx : (r.configureConcurrently polling false save).MayBe x) (n : Network) :
    let n' := (x.run Network.adapter n).2
    (∀ host, ∃ ops, n'.journal host = n.journal host ++ ops ∧
      ∀ op ∈ ops, op.replaces = false ∧ (op.clears = true → host ∈ r.clearedHosts)) ∧
    n.Relates (fun host => Device.Spared (host ∈ r.clearedHosts)) n' :=
  Network.spares_of_stays ((r.covered_configure polling false save).allStay
    (r.stays_configure_sparing polling save) x hx) n

/-- Under every schedule the last two stages only send questions for principals and operations about overlay gateways
and saving, and they report nothing but the failures of these. -/
theorem finish_scheduled (force : Bool) (r : FabricRequest) (save : Bool) :
    (r.finishConcurrently force save).Within finishScope fun failures =>
      ∀ f ∈ failures, f.operation = "Configure Overlay Gateway" ∨ f.operation = "Persist Config" :=
  (r.covered_finish force save).within (r.within_finish force save)

end FabricRequest

end FabricProvision
