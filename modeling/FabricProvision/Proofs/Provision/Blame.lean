import FabricProvision.Proofs.Device.Journals
import FabricProvision.Proofs.Dialogue.Ends
import FabricProvision.Proofs.Provision.Footprints

/-!
# What failures name

A failure that a run reports names a host that the work is for.  If it is that no session could be opened, it is
what the network answers to logins at this host (`Failure.Blames`): work in a session never makes up a failed
login.  The hosts that the work on a switch may blame are its footprint (`SwitchSpec.blames_configure`), those of
a whole run the hosts of the request (`FabricRequest.blames_configure`).
-/

namespace FabricProvision

open Dialogue Network

/-- The failure is one of certain hosts, and as a failed login it is the answer of the network. -/
structure Failure.Blames (f : Failure) (hosts : String → Prop) (n : Network) : Prop where
  host : hosts f.host
  login : ∀ e, f.cause = .login e → n.login f.host = .error e

namespace Network

variable {α : Type} {hosts : String → Prop} {n : Network}

/-- As long as logins are answered as they are now, the work only blames certain hosts. -/
def Blames (n : Network) (hosts : String → Prop) (x : Dialogue (List Failure)) : Prop :=
  ∀ failures, x.Ends (fun host answer => answer = n.login host) failures → ∀ f ∈ failures, f.Blames hosts n

/-- So does a run, whatever happened to the network before it that changed no answer to a login. -/
theorem Blames.run {x : Dialogue (List Failure)} (h : n.Blames hosts x) {m : Network} (hm : n.SameLogins m) :
    ∀ f ∈ (x.run adapter m).1, f.Blames hosts n :=
  h _ (ends_run adapter (fun host _ _ hm => ⟨hm host, hm⟩) (fun host op _ hm => hm.run (send host op)) x hm)

/-! ### Putting work together -/

theorem blames_nil : n.Blames hosts (pure []) := by
  rintro failures rfl f hf
  cases hf

/-- Whatever other work finds out before. -/
theorem blames_after {x : Dialogue α} {g : α → Dialogue (List Failure)} (hg : ∀ a, n.Blames hosts (g a)) :
    n.Blames hosts (x >>= g) := by
  intro failures hends
  obtain ⟨a, -, hends⟩ := ends_bind.1 hends
  exact hg a failures hends

/-- What is reported early is reported with what comes later. -/
theorem blames_bind {x : Dialogue (List Failure)} {g : List Failure → Dialogue (List Failure)}
    (hx : n.Blames hosts x) (hg : ∀ fs, (∀ f ∈ fs, f.Blames hosts n) → n.Blames hosts (g fs)) :
    n.Blames hosts (x >>= g) := by
  intro failures hends
  obtain ⟨early, hearly, hends⟩ := ends_bind.1 hends
  exact hg early (hx early hearly) failures hends

theorem blames_append {early late : List Failure} (hearly : ∀ f ∈ early, f.Blames hosts n)
    (hlate : ∀ f ∈ late, f.Blames hosts n) : n.Blames hosts (pure (early ++ late)) := by
  rintro failures rfl f hf
  rcases List.mem_append.1 hf with hf | hf
  · exact hearly f hf
  · exact hlate f hf

theorem blames_collect {works : List (Dialogue (List Failure))} (h : ∀ work ∈ works, n.Blames hosts work) :
    n.Blames hosts (collect works) := by
  induction works with
  | nil => exact blames_nil
  | cons work rest ih =>
    refine blames_bind (h work (by simp)) fun first hfirst => ?_
    exact blames_bind (ih fun w hw => h w (by simp [hw])) fun later hlater => blames_append hfirst hlater

theorem blames_fanOut {targets : List α} {work : α → Dialogue (List Failure)}
    (h : ∀ a ∈ targets, n.Blames hosts (work a)) : n.Blames hosts (fanOut targets work) := by
  refine blames_collect fun w hw => ?_
  obtain ⟨a, ha, rfl⟩ := List.mem_map.1 hw
  exact h a ha

theorem blames_stop {x y : Dialogue (List Failure)} (hx : n.Blames hosts x) (hy : n.Blames hosts y) :
    n.Blames hosts (do
      let errors ← x
      if !errors.isEmpty then return errors
      y) := by
  refine blames_bind hx fun errors herrors => ?_
  split
  · rintro failures rfl
    exact herrors
  · exact hy

theorem Blames.widen {hosts' : String → Prop} {x : Dialogue (List Failure)} (h : n.Blames hosts x)
    (hhosts : ∀ host, hosts host → hosts' host) : n.Blames hosts' x :=
  fun failures hends f hf => ⟨hhosts _ (h failures hends f hf).host, (h failures hends f hf).login⟩

/-! ### Sessions -/

variable {operation host : String} {credentials : Credentials}

/-- A login that fails is reported as it is answered. -/
theorem blames_session {work : Dialogue (List Failure)} (hhost : hosts host) (hwork : n.Blames hosts work) :
    n.Blames hosts (session operation host credentials work) := by
  intro failures hends
  obtain ⟨answer, ⟨_, hlogin, rfl⟩, hends⟩ := ends_bind.1 hends
  rcases answer with e | u
  · cases hends
    refine fun f hf => ?_
    cases List.mem_singleton.1 hf
    refine ⟨hhost, fun e' he' => ?_⟩
    cases he'
    exact hlogin.symm
  · exact hwork failures hends

/-- Steps in a session report no failed login. -/
theorem blames_of_inSession {scope : Scope} {x : Dialogue (List Failure)} (hhost : hosts host)
    (hx : x.Within scope fun failures => ∀ f ∈ failures, f.InSession host) : n.Blames hosts x := by
  intro failures hends f hf
  have hf := (within_iff.1 hx).2 failures hends.mayEnd f hf
  exact ⟨hf.host.symm ▸ hhost, fun e he => absurd he (hf.notLogin e)⟩

end Network

/-! ### Work in a session -/

namespace Dialogue

variable {α : Type} {host operation : String}

/-- Without restrictions on hosts and operations. -/
private def everything : Scope := ⟨fun _ => True, fun _ _ => True⟩

/-- Whatever is answered, the work does not end with a failed login. -/
private def NoLogin (x : Dialogue (Except FailureCause Unit)) : Prop :=
  x.Within everything fun answer => ∀ e, answer ≠ .error (.login e)

private theorem noLogin_after {x : Dialogue α} {g : α → Dialogue (Except FailureCause Unit)}
    (hg : ∀ a, NoLogin (g a)) : NoLogin (x >>= g) := Within.bind (stays_any x) fun a _ => hg a

private theorem noLogin_perform (op : Operation) : NoLogin (perform host op) :=
  noLogin_after fun answer => by cases answer <;> exact within_pure (by simp)

private theorem noLogin_provision (i : InterfaceSpec) : NoLogin (i.provision host) := by
  have hnothing : NoLogin InterfaceSpec.nothing := within_pure (by simp)
  unfold InterfaceSpec.provision InterfaceSpec.provisionLoopback InterfaceSpec.provisionUnnumbered
    InterfaceSpec.provisionNumbered
  split
  · split <;> first | exact noLogin_perform _ | exact hnothing
  · split
    · split <;> first
        | exact noLogin_perform _
        | exact noLogin_after fun _ => noLogin_perform _
        | exact noLogin_after fun _ => hnothing
        | exact hnothing
    · split <;> first
        | exact noLogin_perform _
        | exact noLogin_after fun _ => noLogin_perform _
        | exact hnothing

private theorem noLogin_ensure {object : UniqueObject} {desired : String} {create : Operation} {force : Bool} :
    NoLogin (object.ensure host desired create force) := by
  refine noLogin_after fun existing => ?_
  split
  · exact noLogin_perform _
  · split
    · exact noLogin_after fun _ => noLogin_perform _
    · exact within_pure (by simp)

private theorem noLogin_pollMembership (intended : List String) (queries : Nat) :
    NoLogin (pollMembership host intended queries) := by
  induction queries with
  | zero => exact within_pure (by simp)
  | succ queries ih =>
    refine noLogin_after fun answer => ?_
    split
    · split
      · exact within_pure (by simp)
      · exact ih
    · exact ih

private theorem inSession_step {work : Dialogue (Except FailureCause Unit)} (h : NoLogin work) :
    (step operation host work).Within everything fun failures => ∀ f ∈ failures, f.InSession host := by
  refine Within.bind h fun answer hanswer => ?_
  cases answer with
  | ok u => exact within_pure (by simp)
  | error cause =>
    refine within_pure fun f hf => ?_
    cases List.mem_singleton.1 hf
    exact ⟨rfl, fun e he => hanswer e (by rw [← he])⟩

end Dialogue

variable {n : Network} {hosts : String → Prop}

private theorem blames_step {operation host : String} {work : Dialogue (Except FailureCause Unit)}
    (hhost : hosts host) (h : NoLogin work) : n.Blames hosts (step operation host work) :=
  blames_of_inSession hhost (inSession_step h)

private theorem blames_performStep {operation host : String} {op : Operation} (hhost : hosts host) :
    n.Blames hosts (performStep operation host op) := blames_step hhost (noLogin_perform op)

/-! ### Switches -/

namespace DataPlaneNode

variable (m : DataPlaneNode) (hhost : hosts m.host)

include hhost

theorem blames_remove : n.Blames hosts m.remove := by
  refine blames_session hhost (blames_step hhost (noLogin_after fun answer => ?_))
  split
  · exact within_pure (by simp)
  · split
    · exact noLogin_perform _
    · exact within_pure (by simp)

theorem blames_add : n.Blames hosts m.add :=
  blames_session hhost (blames_step hhost (noLogin_after fun _ => noLogin_perform _))

end DataPlaneNode

namespace SwitchSpec

variable (t : Topology) (force : Bool) (s : SwitchSpec)

private theorem blames_provisionSystem (hhost : hosts s.host) : n.Blames hosts (s.provisionSystem t force) := by
  refine blames_collect fun work hwork => ?_
  rcases List.mem_append.1 hwork with hwork | hwork
  · simp only [List.mem_cons, List.not_mem_nil, or_false] at hwork
    rcases hwork with rfl | rfl <;> exact blames_performStep hhost
  · split at hwork
    · cases List.mem_singleton.1 hwork
      exact blames_step hhost noLogin_ensure
    · cases hwork

private theorem blames_provisionEvpn (hhost : hosts s.host) : n.Blames hosts (s.provisionEvpn force) := by
  refine blames_bind (blames_performStep hhost) fun early hearly => ?_
  refine blames_bind (blames_step hhost noLogin_ensure) fun failed hfailed => ?_
  split
  · exact blames_bind (blames_performStep hhost) fun late hlate => blames_append hearly hlate
  · exact blames_append hearly hfailed

/-- The work on a switch blames its footprint. -/
theorem blames_configure (n : Network) : n.Blames (· ∈ s.footprint) (s.configure t force) := by
  have hhost := s.host_mem_footprint
  refine blames_session hhost (blames_collect fun work hwork => ?_)
  simp only [List.mem_append, List.mem_cons, List.not_mem_nil, or_false] at hwork
  rcases hwork with ((rfl | rfl | rfl | rfl) | hwork) | rfl
  · exact s.blames_provisionSystem t force hhost
  · exact blames_fanOut fun i _ => blames_step hhost (noLogin_provision i)
  · exact blames_fanOut fun _ _ => blames_performStep hhost
  · exact blames_fanOut fun m hm => m.blames_remove (s.mem_footprint_stale hm)
  · split at hwork
    · cases List.mem_singleton.1 hwork
      exact s.blames_provisionEvpn force hhost
    · cases hwork
  · exact blames_fanOut fun m hm => m.blames_add (s.mem_footprint_dataPlane hm)

end SwitchSpec

/-! ### Management clusters -/

namespace ClusterSpec

variable {c : ClusterSpec} (hc : ∀ x ∈ c.nodes, hosts x.host)

include hc

private theorem blames_polls (polling : Polling) (intended : ClusterNode → List String) :
    n.Blames hosts (fanOut c.nodes fun x => pollOn polling (intended x) x) :=
  blames_fanOut fun x hx => blames_session (hc x hx) (blames_step (hc x hx) (noLogin_pollMembership _ _))

omit hc in
private theorem blames_sendAll {x : ClusterNode} (hx : hosts x.host) (steps : List ClusterStep) (operation : String) :
    n.Blames hosts (session operation x.host x.credentials (NodeWork.sendAll x.host steps).failures) := by
  have hsend : (NodeWork.sendAll x.host steps).FailsWithin everything x.host :=
    NodeWork.failsWithin_sendAll fun _ _ _ => trivial
  exact blames_session hx (blames_of_inSession hx (NodeWork.within_failures hsend))

omit hc in
theorem blames_createOn {x : ClusterNode} (hx : hosts x.host) : n.Blames hosts (c.createOn x) :=
  blames_sendAll hx _ _

private theorem blames_create (polling : Polling) (force : Bool) : n.Blames hosts (c.create polling force) := by
  have hcreated : ∀ early : List Failure, (∀ f ∈ early, f.Blames hosts n) → n.Blames hosts (do
      let errors ← fanOut c.nodes c.createOn
      if errors.isEmpty then return early ++ (← c.pollMembers polling) else return early ++ errors) := by
    intro early hearly
    refine blames_bind (blames_fanOut fun x hx => blames_createOn (hc x hx)) fun errors herrors => ?_
    split
    · exact blames_bind (blames_polls hc polling fun _ => c.hosts) fun late hlate => blames_append hearly hlate
    · exact blames_append hearly herrors
  unfold create
  split
  · rename_i hmany
    -- Too many nodes are at least one, and the first of them is blamed.
    obtain ⟨x, rest, hnodes⟩ : ∃ x rest, c.nodes = x :: rest :=
      List.exists_cons_of_ne_nil fun hnone => by simp [hnone] at hmany
    rintro failures rfl f hf
    cases List.mem_singleton.1 hf
    refine ⟨?_, by simp⟩
    show hosts (c.hosts.headD "")
    have hfirst : c.hosts.headD "" = x.host := by rw [ClusterSpec.hosts, hnodes]; rfl
    rw [hfirst]
    exact hc x (by simp [hnodes])
  · cases force with
    | true => exact blames_bind (blames_after fun _ => blames_polls hc polling _) hcreated
    | false => exact hcreated [] (by simp)

omit hc in
private theorem blames_updateOn {x : ClusterNode} (hx : hosts x.host) : n.Blames hosts (c.updateOn x) := by
  unfold updateOn
  dsimp only
  split
  · exact blames_session hx (blames_of_inSession hx (NodeWork.within_failures (c.failsWithin_update x)))
  · rintro failures rfl f hf
    cases List.mem_singleton.1 hf
    exact ⟨hx, by simp⟩

/-- The work on a cluster blames its nodes. -/
theorem blames_reconcile (polling : Polling) (action : ClusterAction) (force : Bool) :
    n.Blames hosts (c.reconcile polling action force) := by
  cases action with
  | create => exact blames_create hc polling force
  | update =>
    refine blames_collect fun work hwork => ?_
    simp only [List.mem_cons, List.not_mem_nil, or_false] at hwork
    rcases hwork with rfl | rfl
    · exact blames_fanOut fun x hx => blames_updateOn (hc x hx)
    · exact blames_polls hc polling fun _ => c.hosts
  | delete => exact blames_fanOut fun x hx => blames_sendAll (hc x hx) _ _

end ClusterSpec

/-! ### Whole runs -/

namespace FabricRequest

variable (polling : Polling) (force : Bool) (r : FabricRequest) (save : Bool)

/-- A run blames the hosts that the request declares. -/
theorem blames_configure (n : Network) : n.Blames (· ∈ r.hosts) (r.configure polling force save) := by
  have hclusters : ∀ c ∈ r.clusters.all, ∀ action force,
      n.Blames (· ∈ r.hosts) (c.reconcile polling action force) := fun c hc action force =>
    ClusterSpec.blames_reconcile (fun x hx => r.node_mem_hosts hc hx) polling action force
  refine blames_stop (blames_fanOut fun s hs => ?_) (blames_stop (blames_stop ?_ (blames_stop ?_ ?_)) ?_)
  · exact (s.blames_configure r.topology force n).widen fun _ h => r.mem_hosts_of_footprint hs h
  · exact blames_fanOut fun c hc => hclusters c (mem_all.2 (.inl (.inl hc))) .delete force
  · exact blames_fanOut fun c hc => hclusters c (mem_all.2 (.inl (.inr hc))) .update force
  · exact blames_fanOut fun c hc => hclusters c (mem_all.2 (.inr hc)) .create _
  · refine blames_after fun principals => blames_bind (blames_fanOut fun s hs => ?_) fun errors herrors => ?_
    · have hhost := r.host_mem_hosts (List.mem_filter.1 hs).1
      exact blames_session hhost (blames_step hhost noLogin_ensure)
    · have hreport : ∀ unsaved : List Failure, (∀ f ∈ unsaved, f.Blames (· ∈ r.hosts) n) →
          n.Blames (· ∈ r.hosts) (pure (errors ++ unsaved)) := fun _ => blames_append herrors
      dsimp only
      split
      · refine blames_bind (blames_fanOut fun s hs => ?_) hreport
        exact blames_session (r.host_mem_hosts hs) (blames_performStep (r.host_mem_hosts hs))
      · exact blames_bind blames_nil hreport

end FabricRequest

end FabricProvision
