import FabricProvision.Proofs.Device.Has
import FabricProvision.Proofs.Provision.Alphabets

/-!
# Interfaces of a switch

Each interface that is created or updated ends with one operation (`InterfaceSpec.goal`).  What an update clears
before it never stands in its way, so without a failure the device has what that operation is for.  On a device
that has it already, an update may clear a donor, but then puts it back (`InterfaceSpec.idle_provision`).
-/

namespace FabricProvision.InterfaceSpec

open Std (ExtTreeMap)
open Dialogue Device FabricProvision.Configuration Operation

variable {i : InterfaceSpec} {host operation : String}

/-- The operation that gives the interface its desired state. -/
def goal (i : InterfaceSpec) : Operation :=
  if i.kind = .loopback then .configureLoopback i.name i.ip
  else
    match i.donor with
    | some donor => .configureUnnumbered i.kind.text i.name donor.kind.text donor.name
    | none => i.configureNumbered

/-- The interface is to be there. -/
def Wanted (i : InterfaceSpec) : Prop := i.change = .create ∨ i.change = .update

theorem configures_goal (i : InterfaceSpec) : i.goal.configures = true := by
  unfold goal
  split
  · rfl
  · split <;> rfl

theorem part_goal (i : InterfaceSpec) : i.goal.part = .interface i.key := by
  unfold goal key
  split
  · rename_i hkind
    rw [hkind]
    rfl
  · split <;> rfl

/-- Nothing is done for an item that is to be kept. -/
theorem provision_of_keep (hi : i.change = .keep) : i.provision host = nothing := by
  unfold provision provisionLoopback provisionUnnumbered provisionNumbered
  simp only [hi]
  split
  · rfl
  · split <;> rfl

/-! ### What is achieved -/

private theorem has_of_bind_perform {α : Type} {x : Dialogue α} {op : Operation} (hop : op.configures = true)
    {d : Device} (h : ((x >>= fun _ => perform host op).run adapter d).1 = .ok ⟨⟩) :
    ((x >>= fun _ => perform host op).run adapter d).2.Has op := by
  rw [run_bind] at h ⊢
  exact has_of_perform hop h

theorem brings_provision (hi : i.Wanted) :
    Brings adapter (fun _ => True) (step operation host (i.provision host)) (·.Has i.goal) := by
  refine brings_step fun d _ h => ?_
  have hgoal := i.configures_goal
  unfold provision at h ⊢
  unfold goal at hgoal ⊢
  by_cases hkind : i.kind = .loopback
  · simp only [hkind, if_true] at h hgoal ⊢
    unfold provisionLoopback at h ⊢
    rcases hi with hi | hi <;> simp only [hi] at h ⊢ <;> exact has_of_perform hgoal h
  simp only [hkind, if_false] at h hgoal ⊢
  cases hdonor : i.donor with
  | some donor =>
    simp only [hdonor] at h hgoal ⊢
    unfold provisionUnnumbered at h ⊢
    rcases hi with hi | hi <;> simp only [hi] at h ⊢
    · exact has_of_perform hgoal h
    · exact has_of_bind_perform hgoal h
  | none =>
    simp only [hdonor] at h hgoal ⊢
    unfold provisionNumbered at h ⊢
    rcases hi with hi | hi <;> simp only [hi] at h ⊢
    · exact has_of_perform hgoal h
    · exact has_of_bind_perform hgoal h

/-- The device holds no address for an interface. -/
def NoAddress (key : String) (d : Device) : Prop := (d.configuration.interfaces[key]?.bind (·.address)) = none

theorem concerns_noAddress (key : String) : Concerns (· = .interface key) (NoAddress key) := by
  intro allowed d d' hfollows hparts h
  have hsame : (Part.interface key).Same d.configuration d'.configuration := hfollows.parts _ hparts
  unfold NoAddress
  rw [show d'.configuration.interfaces[key]? = d.configuration.interfaces[key]? from hsame]
  exact h

private theorem noAddress_setInterface (c : Configuration) (key : String) (donor : Option String) :
    ((c.setInterface key ⟨none, donor⟩).interfaces[key]?.bind (·.address)) = none := by
  have hget : (c.setInterface key ⟨none, donor⟩).interfaces[key]? = some ⟨none, donor⟩ :=
    ExtTreeMap.getElem?_insert_self
  rw [hget]
  rfl

/-- A loopback or a numbered interface that was deleted has no address. -/
theorem brings_provision_delete (hi : i.change = .delete) (hform : i.kind = .loopback ∨ i.donor = none) :
    Brings adapter (fun _ => True) (step operation host (i.provision host)) (NoAddress i.key) := by
  by_cases hkind : i.kind = .loopback
  · have hprovision : i.provision host = perform host (.deleteLoopback i.name) := by
      simp only [provision, provisionLoopback, hkind, if_true, hi]
    have hkey : i.key = interfaceName "loopback" i.name := by
      unfold key
      rw [hkind]
      rfl
    rw [hprovision]
    refine brings_apply (.deleteLoopback i.name) (P := fun _ => True)
      (Q := fun c => (c.interfaces[i.key]?.bind (·.address)) = none) (by simp) fun c r _ hr => ?_
    rw [hkey]
    simp only [apply, run_acknowledge, run_clearLoopback] at hr ⊢
    rcases Option.eq_none_or_eq_some c.interfaces[interfaceName "loopback" i.name]? with hc | ⟨record, hc⟩
    · simp [hc, Except.map] at hr
    · simp only [hc]
      exact noAddress_setInterface c _ record.donor
  · have hprovision : i.provision host = perform host (.unconfigureNumbered i.kind.text i.name i.ip) := by
      simp only [provision, provisionNumbered, hkind, if_false, hform.resolve_left hkind, hi]
    rw [hprovision]
    refine brings_apply (.unconfigureNumbered i.kind.text i.name i.ip) (P := fun _ => True)
      (Q := fun c => (c.interfaces[i.key]?.bind (·.address)) = none) (by simp) fun c r _ hr => ?_
    unfold key
    simp only [apply, run_acknowledge, run_clearAddress] at hr ⊢
    rcases Option.eq_none_or_eq_some
      (c.interfaces[interfaceName i.kind.text i.name]?.filter (·.address == some i.ip)) with hc | ⟨record, hc⟩
    · simp [hc, Except.map] at hr
    · simp only [hc]
      exact noAddress_setInterface c _ record.donor

/-! ### What is left as it was -/

/-- Clearing the donor of an interface takes it away, unless the device refuses. -/
private theorem attempt_clearUnnumbered (host : String) (d : Device) {r : InterfaceRecord}
    (hr : d.configuration.interfaces[i.key]? = some r) :
    ∃ d', (attempt host i.clearUnnumbered).run adapter d = (⟨⟩, d') ∧
      (d'.quiet = d.quiet ∨
        d'.quiet =
          { d.quiet with configuration := d.configuration.setInterface i.key { r with donor := none } }) := by
  refine ⟨_, run_attempt adapter host i.clearUnnumbered d, ?_⟩
  show (d.receive {} i.clearUnnumbered).2.quiet = _ ∨ _
  rcases d.receive_cases {} i.clearUnnumbered with ⟨-, h⟩ | ⟨-, hop, -⟩ | ⟨-, -, h⟩
  · rw [h]
    exact .inl rfl
  · cases hop
  · right
    have happly : (i.clearUnnumbered.apply.run.run d.configuration).2 =
        d.configuration.setInterface i.key { r with donor := none } := by
      have hr : d.configuration.interfaces[interfaceName i.kind.text i.name]? = some r := hr
      simp only [clearUnnumbered, apply, run_acknowledge, run_clearDonor, hr]
      rfl
    show (d.receive {} i.clearUnnumbered).2.quiet = _
    rw [h, happly]
    rfl

/-- A donor that was taken away is put back. -/
private theorem perform_of_cleared {donor : Donor} {d d' : Device}
    (h : d.Has (.configureUnnumbered i.kind.text i.name donor.kind.text donor.name))
    (hd' : d'.quiet = { d.quiet with configuration := d.configuration.setInterface i.key ⟨none, none⟩ }) :
    let r := (perform host (.configureUnnumbered i.kind.text i.name donor.kind.text donor.name)).run adapter d'
    r.1 = .ok ⟨⟩ ∧ r.2.quiet = d.quiet := by
  have hfail : d'.failing.contains (configureUnnumbered i.kind.text i.name donor.kind.text donor.name).name =
      false := by
    show d'.quiet.failing.contains _ = false
    rw [hd']
    exact h.accepted
  have hconfiguration : d'.configuration = d.configuration.setInterface i.key ⟨none, none⟩ := by
    show d'.quiet.configuration = _
    rw [hd']
  have happly : (configureUnnumbered i.kind.text i.name donor.kind.text donor.name).apply.run.run
      d'.configuration = (.ok .ok, d.configuration) := by
    have hback := setInterface_setInterface d.configuration i.key ⟨none, none⟩
      ⟨none, some (interfaceName donor.kind.text donor.name)⟩
    have hrecord : d.configuration.interfaces[i.key]? =
        some ⟨none, some (interfaceName donor.kind.text donor.name)⟩ := h.achieved
    rw [setInterface_of_getElem? hrecord] at hback
    rw [hconfiguration]
    exact congrArg (fun c => (Except.ok Response.ok, c)) hback
  rw [perform_of_apply (by simp) hfail happly]
  refine ⟨rfl, ?_⟩
  show { d'.quiet with configuration := d.configuration } = d.quiet
  rw [hd']
  rfl

private theorem idle_provisionUnnumbered {donor : Donor} (hchange : i.change ≠ .delete) {d : Device}
    (h : i.change ≠ .keep → d.Has (.configureUnnumbered i.kind.text i.name donor.kind.text donor.name)) :
    ((i.provisionUnnumbered host donor).run adapter d).1 = .ok ⟨⟩ ∧
      ((i.provisionUnnumbered host donor).run adapter d).2.quiet = d.quiet := by
  unfold provisionUnnumbered
  cases hi : i.change with
  | delete => exact absurd hi hchange
  | keep => exact ⟨rfl, rfl⟩
  | create =>
    have hhas := h (by simp [hi])
    exact ⟨by rw [perform_of_has hhas], by rw [perform_of_has hhas]; rfl⟩
  | update =>
    have hhas := h (by simp [hi])
    obtain ⟨d', hattempt, hd'⟩ := attempt_clearUnnumbered host d hhas.achieved
    simp only [run_bind, hattempt]
    rcases hd' with hd' | hd'
    · rw [perform_of_has (has_of_quiet hd'.symm hhas)]
      exact ⟨rfl, hd'⟩
    · exact perform_of_cleared hhas hd'

private theorem clearOther_of_has (host : String) {d : Device} (h : d.Has i.configureNumbered) :
    ((i.clearOther host).run adapter d).2.quiet = d.quiet := by
  have hrecord : d.configuration.interfaces[i.key]? = some ⟨some i.ip, none⟩ := h.achieved
  have hattempt : ∀ e : Device, e.quiet = d.quiet →
      ((attempt host i.clearUnnumbered).run adapter e).2.quiet = d.quiet := by
    intro e he
    have herecord : e.configuration.interfaces[i.key]? = some ⟨some i.ip, none⟩ := by
      show e.quiet.configuration.interfaces[i.key]? = _
      rw [he]
      exact hrecord
    obtain ⟨e', hrun, he' | he'⟩ := attempt_clearUnnumbered host e herecord
    · rw [hrun, he', he]
    · rw [hrun, he', setInterface_of_getElem? herecord, ← he]
      rfl
  have hquestion : (getInterface i.kind.text i.name).apply.run.run d.configuration =
      (.ok (.address (some i.ip)), d.configuration) := by
    have hrecord : d.configuration.interfaces[interfaceName i.kind.text i.name]? = some ⟨some i.ip, none⟩ :=
      hrecord
    show (Except.ok (Response.address _), d.configuration) = _
    rw [hrecord]
    rfl
  unfold clearOther
  rw [run_bind, run_query]
  rcases execute_question host (by simp) hquestion with ⟨e, hexecute⟩ | hexecute <;> rw [hexecute]
  · exact hattempt _ rfl
  · by_cases hempty : i.ip.isEmpty = true
    · have hnone : ((Response.address (some i.ip)).toAddress "Get Interface").toOption.join = none := by
        simp [Response.toAddress, Option.filter, hempty, Except.toOption]
      simp only [Operation.name, hnone]
      exact hattempt _ rfl
    · have hsome : ((Response.address (some i.ip)).toAddress "Get Interface").toOption.join = some i.ip := by
        simp [Response.toAddress, Option.filter, hempty, Except.toOption]
      simp only [Operation.name, hsome, bne_self_eq_false, Bool.false_eq_true, if_false]
      rfl

private theorem idle_provisionNumbered (hchange : i.change ≠ .delete) {d : Device}
    (h : i.change ≠ .keep → d.Has i.configureNumbered) :
    ((i.provisionNumbered host).run adapter d).1 = .ok ⟨⟩ ∧
      ((i.provisionNumbered host).run adapter d).2.quiet = d.quiet := by
  unfold provisionNumbered
  cases hi : i.change with
  | delete => exact absurd hi hchange
  | keep => exact ⟨rfl, rfl⟩
  | create =>
    have hhas := h (by simp [hi])
    exact ⟨by rw [perform_of_has hhas], by rw [perform_of_has hhas]; rfl⟩
  | update =>
    have hhas := h (by simp [hi])
    have hclear := clearOther_of_has host hhas
    simp only [run_bind]
    rw [perform_of_has (has_of_quiet hclear.symm hhas)]
    exact ⟨rfl, hclear⟩

private theorem idle_provisionLoopback (hchange : i.change ≠ .delete) {d : Device}
    (h : i.change ≠ .keep → d.Has (.configureLoopback i.name i.ip)) :
    ((i.provisionLoopback host).run adapter d).1 = .ok ⟨⟩ ∧
      ((i.provisionLoopback host).run adapter d).2.quiet = d.quiet := by
  unfold provisionLoopback
  cases hi : i.change with
  | delete => exact absurd hi hchange
  | keep => exact ⟨rfl, rfl⟩
  | create | update =>
    have hhas := h (by simp [hi])
    exact ⟨by rw [perform_of_has hhas], by rw [perform_of_has hhas]; rfl⟩

/-- An interface that is as desired stays so. -/
theorem idle_provision (hchange : i.change ≠ .delete) {d : Device} (h : i.change ≠ .keep → d.Has i.goal) :
    Idle adapter quiet (step operation host (i.provision host)) d := by
  have hrun : ((i.provision host).run adapter d).1 = .ok ⟨⟩ ∧
      ((i.provision host).run adapter d).2.quiet = d.quiet := by
    unfold provision
    unfold goal at h
    split
    · rename_i hkind
      simp only [hkind, if_true] at h
      exact idle_provisionLoopback hchange h
    · rename_i hkind
      simp only [hkind, if_false] at h
      split
      · rename_i donor hdonor
        simp only [hdonor] at h
        exact idle_provisionUnnumbered hchange h
      · rename_i hdonor
        simp only [hdonor] at h
        exact idle_provisionNumbered hchange h
  exact idle_step hrun.1 hrun.2

end FabricProvision.InterfaceSpec
