import FabricProvision.Proofs.Device.Local

/-!
# Data-plane neighbors apart

Only operations of data-plane clusters ask for the L2 EVPN neighbors of a device or change them.  Without these, and
without its journal, a device is bare (`Device.bare`).  All other operations are answered alike by devices that look
alike when they are bare (`Device.receive_congr_bare`), and so networks that are alike at a host stay alike there
(`Network.BareAlike`).
-/

namespace FabricProvision

open Step

/-- The configuration without L2 EVPN neighbors and without the encapsulation that is used for them. -/
def Configuration.bare (c : Configuration) : Configuration := { c with l2EvpnNeighbors := ∅, encapsulation := "" }

namespace Operation

variable {α β : Type}

/-- The step neither asks for L2 EVPN neighbors nor changes them. -/
private def Overlooks (step : ConfigurationM α) : Prop :=
  ∀ c, step.run.run c.bare = ((step.run.run c).1, (step.run.run c).2.bare)

private theorem overlooks_pure (a : α) : Overlooks (pure a) := fun _ => rfl

private theorem overlooks_throw (cause : Rejection) : Overlooks (throw cause : ConfigurationM α) := fun _ => rfl

private theorem overlooks_require (present : Bool) (what : String) : Overlooks (require present what) := by
  cases present <;> exact fun _ => rfl

private theorem overlooks_modify {f : Configuration → Configuration} (h : ∀ c, f c.bare = (f c).bare) :
    Overlooks (modify f : ConfigurationM PUnit) := fun c => by rw [run_modify, run_modify, h]

private theorem overlooks_bind {x : ConfigurationM α} {f : α → ConfigurationM β} (hx : Overlooks x)
    (hf : ∀ a, Overlooks (f a)) : Overlooks (x >>= f) := by
  intro c
  rw [run_bind, run_bind, hx]
  rcases x.run.run c with ⟨e | a, c'⟩
  · rfl
  · exact hf a c'

/-- What is looked up is something else. -/
private theorem overlooks_get {f : Configuration → ConfigurationM β} (hsame : f ∘ Configuration.bare = f)
    (hf : ∀ c, Overlooks (f c)) : Overlooks (get >>= f) := by
  intro c
  rw [run_bind, run_bind, run_get, run_get]
  exact (congrArg (fun step => step.run.run c.bare) (congrFun hsame c)).trans (hf c c)

/-- Operations about anything else are carried out alike whatever the L2 EVPN neighbors are. -/
theorem apply_bare {op : Operation} (h : op.part ≠ .dataPlane) (c : Configuration) :
    op.apply.run.run c.bare = ((op.apply.run.run c).1, (op.apply.run.run c).2.bare) := by
  revert c
  show Overlooks op.apply
  cases op with
  | getNeighbors | getEncapsulation | configureL2EvpnNeighbor | unconfigureL2EvpnNeighbor => exact absurd rfl h
  | _ =>
    simp only [apply, store, acknowledge, removeAnycastGateway, setAddress, clearAddress, clearLoopback, clearDonor,
      removeNeighbor, createEvpn, deleteEvpn, createGateway, deleteGateway, unbindControlVe, removeControlVlan,
      clearVeAddress, removeVe, changePortChannel, removeMember, removePortChannel, removeRoute, createClusterObject,
      expectCluster, bindCluster, removeCluster, undeploy, setPeerIp, clearPeerIp]
    clear h
    repeat' with_reducible first
      | exact overlooks_pure _
      | exact overlooks_throw _
      | exact overlooks_require _ _
      | refine overlooks_get ?_ fun _ => ?_
      | refine overlooks_bind ?_ fun _ => ?_
      | refine overlooks_modify fun _ => ?_
      | split
    all_goals rfl

end Operation

namespace Device

variable {d e : Device} {op : Operation}

/-- The device without its journal and without its L2 EVPN neighbors. -/
def bare (d : Device) : Device := { d.quiet with configuration := d.configuration.bare }

theorem bare_of_quiet (h : d.quiet = e.quiet) : d.bare = e.bare :=
  congrArg (fun d : Device => { d with configuration := d.configuration.bare }) h

private theorem receive_bare (h : op.part ≠ .dataPlane) (d : Device) (status : ClusterStatus) :
    (d.bare.receive status op).1 = (d.receive status op).1 ∧
      (d.bare.receive status op).2.bare = (d.receive status op).2.bare := by
  have happly : op.apply.run.run d.bare.configuration =
      ((op.apply.run.run d.configuration).1, (op.apply.run.run d.configuration).2.bare) :=
    op.apply_bare h d.configuration
  have hfailing : (d.bare.record op).failing = (d.record op).failing := rfl
  have hconfiguration : (d.bare.record op).configuration = d.bare.configuration := rfl
  unfold receive
  simp only [hfailing, hconfiguration, happly]
  split
  · exact ⟨rfl, rfl⟩
  · split <;> exact ⟨rfl, rfl⟩

theorem receive_congr_bare (h : op.part ≠ .dataPlane) (hd : d.bare = e.bare) (status : ClusterStatus) :
    (d.receive status op).1 = (e.receive status op).1 ∧ (d.receive status op).2.bare = (e.receive status op).2.bare := by
  obtain ⟨hanswer, hnext⟩ := receive_bare h d status
  obtain ⟨hanswer', hnext'⟩ := receive_bare h e status
  exact ⟨by rw [← hanswer, hd, hanswer'], by rw [← hnext, hd, hnext']⟩

end Device

/-! ### Networks -/

namespace Network

/-- The networks have devices at a host that look alike when they are bare, or none. -/
def BareAlike (host : String) (n n' : Network) : Prop :=
  (n.device? host).map Device.bare = (n'.device? host).map Device.bare

variable {host : String} {n n' n'' : Network}

theorem BareAlike.symm (h : n.BareAlike host n') : n'.BareAlike host n := Eq.symm h

theorem BareAlike.trans (h : n.BareAlike host n') (h' : n'.BareAlike host n'') : n.BareAlike host n'' := Eq.trans h h'

theorem bareAlike_of_quiet (h : n.quiet = n'.quiet) (host : String) : n.BareAlike host n' := by
  have hquiet : (n.device? host).map Device.quiet = (n'.device? host).map Device.quiet := by
    rw [← device?_quiet, ← device?_quiet, h]
  unfold BareAlike
  rcases Option.eq_none_or_eq_some (n.device? host) with hd | ⟨d, hd⟩ <;>
    rcases Option.eq_none_or_eq_some (n'.device? host) with he | ⟨e, he⟩ <;> rw [hd, he] at hquiet ⊢
  · cases hquiet
  · cases hquiet
  · exact congrArg some (Device.bare_of_quiet (Option.some.inj hquiet))

theorem BareAlike.login (h : n.BareAlike host n') : n.login host = n'.login host := by
  unfold BareAlike at h
  rcases Option.eq_none_or_eq_some (n.device? host) with hd | ⟨d, hd⟩ <;>
    rcases Option.eq_none_or_eq_some (n'.device? host) with he | ⟨e, he⟩ <;> rw [hd, he] at h
  · unfold Network.login
    rw [hd, he]
  · cases h
  · cases h
  · have hbare : d.bare = e.bare := Option.some.inj h
    have hrefuses : d.bare.refusesLogin = e.bare.refusesLogin := congrArg Device.refusesLogin hbare
    unfold Network.login
    rw [hd, he]
    simp only [show d.refusesLogin = e.refusesLogin from hrefuses]

theorem BareAlike.execute (h : n.BareAlike host n') {op : Operation} (hpart : op.part ≠ .dataPlane)
    (hstatus : op ≠ .getClusterStatus) :
    (n.execute host op).1 = (n'.execute host op).1 ∧ (n.execute host op).2.BareAlike host (n'.execute host op).2 := by
  unfold BareAlike at h ⊢
  rcases Option.eq_none_or_eq_some (n.device? host) with hd | ⟨d, hd⟩ <;>
    rcases Option.eq_none_or_eq_some (n'.device? host) with he | ⟨e, he⟩ <;> rw [hd, he] at h
  · rw [execute_of_absent hd, execute_of_absent he, hd, he]
    exact ⟨rfl, rfl⟩
  · cases h
  · cases h
  · obtain ⟨hanswer, hnext⟩ := Device.receive_congr_bare hpart (Option.some.inj h) {}
    rw [execute_of_device hd, execute_of_device he, receive_status d hstatus, receive_status e hstatus,
      device?_setDevice_self, device?_setDevice_self, hanswer]
    exact ⟨rfl, congrArg some hnext⟩

end Network

end FabricProvision
