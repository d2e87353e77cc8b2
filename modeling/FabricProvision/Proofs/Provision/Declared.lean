import FabricProvision.Command.Run
import FabricProvision.Proofs.Provision.Blame
import FabricProvision.Proofs.Provision.Reached

/-!
# Hosts that a request declares

The network of a run has a device at every host that the request declares, whatever is seeded, and the run only
talks to these.  So every other device stays as it is, every failure is that of a declared host, and no failure is
a login to a host that does not exist (`FabricRequest.configure_declared`).
-/

namespace FabricProvision

/-! ### The network of a run -/

namespace Network

variable {n : Network} {host other : String}

theorem isSome_addSwitch (h : (n.device? other).isSome ∨ host = other) :
    ((n.addSwitch host).device? other).isSome := by
  rw [device?_addSwitch]
  split
  · rfl
  · rename_i hhost
    exact h.resolve_right hhost

theorem isSome_change {f : Device → Device} (h : (n.device? other).isSome) :
    ((n.change host f).device? other).isSome := by
  rw [device?_change]
  split
  · rw [Option.isSome_map]
    exact h
  · exact h

theorem isSome_ofHosts {hosts : List String} (h : host ∈ hosts) : ((ofHosts hosts).device? host).isSome := by
  have hfold : ∀ n : Network, (n.device? host).isSome ∨ host ∈ hosts →
      ((hosts.foldl addSwitch n).device? host).isSome := by
    clear h
    induction hosts with
    | nil => simp
    | cons first rest ih =>
      intro n hn
      refine ih (n.addSwitch first) ?_
      rcases hn with hn | hn
      · exact .inl (isSome_addSwitch (.inl hn))
      · rcases List.mem_cons.1 hn with rfl | hn
        · exact .inl (isSome_addSwitch (.inr rfl))
        · exact .inr hn
  exact hfold {} (.inr h)

/-- Seeding takes no device away. -/
theorem isSome_sow {state : StateFile} (h : (n.device? host).isSome) :
    ((state.sow n).device? host).isSome := by
  unfold StateFile.sow
  induction state.seeds generalizing n with
  | nil => exact h
  | cons first rest ih => exact ih (isSome_change (isSome_addSwitch (.inl h)))

/-- A device that is there may refuse the login, but is reached. -/
theorem login_of_isSome (h : (n.device? host).isSome) (unreached : String) :
    n.login host ≠ .error (.login unreached "host unreachable") := by
  obtain ⟨d, hd⟩ := Option.isSome_iff_exists.1 h
  unfold login
  rw [hd]
  split
  · rename_i hnone
    cases hnone
  · split
    · intro hrefused
      injection hrefused with hrefused
      injection hrefused with _ hmessage
      exact absurd hmessage (by decide)
    · nofun

end Network

namespace FabricRequest

/-- A run leaves the device of every host that the request does not declare as it is, its journal included, and
reports failures of declared hosts only.  On the network that is built for the request, no failure is a login to
a host that is not there, whatever is seeded. -/
theorem configure_declared (polling : Polling) (force save : Bool) (r : FabricRequest) :
    (∀ n : Network, let final := (r.configure polling force save).run Network.adapter n
      (∀ host, host ∉ r.hosts → final.2.device? host = n.device? host) ∧ ∀ f ∈ final.1, f.host ∈ r.hosts) ∧
    ∀ state : StateFile, ∀ f ∈ (Command.provision polling force save r (Command.startNetwork r state)).1,
      ∀ host, f.cause ≠ .login (.login host "host unreachable") := by
  have hblames : ∀ n f, f ∈ ((r.configure polling force save).run Network.adapter n).1 →
      f.Blames (· ∈ r.hosts) n := fun n =>
    (r.blames_configure polling force save n).run fun _ => rfl
  refine ⟨fun n => ⟨fun host hhost => ?_, fun f hf => (hblames n f hf).host⟩, fun state f hf host hcause => ?_⟩
  · exact Network.device?_run (r.stays_configure_hosts polling force save) (fun _ hop => hhost hop) n
  · obtain ⟨hdeclared, hlogin⟩ := hblames _ f hf
    have hthere : ((Command.startNetwork r state).device? f.host).isSome :=
      Network.isSome_sow (Network.isSome_ofHosts hdeclared)
    exact Network.login_of_isSome hthere host (hlogin _ hcause)

/-- What is there before the pair of leaves is provisioned: the second leaf refuses the login, and there is a spine
that the request does not name. -/
def refusingLeaf : StateFile :=
  ⟨[("leaf-2", { refusesLogin := true }), ("spine-1", { evpnInstance := some "core" })]⟩

/-- The spine is left alone, and all that is reported is that the second leaf refused the login. -/
theorem leafPair_declared :
    let start := Command.startNetwork leafPair refusingLeaf
    let (failures, after) := (leafPair.configure {} false true).run Network.adapter start
    failures.map (fun f => (f.host, f.cause)) = [("leaf-2", .login (.login "leaf-2" "authentication failed"))] ∧
      after.device? "spine-1" = start.device? "spine-1" ∧ (∀ f ∈ failures, f.host ∈ leafPair.hosts) ∧
      ∀ f ∈ failures, f.cause ≠ .login (.login "leaf-2" "host unreachable") := by
  obtain ⟨hconfined, hreached⟩ := configure_declared {} false true leafPair
  obtain ⟨hothers, hhosts⟩ := hconfined (Command.startNetwork leafPair refusingLeaf)
  exact ⟨by decide +kernel, hothers "spine-1" (by decide), hhosts, fun f hf => hreached refusingLeaf f hf "leaf-2"⟩

end FabricRequest

end FabricProvision
