import FabricProvision.Command.Run
import FabricProvision.Proofs.Device.Replays

/-!
# Plans

The journals of a network explain what provisioning a fabric makes of it (`FabricRequest.configure_explained`).
A command begins with empty journals, so the plan that it prints explains its result
(`Command.replay_of_mem_plan`).
-/

namespace FabricProvision

open Network

/-- Each device ends with the configuration that the operations it received lead to, those that it refused
having no effect, and a device that received none ends as it was. -/
theorem FabricRequest.configure_explained (polling : Polling) (force save : Bool) (r : FabricRequest)
    (n : Network) :
    let after := ((r.configure polling force save).run adapter n).2
    n.Relates (fun _ => Device.Replayed) after ∧
      ∀ host, after.journal host = n.journal host → after.device? host = n.device? host := by
  intro after
  have hreplayed : n.Relates (fun _ => Device.Replayed) after := run_replayed (r.configure polling force save) n
  refine ⟨hreplayed, fun host hjournal => ?_⟩
  rcases Option.eq_none_or_eq_some (n.device? host) with hd | ⟨d, hd⟩
  · rw [hd, hreplayed.of_absent hd]
  · obtain ⟨d', hd', h⟩ := hreplayed.of_device hd
    unfold journal at hjournal
    rw [hd, hd'] at hjournal
    rw [hd, hd', h.eq_of_journal hjournal]

/-! ### The network before a command -/

namespace Network

variable (n : Network) (host other : String)

private theorem journal_addSwitch : (n.addSwitch host).journal other = n.journal other := by
  unfold journal
  rw [device?_addSwitch]
  split
  · -- A device that is added has received nothing.
    cases n.device? other <;> rfl
  · rfl

private theorem journal_change {f : Device → Device} (hf : ∀ d, (f d).journal = d.journal) :
    (n.change host f).journal other = n.journal other := by
  unfold journal
  rw [device?_change]
  split
  · cases n.device? other with
    | none => rfl
    | some d => exact hf d
  · rfl

private theorem journal_ofHosts (hosts : List String) : (ofHosts hosts).journal host = [] := by
  refine List.foldlRecOn (motive := fun n => n.journal host = []) hosts addSwitch ?_ fun n h first _ =>
    (journal_addSwitch n first host).trans h
  simp [journal, device?]

private theorem journal_sow (state : StateFile) : (state.sow n).journal host = n.journal host := by
  unfold StateFile.sow
  induction state.seeds generalizing n with
  | nil => rfl
  | cons first rest ih =>
    obtain ⟨seeded, seed⟩ := first
    have hseed : (n.seed seeded seed).journal host = (n.addSwitch seeded).journal host :=
      journal_change _ seeded host fun _ => rfl
    exact (ih _).trans (hseed.trans (journal_addSwitch n seeded host))

end Network

namespace Command

theorem journal_startNetwork (r : FabricRequest) (state : StateFile) (host : String) :
    (startNetwork r state).journal host = [] :=
  (journal_sow _ host state).trans (journal_ofHosts host r.hosts)

/-- The plan of a command names for each switch operations that lead from what it held before to what it holds
afterwards. -/
theorem replay_of_mem_plan (polling : Polling) (force save : Bool) (r : FabricRequest) (state : StateFile)
    {host : String} {ops : List Operation}
    (hplan : (host, ops) ∈ planOf (provision polling force save r (startNetwork r state)).2) :
    ∃ d d', (startNetwork r state).device? host = some d ∧
      (provision polling force save r (startNetwork r state)).2.device? host = some d' ∧
      d'.configuration = d.configuration.replay d.failing ops := by
  obtain ⟨⟨host', d'⟩, hmem, hentry⟩ := List.mem_map.1 hplan
  obtain ⟨rfl, rfl⟩ : host' = host ∧ d'.journal = ops := by simpa using hentry
  have hd' := Std.ExtTreeMap.mem_toList_iff_getElem?_eq_some.1 hmem
  have hreplayed := run_replayed (r.configure polling force save) (startNetwork r state)
  obtain ⟨d, hd, h⟩ := hreplayed.to_device hd'
  obtain ⟨ops, hjournal, hconfiguration⟩ := h.replay
  have hempty : d.journal = [] := by
    have := journal_startNetwork r state host'
    unfold journal at this
    rwa [hd] at this
  rw [hempty, List.nil_append] at hjournal
  refine ⟨d, d', hd, hd', ?_⟩
  rw [hjournal, hconfiguration]

end Command

end FabricProvision
