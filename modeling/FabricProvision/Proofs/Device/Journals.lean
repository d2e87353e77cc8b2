import FabricProvision.Proofs.Device.Frames
import FabricProvision.Proofs.Dialogue.Events

/-!
# Journals

A device writes down every operation that it receives, and a run never changes what it answers to logins.  So the
journal of a host grows by the operations among the events of a run that are sent to it (`Network.journal_run`),
and a run within a scope adds nothing but operations of the scope (`Network.run_journal`).
-/

namespace FabricProvision.Network

open Dialogue

/-- The operations that a host received, in order. -/
def journal (n : Network) (host : String) : List Operation := ((n.device? host).map (·.journal)).getD []

/-- Logins are answered by what a run never changes. -/
theorem login_run {α : Type} (x : Dialogue α) (n : Network) (host : String) :
    (x.run adapter n).2.login host = n.login host := by
  have hfollows := run_follows (stays_any x) n
  unfold login
  rcases Option.eq_none_or_eq_some (n.device? host) with hd | ⟨d, hd⟩
  · rw [hd, hfollows.of_absent hd]
  · obtain ⟨d', hd', hd'follows⟩ := hfollows.of_device hd
    rw [hd, hd']
    simp only [hd'follows.refusesLogin]

/-- Two networks that answer logins alike, as one and what a run makes of it do. -/
def SameLogins (n m : Network) : Prop := ∀ host, m.login host = n.login host

theorem SameLogins.run {α : Type} {n m : Network} (h : n.SameLogins m) (x : Dialogue α) :
    n.SameLogins (x.run adapter m).2 := fun host => (login_run x m host).trans (h host)

/-- A device writes down what it receives, and the others do not. -/
theorem journal_execute {n : Network} {host : String} {d : Device} (hd : n.device? host = some d) (op : Operation)
    (other : String) :
    (n.execute host op).2.journal other = n.journal other ++ if host = other then [op] else [] := by
  rw [execute_of_device hd]
  unfold journal
  rw [device?_setDevice]
  by_cases hother : host = other
  · subst hother
    rw [if_pos rfl, if_pos rfl, hd]
    exact d.receive_journal _ op
  · rw [if_neg hother, if_neg hother, List.append_nil]

/-- A run within a scope sends a host nothing else. -/
theorem run_journal {α : Type} {scope : Scope} {Q : α → Prop} {x : Dialogue α} (hx : x.Within scope Q) (n : Network)
    (host : String) : ∃ ops, (x.run adapter n).2.journal host = n.journal host ++ ops ∧
      ∀ op ∈ ops, scope.operations host op := by
  have hfollows := run_follows hx n
  unfold journal
  rcases Option.eq_none_or_eq_some (n.device? host) with hd | ⟨d, hd⟩
  · rw [hd, hfollows.of_absent hd]
    exact ⟨[], rfl, by simp⟩
  · obtain ⟨d', hd', hd'follows⟩ := hfollows.of_device hd
    rw [hd, hd']
    exact hd'follows.journal

private theorem isSome_execute (n : Network) (host other : String) (op : Operation) :
    ((n.execute host op).2.device? other).isSome = (n.device? other).isSome := by
  rcases Option.eq_none_or_eq_some (n.device? host) with hd | ⟨d, hd⟩
  · rw [execute_of_absent hd]
  · rw [execute_of_device hd, device?_setDevice]
    by_cases hother : host = other
    · subst hother
      rw [if_pos rfl, hd]
      rfl
    · rw [if_neg hother]

/-- The journal of a device grows by the operations that a run sends it; a host that is not there keeps none. -/
theorem journal_run {α : Type} (x : Dialogue α) (n : Network) {host : String} (hhost : (n.device? host).isSome) :
    (x.run adapter n).2.journal host = n.journal host ++ (x.events adapter n).filterMap (Event.sentTo host) := by
  induction x generalizing n with
  | done a => exact (List.append_nil _).symm
  | login other credentials next ih => exact ih _ n hhost
  | ask other op next ih =>
    have hexecute : (n.execute other op).2.journal host = n.journal host ++ if other = host then [op] else [] := by
      rcases Option.eq_none_or_eq_some (n.device? other) with hd | ⟨d, hd⟩
      · have hother : other ≠ host := by
          rintro rfl
          rw [hd] at hhost
          cases hhost
        rw [execute_of_absent hd, if_neg hother, List.append_nil]
      · exact journal_execute hd op host
    have hevents : (ask other op next).events adapter n = .operation other op ::
      (next (n.execute other op).1).events adapter (n.execute other op).2 := rfl
    have hrun := ih (n.execute other op).1 (n.execute other op).2 ((n.isSome_execute other host op).trans hhost)
    rw [hevents]
    refine hrun.trans ?_
    rw [hexecute, List.append_assoc, List.filterMap_cons]
    by_cases hother : other = host
    · simp [Event.sentTo, hother]
    · simp [Event.sentTo, hother]

end FabricProvision.Network
