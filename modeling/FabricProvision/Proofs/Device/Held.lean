import FabricProvision.Device.UniqueObject
import FabricProvision.Proofs.Device.Refused

/-!
# Unique objects that are held

Of each unique object a configuration holds at most one (`UniqueObject.held`).  An EVPN instance or an overlay gateway
that is there keeps its name whatever operation arrives, unless the operation deletes it: a second one is refused, and
the same one is created over itself (`UniqueObject.held_apply_of_not_deletes`).  A deletion that is refused takes
nothing away either (`UniqueObject.held_receive`).  The anycast gateway is the exception, as it is configured anew
whatever was there.
-/

namespace FabricProvision

open Operation

/-- Whether an operation deletes an object. -/
def Operation.deletes (object : UniqueObject) : Operation → Bool
  | deleteOverlayGateway _ => object == .overlayGateway
  | deleteEvpnInstance _ => object == .evpnInstance
  | unconfigureAnycastGateway => object == .anycastGateway
  | _ => false

namespace UniqueObject

/-- The name of the object that a configuration holds. -/
def held (c : Configuration) : UniqueObject → Option String
  | overlayGateway => c.overlayGateway
  | evpnInstance => c.evpnInstance
  | anycastGateway => c.anycastMac

variable {object : UniqueObject} {op : Operation} {c c' : Configuration} {name : String}

theorem held_eq_of_same (h : object.lookup.part.Same c c') : object.held c' = object.held c := by
  cases object <;> exact h

theorem held_apply_of_part_ne (hpart : op.part ≠ object.lookup.part) (c : Configuration) :
    object.held (op.apply.run.run c).2 = object.held c :=
  held_eq_of_same (op.apply_writes c _ (Ne.symm hpart))

/-- Only an operation that deletes an EVPN instance or an overlay gateway takes it away or changes its name. -/
theorem held_apply_of_not_deletes (hobject : object ≠ .anycastGateway) (hop : op.deletes object = false)
    (h : object.held c = some name) : object.held (op.apply.run.run c).2 = some name := by
  by_cases hpart : op.part = object.lookup.part
  · cases object with
    | anycastGateway => exact absurd rfl hobject
    | overlayGateway =>
      have h : c.overlayGateway = some name := h
      cases op with
      | getOverlayGateway => exact h
      | deleteOverlayGateway => cases hop
      | createOverlayGateway desired kind loopback vniAutoMap =>
        simp only [held, apply, run_acknowledge, run_createGateway, h]
        -- Another gateway is refused, and the same one is created over itself.
        by_cases hsame : name = desired <;> simp [hsame, Option.filter, h]
      | _ => cases hpart
    | evpnInstance =>
      have h : c.evpnInstance = some name := h
      cases op with
      | getEvpnInstance | clearEvpnNeighbors => exact h
      | deleteEvpnInstance => cases hop
      | createEvpnInstance desired timer count =>
        simp only [held, apply, run_acknowledge, run_createEvpn, h]
        by_cases hsame : name = desired <;> simp [hsame, Option.filter, h]
      | _ => cases hpart
  · rw [held_apply_of_part_ne hpart]
    exact h

/-- The same of a device, where an operation that deletes the object may arrive if it is refused. -/
theorem held_receive (hobject : object ≠ .anycastGateway) {d : Device} {status : ClusterStatus}
    (hop : op.deletes object = true → ∀ r, (d.receive status op).1 ≠ .ok r)
    (h : object.held d.configuration = some name) :
    object.held (d.receive status op).2.configuration = some name := by
  rcases d.receive_cases status op with ⟨-, hr⟩ | ⟨-, -, hr⟩ | ⟨-, -, hr⟩ <;> rw [hr] at hop ⊢
  · exact h
  · exact h
  · cases hdeletes : op.deletes object with
    | false => exact held_apply_of_not_deletes hobject hdeletes h
    | true =>
      show object.held (op.apply.run.run d.configuration).2 = some name
      cases hanswer : (op.apply.run.run d.configuration).1 with
      | ok r => exact absurd hanswer (hop hdeletes r)
      | error cause =>
        rw [apply_of_refused _ hanswer]
        exact h

end UniqueObject

end FabricProvision
