import FabricProvision.Proofs.Provision.Unforced

/-!
# The protocol for unique objects

A switch and the work on it agree on what becomes of a unique object.  Where none is there, or the desired one, it
is created.  Where there is another one, that is a conflict and nothing is sent after the question, or with force
the other one is deleted and the desired one created.  Nothing else of the switch changes, and nothing of other
switches (`UniqueObject.ensure_protocol`).  Whatever is refused, success means that the switch holds the desired
object.
-/

namespace FabricProvision

open Dialogue Operation Device

namespace UniqueObject

variable {object : UniqueObject} {desired other : String} {create : Operation} {host : String} {d : Device}
  {c : Configuration} {force : Bool}

/-! ### What the operations do -/

/-- The configuration with the object under a name, or without it. -/
def hold (object : UniqueObject) (name : Option String) (c : Configuration) : Configuration :=
  match object with
  | overlayGateway => { c with overlayGateway := name }
  | evpnInstance => { c with evpnInstance := name }
  | anycastGateway => { c with anycastMac := name }

private theorem held_hold (name : Option String) : object.held (object.hold name c) = name := by
  cases object <;> rfl

private theorem hold_hold (name name' : Option String) :
    object.hold name' (object.hold name c) = object.hold name' c := by
  cases object <;> rfl

/-- Where no other object is in the way, the object is created. -/
theorem apply_create (hcreate : object.Creates desired create)
    (hfree : (object.held c).filter (· != desired) = none) :
    create.apply.run.run c = (.ok .ok, object.hold (some desired) c) := by
  cases hcreate with
  | overlayGateway gatewayType loopback vniAutoMap =>
    have hfree : c.overlayGateway.filter (· != desired) = none := hfree
    simp only [apply, run_acknowledge, run_createGateway, hfree]
    rfl
  | evpnInstance timer count =>
    have hfree : c.evpnInstance.filter (· != desired) = none := hfree
    simp only [apply, run_acknowledge, run_createEvpn, hfree]
    rfl
  | anycastGateway ipv6Mac => rfl

/-- The object that is there is deleted. -/
theorem apply_deletion (h : object.held c = some other) :
    (object.deletion other).apply.run.run c = (.ok .ok, object.hold none c) := by
  cases object with
  | overlayGateway =>
    have h : c.overlayGateway = some other := h
    simp only [deletion, apply, run_acknowledge, deleteGateway, Step.run_bind, Step.run_get, run_require, h,
      beq_self_eq_true, if_true]
    rfl
  | evpnInstance =>
    have h : c.evpnInstance = some other := h
    simp only [deletion, apply, run_acknowledge, deleteEvpn, Step.run_bind, Step.run_get, run_require, h,
      beq_self_eq_true, if_true]
    rfl
  | anycastGateway =>
    have h : c.anycastMac = some other := h
    simp only [deletion, apply, run_acknowledge, removeAnycastGateway, Step.run_bind, Step.run_get, Step.run_modify,
      run_require, h, Option.isSome_some, if_true]
    rfl

private theorem ne_getClusterStatus_of_creates (hcreate : object.Creates desired create) :
    create ≠ .getClusterStatus := by
  cases hcreate <;> nofun

/-! ### On a device that refuses nothing of it -/

/-- The device that received some operations and holds the object under a name. -/
def installed (object : UniqueObject) (name : String) (ops : List Operation) (d : Device) : Device :=
  { d with journal := d.journal ++ ops, configuration := object.hold (some name) d.configuration }

private theorem perform_create (host : String) (hcreate : object.Creates desired create)
    (haccepted : d.failing.contains create.name = false)
    (hfree : (object.held d.configuration).filter (· != desired) = none) :
    (perform host create).run adapter d = (.ok ⟨⟩, object.installed desired [create] d) :=
  perform_of_apply (ne_getClusterStatus_of_creates hcreate) haccepted (apply_create hcreate hfree)

private theorem attempt_deletion (host : String) (haccepted : d.failing.contains (object.deletion other).name = false)
    (h : object.held d.configuration = some other) :
    (attempt host (object.deletion other)).run adapter d =
      (⟨⟩, { d.record (object.deletion other) with configuration := object.hold none d.configuration }) := by
  have hop : object.deletion other ≠ .getClusterStatus := by cases object <;> nofun
  rw [run_attempt, execute_of_apply hop haccepted (apply_deletion h)]

/-- The question finds the object under its name, unless the name is empty. -/
private theorem query_lookup (host : String) (haccepted : d.failing.contains object.lookup.name = false)
    (hname : object.held d.configuration ≠ some "") :
    ∃ answer, (query host object.lookup Response.toName).run adapter d = (answer, d.record object.lookup) ∧
      answer.toOption.join = object.held d.configuration := by
  obtain ⟨answer, hquery, hfound⟩ := run_lookup object host d
  refine ⟨answer, hquery, ?_⟩
  rw [hfound, haccepted, if_neg Bool.false_ne_true]
  cases hheld : object.held d.configuration with
  | none => rfl
  | some name =>
    have hname : name ≠ "" := fun hempty => hname (by rw [hheld, hempty])
    simp [Option.filter, hname]

section accepted

variable (hcreate : object.Creates desired create)
  (hlookup : d.failing.contains object.lookup.name = false)
  (haccepted : d.failing.contains create.name = false) (hname : object.held d.configuration ≠ some "")

include hlookup hname

include hcreate haccepted in
private theorem run_ensure_free (hfree : (object.held d.configuration).filter (· != desired) = none) :
    (object.ensure host desired create force).run adapter d =
      (.ok ⟨⟩, object.installed desired [object.lookup, create] d) := by
  obtain ⟨answer, hquery, hfound⟩ := query_lookup host hlookup hname
  unfold ensure
  rw [run_bind, hquery]
  dsimp only
  rw [hfound, hfree]
  refine (perform_create host (d := d.record object.lookup) hcreate haccepted hfree).trans ?_
  simp only [installed, record, List.append_assoc, List.cons_append, List.nil_append]

private theorem run_ensure_conflict (hother : object.held d.configuration = some other) (hne : other ≠ desired) :
    (object.ensure host desired create false).run adapter d =
      (.error (.conflict object other), d.record object.lookup) := by
  obtain ⟨answer, hquery, hfound⟩ := query_lookup host hlookup hname
  have hconflict : (some other).filter (· != desired) = some other := by simp [Option.filter, hne]
  unfold ensure
  rw [run_bind, hquery]
  dsimp only
  rw [hfound, hother, hconflict]
  rfl

include hcreate haccepted in
private theorem run_ensure_forced (hdeletion : d.failing.contains (object.deletion other).name = false)
    (hother : object.held d.configuration = some other) (hne : other ≠ desired) :
    (object.ensure host desired create true).run adapter d =
      (.ok ⟨⟩, object.installed desired [object.lookup, object.deletion other, create] d) := by
  obtain ⟨answer, hquery, hfound⟩ := query_lookup host hlookup hname
  have hconflict : (some other).filter (· != desired) = some other := by simp [Option.filter, hne]
  have hdeleted := attempt_deletion host (d := d.record object.lookup) hdeletion hother
  unfold ensure
  rw [run_bind, hquery]
  dsimp only
  rw [hfound, hother, hconflict]
  simp only [if_true]
  rw [run_bind, hdeleted]
  -- The deletion leaves nothing in the way.
  let e : Device := { (d.record object.lookup).record (object.deletion other) with
    configuration := object.hold none d.configuration }
  have hfree : (object.held e.configuration).filter (· != desired) = none := by
    rw [held_hold, Option.filter_none]
  refine (perform_create host (d := e) hcreate haccepted hfree).trans ?_
  simp only [e, installed, record, hold_hold, List.append_assoc, List.cons_append, List.nil_append]

end accepted

/-- With force a device that refuses no operation takes the object, whatever it holds under a name. -/
theorem ensure_of_faultless (hcreate : object.Creates desired create) (hfailing : d.failing = ∅)
    (hname : object.held d.configuration ≠ some "") :
    ((object.ensure host desired create true).run adapter d).1 = .ok ⟨⟩ := by
  have haccepted : ∀ name, d.failing.contains name = false := fun name => by simp [hfailing]
  by_cases hfree : (object.held d.configuration).filter (· != desired) = none
  · rw [run_ensure_free hcreate (haccepted _) (haccepted _) hname hfree]
  · obtain ⟨other, hother⟩ := Option.ne_none_iff_exists'.1 hfree
    obtain ⟨hheld, hne⟩ := Option.filter_eq_some_iff.1 hother
    rw [run_ensure_forced hcreate (haccepted _) (haccepted _) hname (haccepted _) hheld (by simpa using hne)]

/-! ### Success -/

private theorem held_of_achieved (hcreate : object.Creates desired create) (h : create.Achieved c) :
    object.held c = some desired := by
  cases hcreate <;> exact h

/-- Nothing is created where there is no device. -/
private theorem ensure_of_absent {n : Network} (hd : n.device? host = none) :
    ((object.ensure host desired create force).run Network.adapter n).1 ≠ .ok ⟨⟩ := by
  have hexecute : ∀ op, Network.adapter.execute host op n =
      (.error (.rejected op.name (Rejection.unknownHost host).message), n) := fun op => Network.execute_of_absent hd op
  unfold ensure
  rw [run_bind, run_query, hexecute]
  show ((perform host create).run Network.adapter n).1 ≠ .ok ⟨⟩
  rw [run_perform, hexecute]
  nofun

/-- What becomes of a unique object.  Where a device refuses nothing that is sent and holds no object without a name,
none or the desired one is created, and another one is a conflict, or is replaced with force; whatever is refused,
success means that the desired object is there. -/
theorem ensure_protocol (n : Network) (host : String) (hcreate : object.Creates desired create) (force : Bool) :
    let run := (object.ensure host desired create force).run Network.adapter n
    (∀ d, n.device? host = some d → object.held d.configuration ≠ some "" →
      d.failing.contains object.lookup.name = false → d.failing.contains create.name = false →
      (∀ existing, d.failing.contains (object.deletion existing).name = false) →
      (object.held d.configuration = none ∨ object.held d.configuration = some desired →
        run = (.ok ⟨⟩, n.setDevice host (object.installed desired [object.lookup, create] d))) ∧
      ∀ other, object.held d.configuration = some other → other ≠ desired →
        run = if force then
            (.ok ⟨⟩, n.setDevice host (object.installed desired [object.lookup, object.deletion other, create] d))
          else (.error (.conflict object other), n.setDevice host (d.record object.lookup))) ∧
    (run.1 = .ok ⟨⟩ → run.2.At host fun d => object.held d.configuration = some desired) := by
  intro run
  have hlocal : ∀ d, n.device? host = some d →
      run = (((object.ensure host desired create force).run adapter d).1,
        n.setDevice host ((object.ensure host desired create force).run adapter d).2) := fun d hd =>
    Network.run_local (stays_ensure_local host hcreate) ⟨fun _ => id, fun _ _ => id⟩ hd
  refine ⟨fun d hd hname hlookup haccepted hdeletion => ⟨fun hheld => ?_, fun other hother hne => ?_⟩, fun hok => ?_⟩
  · have hfree : (object.held d.configuration).filter (· != desired) = none := by
      rcases hheld with h | h <;> rw [h]
      · rfl
      · simp [Option.filter]
    rw [hlocal d hd, run_ensure_free hcreate hlookup haccepted hname hfree]
  · rw [hlocal d hd]
    cases force with
    | false => rw [run_ensure_conflict hlookup hname hother hne, if_neg Bool.false_ne_true]
    | true => rw [run_ensure_forced hcreate hlookup haccepted hname (hdeletion other) hother hne, if_pos rfl]
  · rcases Option.eq_none_or_eq_some (n.device? host) with hd | ⟨d, hd⟩
    · exact absurd hok (ensure_of_absent hd)
    · have hconfigures : create.configures = true := by cases hcreate <;> rfl
      rw [hlocal d hd] at hok ⊢
      exact ⟨_, Network.device?_setDevice_self .., held_of_achieved hcreate (has_of_ensure hconfigures hok).achieved⟩

/-- A leaf with an EVPN instance of another fabric. -/
def foreignLeaf : Device := { configuration := { evpnInstance := some "core" } }

/-- The instance of the leaf stands in the way, and with force it is replaced. -/
theorem foreignLeaf_replaced :
    let n : Network := ({} : Network).setDevice "leaf-1" foreignLeaf
    let run := fun force => (UniqueObject.evpnInstance.ensure "leaf-1" "fabric"
      (.createEvpnInstance "fabric" 5 3) force).run Network.adapter n
    n.device? "leaf-1" = some foreignLeaf ∧
      run false = (.error (.conflict .evpnInstance "core"),
        n.setDevice "leaf-1" (foreignLeaf.record .getEvpnInstance)) ∧
      run true = (.ok ⟨⟩, n.setDevice "leaf-1" (UniqueObject.evpnInstance.installed "fabric"
        [.getEvpnInstance, .deleteEvpnInstance "core", .createEvpnInstance "fabric" 5 3] foreignLeaf)) ∧
      (run true).2.At "leaf-1" fun d => d.configuration.evpnInstance = some "fabric" := by
  intro n run
  have hleaf : n.device? "leaf-1" = some foreignLeaf := Network.device?_setDevice_self {} "leaf-1" foreignLeaf
  have hprotocol := ensure_protocol n "leaf-1" (.evpnInstance "fabric" 5 3)
  have hrun := fun force => ((hprotocol force).1 foreignLeaf hleaf (by decide) (by decide) (by decide)
    fun _ => rfl).2 "core" rfl (by decide)
  have hok : (run true).1 = .ok ⟨⟩ := congrArg Prod.fst (hrun true)
  exact ⟨hleaf, hrun false, hrun true, (hprotocol true).2 hok⟩

end UniqueObject

end FabricProvision
