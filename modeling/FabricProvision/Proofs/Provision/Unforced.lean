import FabricProvision.Proofs.Device.Has
import FabricProvision.Proofs.Device.Held
import FabricProvision.Proofs.Provision.Alphabets

/-!
# Unique objects without force

Without force the creation of a unique object is at most one question and one operation, and what a device holds
afterwards can be said exactly (`UniqueObject.ensure_unforced`).  An object under another name is found by the
question, or the switch refuses a second one: it stays as it was.  The anycast gateway is the exception, as it is
configured anew whatever was there.  So it is replaced where the question fails and the configuring does not, and
only there.
-/

namespace FabricProvision

open Dialogue Operation Device

namespace UniqueObject

/-- The operation creates the object under a name. -/
inductive Creates : UniqueObject → String → Operation → Prop
  | overlayGateway (name gatewayType loopback : String) (vniAutoMap : Bool) :
      Creates .overlayGateway name (.createOverlayGateway name gatewayType loopback vniAutoMap)
  | evpnInstance (name : String) (timer count : UInt32) :
      Creates .evpnInstance name (.createEvpnInstance name timer count)
  | anycastGateway (mac ipv6Mac : String) : Creates .anycastGateway mac (.configureAnycastGateway mac ipv6Mac)

variable {object : UniqueObject} {desired other : String} {create : Operation}

/-! ### One question, one operation -/

/-- The name that the question finds: none if the device was told to refuse it. -/
theorem run_lookup (object : UniqueObject) (host : String) (d : Device) :
    ∃ answer, (query host object.lookup Response.toName).run adapter d = (answer, d.record object.lookup) ∧
      answer.toOption.join =
        if d.failing.contains object.lookup.name then none
        else (object.held d.configuration).filter (!·.isEmpty) := by
  have hanswer : object.lookup.apply.run.run d.configuration =
      (.ok (.named (object.held d.configuration)), d.configuration) := by cases object <;> rfl
  rw [run_query, execute_receive]
  rcases d.receive_cases {} object.lookup with ⟨hfailing, hr⟩ | ⟨-, hop, -⟩ | ⟨hfailing, -, hr⟩
  · rw [hr]
    exact ⟨.error _, rfl, by rw [if_pos hfailing]; rfl⟩
  · cases object <;> cases hop
  · rw [hr, hanswer]
    exact ⟨.ok ((object.held d.configuration).filter (!·.isEmpty)), rfl, by rw [hfailing]; rfl⟩

/-- Where there is another object, a second one is refused; only an anycast gateway is configured anew. -/
theorem held_apply (hcreate : object.Creates desired create) {c : Configuration}
    (hother : object.held c = some other) :
    object.held (create.apply.run.run c).2 = if object = .anycastGateway then some desired else some other := by
  cases hcreate with
  | overlayGateway | evpnInstance => exact held_apply_of_not_deletes nofun rfl hother
  | anycastGateway ipv6Mac => rfl

/-- The same of a device, which may have been told to refuse the operation. -/
theorem held_perform (hcreate : object.Creates desired create) (host : String) {d : Device}
    (hother : object.held d.configuration = some other) :
    object.held ((perform host create).run adapter d).2.configuration =
      if object = .anycastGateway ∧ ¬ d.failing.contains create.name then some desired else some other := by
  have hperform : ((perform host create).run adapter d).2 = (d.receive {} create).2 := by
    rw [run_perform, execute_receive]
    cases (d.receive {} create).1 <;> rfl
  rw [hperform]
  rcases d.receive_cases {} create with ⟨hfailing, hr⟩ | ⟨-, hop, -⟩ | ⟨hfailing, -, hr⟩
  · rw [hr, if_neg (fun h => h.2 hfailing)]
    exact hother
  · cases hcreate <;> cases hop
  · rw [hr]
    simp only [hfailing, Bool.false_eq_true, not_false_iff, and_true]
    exact held_apply hcreate hother

/-! ### Both together -/

theorem stays_ensure_local (host : String) (hcreate : object.Creates desired create) {force : Bool} :
    (object.ensure host desired create force).Stays (Scope.alone host) := by
  refine stays_ensure_within ⟨rfl, ?_⟩ ⟨rfl, ?_⟩ fun _ other => ⟨rfl, ?_⟩
  · cases object <;> nofun
  · cases hcreate <;> nofun
  · cases object <;> nofun

/-- A device with another object. -/
private theorem held_ensure (hcreate : object.Creates desired create) (host : String) {d : Device}
    (hother : object.held d.configuration = some other) (hname : other ≠ "") (hne : other ≠ desired) :
    object.held ((object.ensure host desired create false).run adapter d).2.configuration =
      if object = .anycastGateway ∧ d.failing.contains object.lookup.name ∧ ¬ d.failing.contains create.name
      then some desired else some other := by
  obtain ⟨answer, hquery, hfound⟩ := run_lookup object host d
  unfold ensure
  rw [run_bind, hquery]
  dsimp only
  rw [hfound]
  by_cases hfailing : d.failing.contains object.lookup.name = true
  · -- Nothing is found, and the creation is tried.
    simp only [hfailing, if_true, Option.filter_none, true_and]
    exact held_perform hcreate host hother
  · -- The other object is found, and nothing is sent.
    have hconflict : ((some other).filter (!·.isEmpty)).filter (· != desired) = some other := by
      simp [Option.filter, hname, hne]
    simp only [hfailing, Bool.false_eq_true, if_false, hother, hconflict, false_and, and_false]
    exact hother

/-- Without force a device that holds an object under another name keeps it, whatever it was told to refuse.  Only
an anycast gateway whose lookup fails is replaced, unless the configuring fails as well. -/
theorem ensure_unforced (n : Network) {host : String} {d : Device} (hd : n.device? host = some d)
    (hcreate : object.Creates desired create) (hother : object.held d.configuration = some other)
    (hname : other ≠ "") (hne : other ≠ desired) :
    ((object.ensure host desired create false).run Network.adapter n).2.At host fun d' =>
      object.held d'.configuration =
        if object = .anycastGateway ∧ d.failing.contains object.lookup.name ∧ ¬ d.failing.contains create.name
        then some desired else some other := by
  rw [Network.run_local (stays_ensure_local host hcreate) (Scope.alone_local host) hd]
  exact ⟨_, Network.device?_setDevice_self .., held_ensure hcreate host hother hname hne⟩

/-- A leaf with an EVPN instance that does not say which. -/
def silentLeaf : Device :=
  { configuration := { evpnInstance := some "core", anycastMac := some "0201.0101.0101" }
    failing := .ofList ["Get EVPN Instance", "Get Anycast Gateway"] }

/-- The leaf keeps its EVPN instance. -/
theorem silentLeaf_keeps_evpn :
    let n : Network := ({} : Network).setDevice "leaf-1" silentLeaf
    n.device? "leaf-1" = some silentLeaf ∧
      ((UniqueObject.evpnInstance.ensure "leaf-1" "fabric" (.createEvpnInstance "fabric" 5 3) false).run
        Network.adapter n).2.At "leaf-1" fun d => d.configuration.evpnInstance = some "core" := by
  have hleaf := Network.device?_setDevice_self {} "leaf-1" silentLeaf
  exact ⟨hleaf, ensure_unforced _ hleaf (.evpnInstance "fabric" 5 3) rfl (by decide) (by decide)⟩

/-- An anycast gateway is not always kept: the leaf takes over another one. -/
theorem anycastGateway_replaced :
    ¬ ∀ (n : Network) (host : String) (d : Device) (object : UniqueObject) (desired other : String)
        (create : Operation), n.device? host = some d → object.Creates desired create →
        object.held d.configuration = some other → other ≠ "" → other ≠ desired →
        ((object.ensure host desired create false).run Network.adapter n).2.At host fun d' =>
          object.held d'.configuration = some other := by
  intro hkept
  have hleaf := Network.device?_setDevice_self {} "leaf-1" silentLeaf
  have hkept := hkept _ "leaf-1" silentLeaf .anycastGateway "0201.0202.0202" "0201.0101.0101" _ hleaf
    (.anycastGateway "0201.0202.0202" "") rfl (by decide) (by decide)
  exact absurd hkept (by decide +kernel)

end UniqueObject

end FabricProvision
