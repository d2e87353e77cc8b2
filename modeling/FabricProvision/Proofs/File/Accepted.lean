import Mathlib.Data.List.Basic
import FabricProvision.File.Fault
import FabricProvision.Proofs.Text.Decimal

/-!
# Accepted files

What a file has to satisfy is said without its faults (`FabricFile.Valid`), and so is the first condition that a file
violates, in the order of the file: everything before it is as it should be (`FabricFile.FirstFault`).  A file is
accepted exactly if it is valid, and otherwise it is told the first condition that it violates
(`FabricFile.validate_reports`).

Each part of a file has no faults if it is valid, and its first fault is the first condition that it violates.  Lists of
parts inherit this (`head?_flatMap_eq_some`), in which each switch looks back at the hosts before it.
-/

namespace FabricProvision

/-! ### First items -/

section lists

variable {α β : Type}

theorem head?_append_eq_some {xs ys : List α} {a : α} :
    (xs ++ ys).head? = some a ↔ xs.head? = some a ∨ xs = [] ∧ ys.head? = some a := by
  cases xs <;> simp

/-- The first item that a list of parts gives is the first item of a part, and the parts before give none. -/
theorem head?_flatMap_eq_some {g : α → List β} {xs : List α} {b : β} :
    (xs.flatMap g).head? = some b ↔
      ∃ before x after, xs = before ++ x :: after ∧ (∀ y ∈ before, g y = []) ∧ (g x).head? = some b := by
  simp only [List.head?_flatMap, List.findSome?_eq_some_iff, List.head?_eq_none_iff, and_comm]

theorem head?_guard {p : Prop} [Decidable p] {a b : α} : (if p then [a] else []).head? = some b ↔ p ∧ a = b := by
  split <;> simp [*]

theorem guard_eq_nil {p : Prop} [Decidable p] {a : α} : (if p then [a] else []) = [] ↔ ¬ p := by
  split <;> simp [*]

end lists

/-! ### MAC addresses -/

/-- The digits of hexadecimal numbers. -/
def hexDigits : List Char := "0123456789abcdefABCDEF".toList

/-- The text is a MAC address: three groups of four hexadecimal digits with points between. -/
def MacAddress (mac : String) : Prop :=
  ∃ a b c : List Char, (∀ group ∈ [a, b, c], group.length = 4 ∧ ∀ x ∈ group, x ∈ hexDigits) ∧
    mac.toList = a ++ '.' :: (b ++ '.' :: c)

private theorem isHexDigit_iff {c : Char} : isHexDigit c = true ↔ c ∈ hexDigits := by
  have hsmall : ∀ n < 128, isHexDigit (Char.ofNat n) = true → Char.ofNat n ∈ hexDigits := by decide
  have hdigits : ∀ c ∈ hexDigits, isHexDigit c = true := List.all_eq_true.1 (by decide)
  refine ⟨fun h => ?_, hdigits c⟩
  have hbound {high : Char} (hhigh : high.toNat < 128) (hle : c ≤ high) : c.toNat < 128 :=
    Nat.lt_of_le_of_lt (show c.toNat ≤ high.toNat from hle) hhigh
  have hc : c.toNat < 128 := by
    simp only [isHexDigit, Bool.or_eq_true, Bool.and_eq_true, decide_eq_true_eq] at h
    rcases h with (h | h) | h
    · exact hbound (by decide) h.2
    · exact hbound (by decide) h.2
    · exact hbound (by decide) h.2
  have hchar := hsmall c.toNat hc
  rw [Char.ofNat_toNat] at hchar
  exact hchar h

theorem isMac_iff {mac : String} : isMac mac = true ↔ MacAddress mac := by
  unfold isMac MacAddress
  simp only [← isHexDigit_iff]
  constructor
  · intro h
    split at h
    · rename_i a b c d e f g h' i j k l hmac
      refine ⟨[a, b, c, d], [e, f, g, h'], [i, j, k, l], ?_, hmac⟩
      simpa [and_assoc] using h
    · cases h
  · rintro ⟨a, b, c, hgroups, hmac⟩
    simp only [List.forall_mem_cons, List.length_eq_four] at hgroups
    obtain ⟨⟨⟨_, _, _, _, rfl⟩, ha⟩, ⟨⟨_, _, _, _, rfl⟩, hb⟩, ⟨⟨_, _, _, _, rfl⟩, hc⟩, -⟩ := hgroups
    rw [hmac]
    simp only [List.forall_mem_cons] at ha hb hc
    simp [ha, hb, hc]

/-! ### What is asked of a file -/

/-- The fabric has a name, and waiting for a cluster is possible. -/
structure FabricSettings.Valid (s : FabricSettings) : Prop where
  name : s.name ≠ ""
  interval : 0 < s.polling.interval.nanos
  timeout : s.polling.interval.nanos ≤ s.polling.timeout.nanos

/-- The range has units. -/
def PoolRange.Expands (k : Kind) (r : PoolRange) : Prop := ∃ units, k.expand r.range r.allowSmall = .ok units

/-- The ranges of all pools in the order of the file, each with the kind of its pool. -/
def PoolSettings.entries (s : PoolSettings) : List (Kind × PoolRange) :=
  s.numbers.map (.number, ·) ++ s.addresses.map (.address, ·) ++ s.links.map (.link, ·)

def PoolSettings.Valid (s : PoolSettings) : Prop := ∀ entry ∈ s.entries, entry.2.Expands entry.1

/-- Where there is an overlay, its MAC addresses are well formed, of which that for IPv6 may be left out. -/
structure OverlaySpec.Valid (o : OverlaySpec) : Prop where
  anycastMac : o.enabled → MacAddress o.anycastMac
  ipv6AnycastMac : o.enabled → o.ipv6AnycastMac = "" ∨ MacAddress o.ipv6AnycastMac

/-- The address of the interface is written as a block. -/
def InterfaceSpec.Written (i : InterfaceSpec) : Prop := ∃ b, Block.Written i.ip.toList b

/-- An address without a donor is well formed, and only a loopback may be without both. -/
structure InterfaceSpec.Valid (i : InterfaceSpec) : Prop where
  wellFormed : i.donor = none → i.ip ≠ "" → i.Written
  addressed : i.donor = none → i.kind ≠ .loopback → i.ip ≠ ""

structure SwitchSpec.Valid (s : SwitchSpec) : Prop where
  host : s.host ≠ ""
  overlay : s.overlay.Valid
  interfaces : ∀ i ∈ s.interfaces, i.Valid

/-- The cluster has a name, and one or two nodes. -/
structure ClusterSpec.Valid (c : ClusterSpec) : Prop where
  name : c.name ≠ ""
  nodes : c.nodes.length = 1 ∨ c.nodes.length = 2

/-- What is asked of a file. -/
structure FabricFile.Valid (f : FabricFile) : Prop where
  settings : f.settings.Valid
  pools : f.pools.Valid
  switches : ∀ s ∈ f.switches, s.Valid
  hosts : (f.switches.map (·.host)).Nodup
  clusters : ∀ c ∈ f.clusters.delete ++ f.clusters.update ++ f.clusters.create, c.Valid

/-! ### What is violated first -/

/-- The first condition that an interface violates. -/
inductive InterfaceSpec.FirstFault (i : InterfaceSpec) : SwitchFault → Prop
  | malformedAddress (hdonor : i.donor = none) (hip : i.ip ≠ "") (h : ¬ i.Written) :
      FirstFault i (.malformedAddress i)
  | missingAddress (hdonor : i.donor = none) (hkind : i.kind ≠ .loopback) (h : i.ip = "") :
      FirstFault i (.missingAddress i)

/-- The first condition that a switch violates which is listed after the hosts `earlier`. -/
inductive SwitchSpec.FirstFault (earlier : List String) (s : SwitchSpec) : SwitchFault → Prop
  | emptyHost (h : s.host = "") : FirstFault earlier s .emptyHost
  | repeatedHost (hhost : s.host ≠ "") (h : s.host ∈ earlier) : FirstFault earlier s .repeatedHost
  | anycastMac (hhost : s.host ≠ "") (hnew : s.host ∉ earlier) (henabled : s.overlay.enabled)
      (h : ¬ MacAddress s.overlay.anycastMac) : FirstFault earlier s (.anycastMac s.overlay.anycastMac)
  | ipv6AnycastMac (hhost : s.host ≠ "") (hnew : s.host ∉ earlier) (henabled : s.overlay.enabled)
      (hmac : MacAddress s.overlay.anycastMac)
      (h : ¬ (s.overlay.ipv6AnycastMac = "" ∨ MacAddress s.overlay.ipv6AnycastMac)) :
      FirstFault earlier s (.ipv6AnycastMac s.overlay.ipv6AnycastMac)
  | interface {before after : List InterfaceSpec} {i : InterfaceSpec} {fault : SwitchFault} (hhost : s.host ≠ "")
      (hnew : s.host ∉ earlier) (hoverlay : s.overlay.Valid) (hlist : s.interfaces = before ++ i :: after)
      (hbefore : ∀ j ∈ before, j.Valid) (h : i.FirstFault fault) : FirstFault earlier s fault

/-- The first condition that a cluster violates. -/
inductive ClusterSpec.FirstFault (c : ClusterSpec) : ClusterFault → Prop
  | emptyName (h : c.name = "") : FirstFault c .emptyName
  | noNodes (hname : c.name ≠ "") (h : c.nodes.length = 0) : FirstFault c .noNodes
  | tooManyNodes (hname : c.name ≠ "") (h : 2 < c.nodes.length) : FirstFault c .tooManyNodes

/-- The first condition that the settings violate. -/
inductive FabricSettings.FirstFault (s : FabricSettings) : FileFault → Prop
  | emptyName (h : s.name = "") : FirstFault s .emptyName
  | polling (hname : s.name ≠ "")
      (h : ¬ (0 < s.polling.interval.nanos ∧ s.polling.interval.nanos ≤ s.polling.timeout.nanos)) :
      FirstFault s (.polling s.polling)

/-- The first range without units, with what is wrong with it. -/
inductive PoolSettings.FirstFault (s : PoolSettings) : FileFault → Prop
  | range {before after : List (Kind × PoolRange)} {k : Kind} {r : PoolRange} {cause : RangeError}
      (hlist : s.entries = before ++ (k, r) :: after) (hbefore : ∀ entry ∈ before, entry.2.Expands entry.1)
      (h : k.expand r.range r.allowSmall = .error cause) : FirstFault s (.badRange k r.category cause)

/-- The first condition that a file violates. -/
inductive FabricFile.FirstFault (f : FabricFile) : FileFault → Prop
  | settings {fault : FileFault} (h : f.settings.FirstFault fault) : FirstFault f fault
  | pools {fault : FileFault} (hsettings : f.settings.Valid) (h : f.pools.FirstFault fault) : FirstFault f fault
  | switch {before after : List SwitchSpec} {s : SwitchSpec} {fault : SwitchFault} (hsettings : f.settings.Valid)
      (hpools : f.pools.Valid) (hlist : f.switches = before ++ s :: after) (hbefore : ∀ e ∈ before, e.Valid)
      (hhosts : (before.map (·.host)).Nodup) (h : s.FirstFault (before.map (·.host)) fault) :
      FirstFault f (.switch s.host fault)
  | cluster {before after : List ClusterSpec} {c : ClusterSpec} {fault : ClusterFault} (hsettings : f.settings.Valid)
      (hpools : f.pools.Valid) (hswitches : ∀ s ∈ f.switches, s.Valid) (hhosts : (f.switches.map (·.host)).Nodup)
      (hlist : f.clusters.delete ++ f.clusters.update ++ f.clusters.create = before ++ c :: after)
      (hbefore : ∀ e ∈ before, e.Valid) (h : c.FirstFault fault) : FirstFault f (.cluster c.name fault)

/-! ### Settings and ranges -/

namespace FabricSettings

variable {s : FabricSettings} {fault : FileFault}

private theorem polling_iff {p : Polling} : p.interval.nanos = 0 ∨ p.timeout < p.interval ↔
    ¬ (0 < p.interval.nanos ∧ p.interval.nanos ≤ p.timeout.nanos) := by
  rw [show p.timeout < p.interval ↔ p.timeout.nanos < p.interval.nanos from Iff.rfl]
  omega

theorem faults_eq_nil : s.faults = [] ↔ s.Valid := by
  unfold faults
  rw [List.append_eq_nil_iff, guard_eq_nil, guard_eq_nil, polling_iff, not_not, String.isEmpty_iff]
  constructor
  · rintro ⟨hname, hinterval, htimeout⟩
    exact ⟨hname, hinterval, htimeout⟩
  · rintro ⟨hname, hinterval, htimeout⟩
    exact ⟨hname, hinterval, htimeout⟩

theorem head?_faults : s.faults.head? = some fault ↔ s.FirstFault fault := by
  unfold faults
  rw [head?_append_eq_some, head?_guard, head?_guard, guard_eq_nil, polling_iff, String.isEmpty_iff]
  constructor
  · rintro (⟨hname, rfl⟩ | ⟨hname, hpolling, rfl⟩)
    · exact .emptyName hname
    · exact .polling hname hpolling
  · rintro (hname | ⟨hname, hpolling⟩)
    · exact .inl ⟨hname, rfl⟩
    · exact .inr ⟨hname, hpolling, rfl⟩

end FabricSettings

namespace PoolSettings

variable {s : PoolSettings} {k : Kind} {r : PoolRange} {fault : FileFault}

private theorem faults_eq : s.faults = s.entries.flatMap fun entry => rangeFaults entry.1 entry.2 := by
  simp only [faults, entries, List.flatMap_append, List.flatMap_map]

private theorem rangeFaults_eq_nil : rangeFaults k r = [] ↔ r.Expands k := by
  unfold rangeFaults PoolRange.Expands
  cases k.expand r.range r.allowSmall <;> simp

private theorem head?_rangeFaults : (rangeFaults k r).head? = some fault ↔
    ∃ cause, k.expand r.range r.allowSmall = .error cause ∧ fault = .badRange k r.category cause := by
  unfold rangeFaults
  cases k.expand r.range r.allowSmall <;> simp [eq_comm]

theorem faults_eq_nil : s.faults = [] ↔ s.Valid := by
  rw [faults_eq, List.flatMap_eq_nil_iff]
  exact forall₂_congr fun _ _ => rangeFaults_eq_nil

theorem head?_faults : s.faults.head? = some fault ↔ s.FirstFault fault := by
  rw [faults_eq, head?_flatMap_eq_some]
  simp only [rangeFaults_eq_nil, head?_rangeFaults]
  constructor
  · rintro ⟨before, ⟨k, r⟩, after, hlist, hbefore, cause, hcause, rfl⟩
    exact .range hlist hbefore hcause
  · rintro ⟨hlist, hbefore, hcause⟩
    exact ⟨_, _, _, hlist, hbefore, _, hcause, rfl⟩

end PoolSettings

/-! ### Switches -/

namespace InterfaceSpec

variable {i : InterfaceSpec} {fault : SwitchFault}

private theorem isSome_parse? : (Block.parse? i.ip.toList).isSome ↔ i.Written := by
  simp only [Option.isSome_iff_exists, Block.parse?_eq_some, Written]

/-- The faults of an interface by what its address is. -/
private theorem faults_cases (i : InterfaceSpec) :
    (i.donor ≠ none ∧ i.faults = []) ∨
      (i.donor = none ∧ i.ip = "" ∧ i.faults = if i.kind ≠ .loopback then [.missingAddress i] else []) ∨
      (i.donor = none ∧ i.ip ≠ "" ∧
        i.faults = if ¬ (Block.parse? i.ip.toList).isSome then [.malformedAddress i] else []) := by
  unfold faults
  by_cases hdonor : i.donor = none
  · by_cases hip : i.ip = ""
    · exact .inr (.inl ⟨hdonor, hip, by simp [hdonor, hip]⟩)
    · exact .inr (.inr ⟨hdonor, hip, by rw [if_neg (by simp [hdonor]), if_neg (by simp [hip]), ite_not]⟩)
  · exact .inl ⟨hdonor, if_pos (Option.isSome_iff_ne_none.2 hdonor)⟩

theorem faults_eq_nil : i.faults = [] ↔ i.Valid := by
  rcases i.faults_cases with ⟨hdonor, h⟩ | ⟨hdonor, hip, h⟩ | ⟨hdonor, hip, h⟩ <;> rw [h]
  · exact iff_of_true rfl ⟨fun hnone => absurd hnone hdonor, fun hnone => absurd hnone hdonor⟩
  · rw [guard_eq_nil]
    constructor
    · exact fun hkind => ⟨fun _ hne => absurd hip hne, fun _ hne => absurd hne hkind⟩
    · exact fun hvalid hkind => hvalid.addressed hdonor hkind hip
  · rw [guard_eq_nil, not_not, isSome_parse?]
    constructor
    · exact fun hwritten => ⟨fun _ _ => hwritten, fun _ _ => hip⟩
    · exact fun hvalid => hvalid.wellFormed hdonor hip

theorem head?_faults : i.faults.head? = some fault ↔ i.FirstFault fault := by
  rcases i.faults_cases with ⟨hdonor, h⟩ | ⟨hdonor, hip, h⟩ | ⟨hdonor, hip, h⟩ <;> rw [h]
  · constructor
    · nofun
    · rintro (⟨hnone, -, -⟩ | ⟨hnone, -, -⟩) <;> exact absurd hnone hdonor
  · rw [head?_guard]
    constructor
    · rintro ⟨hkind, rfl⟩
      exact .missingAddress hdonor hkind hip
    · rintro (⟨-, hne, -⟩ | ⟨-, hkind, -⟩)
      · exact absurd hip hne
      · exact ⟨hkind, rfl⟩
  · rw [head?_guard, isSome_parse?]
    constructor
    · rintro ⟨hwritten, rfl⟩
      exact .malformedAddress hdonor hip hwritten
    · rintro (⟨-, -, hwritten⟩ | ⟨-, -, hempty⟩)
      · exact ⟨hwritten, rfl⟩
      · exact absurd hempty hip

end InterfaceSpec

namespace OverlaySpec

variable {o : OverlaySpec}

/-- The faults of an overlay, its MAC addresses one after the other. -/
private theorem faults_eq (o : OverlaySpec) : o.faults =
    (if o.enabled ∧ ¬ isMac o.anycastMac then [.anycastMac o.anycastMac] else []) ++
      if o.enabled ∧ ¬ (o.ipv6AnycastMac = "" ∨ isMac o.ipv6AnycastMac) then [.ipv6AnycastMac o.ipv6AnycastMac]
      else [] := by
  unfold faults
  cases o.enabled
  · rfl
  · simp only [Bool.not_true, Bool.false_eq_true, if_false, true_and, ite_not, Bool.or_eq_true, String.isEmpty_iff]

theorem faults_eq_nil : o.faults = [] ↔ o.Valid := by
  rw [faults_eq, List.append_eq_nil_iff, guard_eq_nil, guard_eq_nil, not_and_not_right, not_and_not_right, isMac_iff,
    isMac_iff]
  constructor
  · exact fun ⟨hmac, hipv6⟩ => ⟨hmac, hipv6⟩
  · exact fun ⟨hmac, hipv6⟩ => ⟨hmac, hipv6⟩

end OverlaySpec

namespace SwitchSpec

variable {s : SwitchSpec} {earlier : List String} {fault : SwitchFault}

theorem faults_eq_nil : s.faults earlier = [] ↔ s.Valid ∧ s.host ∉ earlier := by
  unfold faults
  simp only [List.append_eq_nil_iff, guard_eq_nil, OverlaySpec.faults_eq_nil, List.flatMap_eq_nil_iff,
    InterfaceSpec.faults_eq_nil, String.isEmpty_iff, List.contains_iff_mem]
  constructor
  · rintro ⟨⟨⟨hhost, hnew⟩, hoverlay⟩, hinterfaces⟩
    exact ⟨⟨hhost, hoverlay, hinterfaces⟩, hnew⟩
  · rintro ⟨⟨hhost, hoverlay, hinterfaces⟩, hnew⟩
    exact ⟨⟨⟨hhost, hnew⟩, hoverlay⟩, hinterfaces⟩

theorem head?_faults : (s.faults earlier).head? = some fault ↔ s.FirstFault earlier fault := by
  unfold faults
  simp only [head?_append_eq_some, head?_guard, head?_flatMap_eq_some, List.append_eq_nil_iff, guard_eq_nil,
    OverlaySpec.faults_eq_nil, InterfaceSpec.faults_eq_nil, InterfaceSpec.head?_faults, String.isEmpty_iff,
    List.contains_iff_mem]
  rw [OverlaySpec.faults_eq, head?_append_eq_some, head?_guard, head?_guard, guard_eq_nil, not_and_not_right, isMac_iff,
    isMac_iff]
  constructor
  · rintro (((⟨hhost, rfl⟩ | ⟨hhost, hmem, rfl⟩) |
      ⟨⟨hhost, hnew⟩, ⟨⟨henabled, hmac⟩, rfl⟩ | ⟨hmac, ⟨henabled, hipv6⟩, rfl⟩⟩) |
      ⟨⟨⟨hhost, hnew⟩, hoverlay⟩, before, i, after, hlist, hbefore, hi⟩)
    · exact .emptyHost hhost
    · exact .repeatedHost hhost hmem
    · exact .anycastMac hhost hnew henabled hmac
    · exact .ipv6AnycastMac hhost hnew henabled (hmac henabled) hipv6
    · exact .interface hhost hnew hoverlay hlist hbefore hi
  · rintro (hhost | ⟨hhost, hmem⟩ | ⟨hhost, hnew, henabled, hmac⟩ | ⟨hhost, hnew, henabled, hmac, hipv6⟩ |
      ⟨hhost, hnew, hoverlay, hlist, hbefore, hi⟩)
    · exact .inl (.inl (.inl ⟨hhost, rfl⟩))
    · exact .inl (.inl (.inr ⟨hhost, hmem, rfl⟩))
    · exact .inl (.inr ⟨⟨hhost, hnew⟩, .inl ⟨⟨henabled, hmac⟩, rfl⟩⟩)
    · exact .inl (.inr ⟨⟨hhost, hnew⟩, .inr ⟨fun _ => hmac, ⟨henabled, hipv6⟩, rfl⟩⟩)
    · exact .inr ⟨⟨⟨hhost, hnew⟩, hoverlay⟩, _, _, _, hlist, hbefore, hi⟩

/-- What is wrong with a switch depends on which hosts were before it, not on their order. -/
theorem faults_congr {earlier' : List String} (h : s.host ∈ earlier ↔ s.host ∈ earlier') :
    s.faults earlier = s.faults earlier' := by
  unfold faults
  simp only [List.contains_iff_mem, h]

end SwitchSpec

namespace FabricFile

variable {earlier : List String} {ss : List SwitchSpec} {fault : FileFault}

theorem switchFaults_eq_nil : switchFaults earlier ss = [] ↔
    (∀ s ∈ ss, s.Valid) ∧ (ss.map (·.host)).Nodup ∧ ∀ s ∈ ss, s.host ∉ earlier := by
  induction ss generalizing earlier with
  | nil => simp [switchFaults]
  | cons s rest ih =>
    rw [switchFaults, List.append_eq_nil_iff, List.map_eq_nil_iff, SwitchSpec.faults_eq_nil, ih]
    have hhosts : (∀ e ∈ rest, e.host ∉ s.host :: earlier) ↔
        s.host ∉ rest.map (·.host) ∧ ∀ e ∈ rest, e.host ∉ earlier := by
      simp only [List.mem_cons, not_or, List.mem_map, not_exists, not_and, forall_and]
    rw [hhosts, List.forall_mem_cons, List.forall_mem_cons, List.map_cons, List.nodup_cons]
    constructor
    · rintro ⟨⟨hs, hnew⟩, hrest, hnodup, hfirst, hearlier⟩
      exact ⟨⟨hs, hrest⟩, ⟨hfirst, hnodup⟩, hnew, hearlier⟩
    · rintro ⟨⟨hs, hrest⟩, ⟨hfirst, hnodup⟩, hnew, hearlier⟩
      exact ⟨⟨hs, hnew⟩, hrest, hnodup, hfirst, hearlier⟩

/-- The first fault of switches is that of one of them, and those before it have none. -/
private theorem head?_switchFaults : (switchFaults earlier ss).head? = some fault ↔
    ∃ before s after, ss = before ++ s :: after ∧ switchFaults earlier before = [] ∧
      ∃ cause, (s.faults (before.map (·.host) ++ earlier)).head? = some cause ∧ fault = .switch s.host cause := by
  induction ss generalizing earlier with
  | nil => simp [switchFaults]
  | cons s rest ih =>
    rw [switchFaults, head?_append_eq_some, List.map_eq_nil_iff, ih, List.head?_map, Option.map_eq_some_iff]
    constructor
    · rintro (⟨cause, hcause, rfl⟩ | ⟨hs, before, s', after, rfl, hbefore, cause, hcause, rfl⟩)
      · exact ⟨[], s, rest, rfl, rfl, cause, hcause, rfl⟩
      · refine ⟨s :: before, s', after, rfl, ?_, cause, ?_, rfl⟩
        · rw [switchFaults, hs, hbefore]
          rfl
        · rw [← hcause]
          exact congrArg List.head? (SwitchSpec.faults_congr (by simp [or_left_comm]))
    · rintro ⟨before, s', after, hlist, hbefore, cause, hcause, rfl⟩
      cases before with
      | nil =>
        obtain ⟨rfl, rfl⟩ := List.cons.inj hlist
        exact .inl ⟨cause, hcause, rfl⟩
      | cons b before =>
        obtain ⟨rfl, rfl⟩ := List.cons.inj hlist
        rw [switchFaults, List.append_eq_nil_iff, List.map_eq_nil_iff] at hbefore
        refine .inr ⟨hbefore.1, before, s', after, rfl, hbefore.2, cause, ?_, rfl⟩
        rw [← hcause]
        exact congrArg List.head? (SwitchSpec.faults_congr (by simp [or_left_comm]))

end FabricFile

/-! ### Clusters -/

namespace ClusterSpec

variable {c : ClusterSpec} {fault : ClusterFault}

theorem faults_eq_nil : c.faults = [] ↔ c.Valid := by
  unfold faults maxNodes
  simp only [List.append_eq_nil_iff, guard_eq_nil, String.isEmpty_iff, List.isEmpty_iff_length_eq_zero]
  constructor
  · rintro ⟨⟨hname, hsome⟩, htwo⟩
    exact ⟨hname, by omega⟩
  · rintro ⟨hname, hnodes⟩
    exact ⟨⟨hname, by omega⟩, by omega⟩

theorem head?_faults : c.faults.head? = some fault ↔ c.FirstFault fault := by
  unfold faults maxNodes
  simp only [head?_append_eq_some, head?_guard, List.append_eq_nil_iff, guard_eq_nil, String.isEmpty_iff,
    List.isEmpty_iff_length_eq_zero]
  constructor
  · rintro ((⟨hname, rfl⟩ | ⟨hname, hnone, rfl⟩) | ⟨⟨hname, -⟩, hmany, rfl⟩)
    · exact .emptyName hname
    · exact .noNodes hname hnone
    · exact .tooManyNodes hname hmany
  · rintro (hname | ⟨hname, hnone⟩ | ⟨hname, hmany⟩)
    · exact .inl (.inl ⟨hname, rfl⟩)
    · exact .inl (.inr ⟨hname, hnone, rfl⟩)
    · exact .inr ⟨⟨hname, by omega⟩, hmany, rfl⟩

end ClusterSpec

/-! ### Files -/

namespace FabricFile

variable {f : FabricFile} {fault : FileFault}

theorem faults_eq_nil : f.faults = [] ↔ f.Valid := by
  unfold faults ClusterBatches.all
  simp only [List.append_eq_nil_iff, FabricSettings.faults_eq_nil, PoolSettings.faults_eq_nil, switchFaults_eq_nil,
    List.flatMap_eq_nil_iff, List.map_eq_nil_iff, ClusterSpec.faults_eq_nil]
  constructor
  · rintro ⟨⟨⟨hsettings, hpools⟩, hswitches, hhosts, -⟩, hclusters⟩
    exact ⟨hsettings, hpools, hswitches, hhosts, hclusters⟩
  · rintro ⟨hsettings, hpools, hswitches, hhosts, hclusters⟩
    exact ⟨⟨⟨hsettings, hpools⟩, hswitches, hhosts, by simp⟩, hclusters⟩

theorem head?_faults : f.faults.head? = some fault ↔ f.FirstFault fault := by
  unfold faults ClusterBatches.all
  simp only [head?_append_eq_some, List.append_eq_nil_iff, FabricSettings.faults_eq_nil, FabricSettings.head?_faults,
    PoolSettings.faults_eq_nil, PoolSettings.head?_faults, switchFaults_eq_nil, head?_switchFaults,
    head?_flatMap_eq_some, List.map_eq_nil_iff, List.head?_map, Option.map_eq_some_iff, ClusterSpec.faults_eq_nil,
    ClusterSpec.head?_faults, SwitchSpec.head?_faults, List.append_nil]
  constructor
  · rintro (((hsettings | ⟨hsettings, hpools⟩) |
      ⟨⟨hsettings, hpools⟩, before, s, after, hlist, ⟨hbefore, hhosts, -⟩, cause, hcause, rfl⟩) |
      ⟨⟨⟨hsettings, hpools⟩, hswitches, hhosts, -⟩, before, c, after, hlist, hbefore, cause, hcause, rfl⟩)
    · exact .settings hsettings
    · exact .pools hsettings hpools
    · exact .switch hsettings hpools hlist hbefore hhosts hcause
    · exact .cluster hsettings hpools hswitches hhosts hlist hbefore hcause
  · have hnone (ss : List SwitchSpec) : ∀ s ∈ ss, s.host ∉ ([] : List String) := fun _ _ => List.not_mem_nil
    rintro (hsettings | ⟨hsettings, hpools⟩ | ⟨hsettings, hpools, hlist, hbefore, hhosts, hcause⟩ |
      ⟨hsettings, hpools, hswitches, hhosts, hlist, hbefore, hcause⟩)
    · exact .inl (.inl (.inl hsettings))
    · exact .inl (.inl (.inr ⟨hsettings, hpools⟩))
    · exact .inl (.inr ⟨⟨hsettings, hpools⟩, _, _, _, hlist, ⟨hbefore, hhosts, hnone _⟩, _, hcause, rfl⟩)
    · exact .inr ⟨⟨⟨hsettings, hpools⟩, hswitches, hhosts, hnone _⟩, _, _, _, hlist, hbefore, _, hcause, rfl⟩

theorem validate_eq_ok : f.validate = .ok ⟨⟩ ↔ f.faults = [] := by
  unfold validate
  cases f.faults <;> simp

theorem validate_eq_error : f.validate = .error fault ↔ f.faults.head? = some fault := by
  unfold validate
  cases f.faults <;> simp

/-- The validator accepts exactly the valid files.  Any other file is told the first condition that it violates: the
fabric's name before the waiting times, the settings before the ranges, these before the switches and these before the
clusters.  Ranges are gone through for numbers, addresses and links, switches in their order, each with its host before
its MAC addresses and these before its interfaces, and clusters as they are deleted, updated and created. -/
theorem validate_reports (f : FabricFile) :
    (f.validate = .ok ⟨⟩ ↔ f.Valid) ∧ ∀ fault, f.validate = .error fault ↔ f.FirstFault fault := by
  refine ⟨?_, fun fault => ?_⟩
  · rw [validate_eq_ok, faults_eq_nil]
  · rw [validate_eq_error, head?_faults]

end FabricFile

end FabricProvision
