import FabricProvision.Proofs.Dialogue.Within

/-!
# The ends of a dialogue

What a dialogue may end with if operations are answered in any way, and logins in certain ways (`Dialogue.Ends`).  A run
ends with what the answers of its adapter to logins allow (`Dialogue.ends_run`).  A dialogue is within a scope if it
stays there, and ends well if all its ends are good (`Dialogue.within_iff`).
-/

namespace FabricProvision.Dialogue

variable {α β σ : Type}

/-- Some answers lead to the end, those to logins as `logins` allows. -/
def Ends (logins : String → Except DeviceError Unit → Prop) : Dialogue α → α → Prop
  | done a, b => b = a
  | login host _ next, b => ∃ answer, logins host answer ∧ (next answer).Ends logins b
  | ask _ _ next, b => ∃ answer, (next answer).Ends logins b

/-- Some answers lead to the end. -/
abbrev MayEnd (x : Dialogue α) (a : α) : Prop := x.Ends (fun _ _ => True) a

variable {logins : String → Except DeviceError Unit → Prop} {scope : Scope} {x : Dialogue α} {f : α → Dialogue β}

theorem Ends.mayEnd {a : α} (h : x.Ends logins a) : x.MayEnd a := by
  induction x with
  | done b => exact h
  | login host credentials next ih => exact h.imp fun answer hnext => ⟨trivial, ih answer hnext.2⟩
  | ask host op next ih => exact h.imp fun answer hnext => ih answer hnext

theorem exists_mayEnd (x : Dialogue α) : ∃ a, x.MayEnd a := by
  induction x with
  | done a => exact ⟨a, rfl⟩
  | login host credentials next ih => exact (ih (.ok ⟨⟩)).imp fun a ha => ⟨_, trivial, ha⟩
  | ask host op next ih => exact (ih (.ok .ok)).imp fun a ha => ⟨_, ha⟩

theorem ends_bind {b : β} : (x >>= f).Ends logins b ↔ ∃ a, x.Ends logins a ∧ (f a).Ends logins b := by
  show (x.andThen f).Ends logins b ↔ _
  induction x with
  | done a => exact ⟨fun h => ⟨a, rfl, h⟩, fun ⟨_, ha, h⟩ => ha ▸ h⟩
  | login host credentials next ih =>
    refine ⟨fun ⟨answer, hlogin, h⟩ => ?_, fun ⟨a, ⟨answer, hlogin, ha⟩, h⟩ => ⟨answer, hlogin, (ih answer).2 ⟨a, ha, h⟩⟩⟩
    obtain ⟨a, ha, h⟩ := (ih answer).1 h
    exact ⟨a, ⟨answer, hlogin, ha⟩, h⟩
  | ask host op next ih =>
    refine ⟨fun ⟨answer, h⟩ => ?_, fun ⟨a, ⟨answer, ha⟩, h⟩ => ⟨answer, (ih answer).2 ⟨a, ha, h⟩⟩⟩
    obtain ⟨a, ha, h⟩ := (ih answer).1 h
    exact ⟨a, ⟨answer, ha⟩, h⟩

/-- A run ends with what the answers to its logins allow. -/
theorem ends_run (A : Adapter σ) {I : σ → Prop}
    (hlogin : ∀ host credentials s, I s → logins host (A.login host credentials s).1 ∧ I (A.login host credentials s).2)
    (hexecute : ∀ host op s, I s → I (A.execute host op s).2) (x : Dialogue α) {s : σ} (hs : I s) :
    x.Ends logins (x.run A s).1 := by
  induction x generalizing s with
  | done a => exact rfl
  | login host credentials next ih =>
    obtain ⟨hanswer, hnext⟩ := hlogin host credentials s hs
    exact ⟨_, hanswer, ih _ hnext⟩
  | ask host op next ih => exact ⟨_, ih _ (hexecute host op s hs)⟩

/-! ### Ends and scopes -/

/-- A dialogue is within a scope if it stays there, and ends well if all its ends are good. -/
theorem within_iff {Q : α → Prop} : x.Within scope Q ↔ x.Stays scope ∧ ∀ a, x.MayEnd a → Q a := by
  induction x with
  | done a => exact ⟨fun h => ⟨trivial, fun b hb => hb ▸ h⟩, fun h => h.2 a rfl⟩
  | login host credentials next ih =>
    refine ⟨fun ⟨hlogin, hnext⟩ => ⟨⟨hlogin, fun answer => ((ih answer).1 (hnext answer)).1⟩, ?_⟩,
      fun ⟨⟨hlogin, hstays⟩, hends⟩ => ⟨hlogin, fun answer => (ih answer).2 ⟨hstays answer, ?_⟩⟩⟩
    · rintro a ⟨answer, -, ha⟩
      exact ((ih answer).1 (hnext answer)).2 a ha
    · exact fun a ha => hends a ⟨answer, trivial, ha⟩
  | ask host op next ih =>
    refine ⟨fun ⟨hop, hnext⟩ => ⟨⟨hop, fun answer => ((ih answer).1 (hnext answer)).1⟩, ?_⟩,
      fun ⟨⟨hop, hstays⟩, hends⟩ => ⟨hop, fun answer => (ih answer).2 ⟨hstays answer, ?_⟩⟩⟩
    · rintro a ⟨answer, ha⟩
      exact ((ih answer).1 (hnext answer)).2 a ha
    · exact fun a ha => hends a ⟨answer, ha⟩

theorem stays_bind : (x >>= f).Stays scope ↔ x.Stays scope ∧ ∀ a, x.MayEnd a → (f a).Stays scope := by
  show (x.andThen f).Stays scope ↔ _
  rw [← within_iff]
  induction x with
  | done a => rfl
  | login host credentials next ih => exact and_congr_right fun _ => forall_congr' ih
  | ask host op next ih => exact and_congr_right fun _ => forall_congr' ih

end FabricProvision.Dialogue
