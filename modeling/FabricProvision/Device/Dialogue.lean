import FabricProvision.Device.Operation
import FabricProvision.Device.Response

/-!
# Dialogues with switches

What the library does to switches is a dialogue: a tree of logins and operations in which each next step may
depend on the answers so far.  An adapter says how switches answer, and `Dialogue.run` plays a dialogue against
it.  The rules of provisioning are thereby values, which do not depend on what switches are.
-/

namespace FabricProvision

/-- A dialogue with switches that ends in an `α`. -/
inductive Dialogue (α : Type) where
  | done (a : α)
  | login (host : String) (credentials : Credentials) (next : Except DeviceError Unit → Dialogue α)
  | ask (host : String) (op : Operation) (next : Except DeviceError Response → Dialogue α)

/-- How switches, whose state is a `σ`, answer. -/
structure Adapter (σ : Type) where
  login : String → Credentials → σ → Except DeviceError Unit × σ
  execute : String → Operation → σ → Except DeviceError Response × σ

namespace Dialogue

variable {α β : Type}

/-- Continues a dialogue with what follows from its end. -/
def andThen (x : Dialogue α) (f : α → Dialogue β) : Dialogue β :=
  match x with
  | done a => f a
  | login host credentials next => .login host credentials fun answer => (next answer).andThen f
  | ask host op next => .ask host op fun answer => (next answer).andThen f

instance : Monad Dialogue where
  pure := done
  bind := andThen

/-- Asks for a login. -/
def connect (host : String) (credentials : Credentials) : Dialogue (Except DeviceError Unit) :=
  login host credentials done

/-- Sends one operation. -/
def send (host : String) (op : Operation) : Dialogue (Except DeviceError Response) := ask host op done

/-- Plays a dialogue. -/
def run {σ : Type} (adapter : Adapter σ) : Dialogue α → σ → α × σ
  | done a, s => (a, s)
  | login host credentials next, s =>
    let (answer, s) := adapter.login host credentials s
    (next answer).run adapter s
  | ask host op next, s =>
    let (answer, s) := adapter.execute host op s
    (next answer).run adapter s

/-- A dialogue can be played in two parts. -/
theorem run_bind {σ : Type} (adapter : Adapter σ) (x : Dialogue α) (f : α → Dialogue β) (s : σ) :
    (x >>= f).run adapter s = (f (x.run adapter s).1).run adapter (x.run adapter s).2 := by
  show (x.andThen f).run adapter s = _
  induction x generalizing s with
  | done a => rfl
  | login host credentials next ih => exact ih _ _
  | ask host op next ih => exact ih _ _

end Dialogue

end FabricProvision
