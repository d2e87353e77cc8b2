import FabricProvision.Provision.Session
import Mathlib.Data.List.Forall2

/-!
# Schedules

Each target of a fan-out is worked on by a task of its own.  The tasks run at the same time: a switch answers one
exchange after the other, but whose exchange is next is up to the scheduler, and failures are collected as they
come in.  What the tasks do together is again a dialogue, one for each schedule (`Dialogue.Interleaves`).  The
list-order schedule, in which each task runs to its end before the next one begins, is `Dialogue.collect`; any
other one can be given as the list of the tasks whose turn it is (`Dialogue.weave`).

Work that contains fan-outs therefore is not one dialogue but any of several (`Concurrent`).
-/

namespace FabricProvision

/-- A list consists of the elements of other lists, those of each list in their order. -/
inductive Merges {α : Type} : List (List α) → List α → Prop
  | nil {lists : List (List α)} (h : ∀ list ∈ lists, list = []) : Merges lists []
  | cons {lists : List (List α)} {i : Nat} {a : α} {rest merged : List α} (h : lists[i]? = some (a :: rest))
      (hrest : Merges (lists.set i rest) merged) : Merges lists (a :: merged)

namespace Dialogue

/-- Tasks hold a dialogue together: at each point one of them makes its next exchange, and in the end the failures
of all are merged. -/
inductive Interleaves : List (Dialogue (List Failure)) → Dialogue (List Failure) → Prop
  | done {failures : List (List Failure)} {merged : List Failure} (h : Merges failures merged) :
      Interleaves (failures.map done) (done merged)
  | login {tasks : List (Dialogue (List Failure))} {i : Nat} {host : String} {credentials : Credentials}
      {next together : Except DeviceError Unit → Dialogue (List Failure)}
      (h : tasks[i]? = some (login host credentials next))
      (hnext : ∀ answer, Interleaves (tasks.set i (next answer)) (together answer)) :
      Interleaves tasks (login host credentials together)
  | ask {tasks : List (Dialogue (List Failure))} {i : Nat} {host : String} {op : Operation}
      {next together : Except DeviceError Response → Dialogue (List Failure)}
      (h : tasks[i]? = some (ask host op next))
      (hnext : ∀ answer, Interleaves (tasks.set i (next answer)) (together answer)) :
      Interleaves tasks (ask host op together)

/-- The dialogue of tasks that have their turns as listed; afterwards they finish in order.  A turn of a task that
is done, or not there, passes. -/
def weave : List Nat → List (Dialogue (List Failure)) → Dialogue (List Failure)
  | [], tasks => collect tasks
  | i :: turns, tasks =>
    match tasks[i]? with
    | some (login host credentials next) =>
      login host credentials fun answer => weave turns (tasks.set i (next answer))
    | some (ask host op next) => ask host op fun answer => weave turns (tasks.set i (next answer))
    | _ => weave turns tasks

end Dialogue

/-- Work that runs as one of several dialogues, depending on the schedule. -/
structure Concurrent (α : Type) where
  /-- The work may run as the dialogue. -/
  MayBe : Dialogue α → Prop

namespace Concurrent

variable {α β : Type}

/-- Work that depends on the answers so far may go on with different schedules after different answers. -/
instance : Monad Concurrent where
  pure a := ⟨(· = pure a)⟩
  bind work following := ⟨fun x => ∃ y next, work.MayBe y ∧ (∀ a, (following a).MayBe (next a)) ∧ x = y >>= next⟩

/-- Work in which there is nothing to schedule. -/
def only (x : Dialogue α) : Concurrent α := ⟨(· = x)⟩

/-- Does pieces of work one after the other and collects their failures. -/
def collect : List (Concurrent (List Failure)) → Concurrent (List Failure)
  | [] => return []
  | work :: rest => do
    let first ← work
    let later ← collect rest
    return first ++ later

/-- Does the same work on every target, on all of them at the same time, and collects the failures. -/
def fanOut (targets : List α) (work : α → Concurrent (List Failure)) : Concurrent (List Failure) :=
  ⟨fun x => ∃ tasks, List.Forall₂ (fun a task => (work a).MayBe task) targets tasks ∧ Dialogue.Interleaves tasks x⟩

/-- Does work in a session.  If none can be opened, that is the failure of the step called `operation`. -/
def session (operation host : String) (credentials : Credentials) (work : Concurrent (List Failure)) :
    Concurrent (List Failure) := do
  match ← only (Dialogue.connect host credentials) with
  | .ok _ => work
  | .error e => return [⟨operation, host, .login e⟩]

end Concurrent

end FabricProvision
