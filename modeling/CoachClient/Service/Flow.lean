/-
CoachClient.Service.Flow — programs that look at the session, change it and
exchange messages.

* `Flow α` — such a program: a finished one with its result, or a step and what
  follows it. An exchange is the only step that takes time.
* `World` — the session and what has gone over the wire.
* `Surroundings` — what a program meets: the behaviour of the service, the hour,
  and the changes that others make to the session when a request arrives.
* `Flow.run` — the result of a program and the world it leaves.
-/
import CoachClient.Access.Store
import CoachClient.Http.Exchange

namespace CoachClient.Service

open CoachClient.Access CoachClient.Http

/-! ## 1. Programs -/

/-- A program with a result of type `α`. -/
inductive Flow (α : Type) : Type where
  | done (a : α)
  /-- Look at the session. -/
  | observe (next : Snapshot → Flow α)
  /-- Change the session. -/
  | update (change : Change) (next : Flow α)
  /-- Send a request and wait for what comes of it. -/
  | exchange (dispatch : Dispatch) (next : Outcome → Flow α)

namespace Flow

/-- One program after another. -/
def bind {α β : Type} : Flow α → (α → Flow β) → Flow β
  | .done a, f => f a
  | .observe next, f => .observe fun s => (next s).bind f
  | .update change next, f => .update change (next.bind f)
  | .exchange dispatch next, f => .exchange dispatch fun o => (next o).bind f

instance : Monad Flow where
  pure := .done
  bind := Flow.bind

/-- Look at the session. -/
def look : Flow Snapshot := .observe .done

/-- Change the session. -/
def change (c : Change) : Flow Unit := .update c (.done ())

end Flow

/-! ## 2. Runs -/

/-- The session and what has gone over the wire. -/
structure World where
  store : Store
  traffic : Traffic
  deriving DecidableEq, Repr

/-- Nobody has signed in, and nothing has been sent. -/
def World.fresh : World := ⟨Store.fresh, Traffic.none⟩

/-- What a program meets. -/
structure Surroundings where
  service : Http.Service
  /-- The hour by which cookies expire, in seconds. -/
  now : Int
  /-- The changes that others make when the request with a number arrives. -/
  meanwhile : Nat → List Change := fun _ => []

/-- The changes that others make while requests with the numbers from `first`
on arrive, `count` of them. -/
def Surroundings.changes (e : Surroundings) (first count : Nat) : List Change :=
  (List.range' first count).flatMap e.meanwhile

/-- Carry out a dispatch in the world. -/
def World.perform (e : Surroundings) (d : Dispatch) (w : World) : Outcome × World :=
  let first := w.traffic.requests.length
  let (outcome, traffic) := Http.perform e.service e.now d w.traffic
  (outcome, ⟨w.store.applyAll (e.changes first (traffic.requests.length - first)), traffic⟩)

/-- Run a program. -/
def Flow.run {α : Type} (e : Surroundings) : Flow α → World → α × World
  | .done a, w => (a, w)
  | .observe next, w => (next w.store.snapshot).run e w
  | .update change next, w => next.run e { w with store := w.store.apply change }
  | .exchange dispatch next, w =>
    let (outcome, w') := w.perform e dispatch
    (next outcome).run e w'

end CoachClient.Service
