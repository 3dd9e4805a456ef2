/-
CoachClient.Proofs.Service.Flight — programs on their way, one moment after the
other.

* `Flight` — where a program is: done, called and not begun with, about to send a
  request, or waiting for the answer to one that has arrived.
* `Flow.depart` — a program up to its next exchange, which takes no time.
* `Flight.advance` — the next thing that happens to an exchange: it begins, its
  request arrives, or its answer does.
* `Moment`, `Flight.after` — what can happen meanwhile, in any order: progress,
  changes of the session by others, an abort, the end of the time limit.
* `progress_leg`, `progress_exchange`, `progress_perform` — with progress alone a
  flight comes to what its exchange comes to as a whole, after no more than
  `patience` moments.

An exchange as a whole carries out all its requests at once and lets others act when
they arrive. Here it is taken apart, so that others can act wherever it waits. The
induction is on the redirects that are left, with the request and the world left open.
-/
import CoachClient.Proofs.Service.Handles

namespace CoachClient.Service

open CoachClient.Access CoachClient.Http CoachClient.Url

/-! ## 1. Where a program is -/

/-- One request of an exchange, with what is left of the exchange. -/
structure Leg where
  dispatch : Dispatch
  /-- The URL with which the exchange began. -/
  first : Url
  /-- The redirects that may still be followed. -/
  hops : Nat
  request : Request

/-- Where a program is between two moments. -/
inductive Flight (α : Type) : Type where
  | landed (a : α)
  /-- The dispatch has been made, and nothing has been done about it. -/
  | called (dispatch : Dispatch) (next : Outcome → Flow α)
  | sending (leg : Leg) (next : Outcome → Flow α)
  /-- The request has arrived. -/
  | awaiting (leg : Leg) (answer : Answer) (next : Outcome → Flow α)

/-- A program up to its next exchange. Only exchanges take time. -/
def Flow.depart {α : Type} : Flow α → Store → Flight α × Store
  | .done a, s => (.landed a, s)
  | .observe next, s => (next s.snapshot).depart s
  | .update change next, s => next.depart (s.apply change)
  | .exchange dispatch next, s => (.called dispatch next, s)

/-! ## 2. Moments -/

namespace Flight

variable {α : Type}

/-- Go on with what has come of an exchange. -/
def resume (next : Outcome → Flow α) (outcome : Outcome) (w : World) : Flight α × World :=
  let (f, store) := (next outcome).depart w.store
  (f, { w with store })

/-- Go on with what has come of an exchange and what has gone over the wire since. -/
def resumeWith (next : Outcome → Flow α) (result : Outcome × Traffic) (w : World) :
    Flight α × World :=
  resume next result.1 { w with traffic := result.2 }

/-- Begin with a dispatch. -/
def begin (d : Dispatch) (next : Outcome → Flow α) (w : World) : Flight α × World :=
  match d.cancellation, d.request with
  | .before, _ => resume next .cancelled w
  | _, .error fault => resume next (.failed fault) w
  | _, .ok r =>
    if d.deadline.isZero then resume next .timedOut w
    else (.sending ⟨d, r.url, maxRedirects, r⟩ next, w)

/-- Send the request of a leg. -/
def send (service : Http.Service) (leg : Leg) (next : Outcome → Flow α) (w : World) :
    Flight α × World :=
  let sent := leg.request.withCookies w.traffic.jar
  let arrived : World := { w with traffic.requests := w.traffic.requests ++ [sent] }
  match service w.traffic.requests sent with
  | .unreachable => resume next (.failed (.noAnswer leg.first)) w
  | answer =>
    if leg.dispatch.cancellation = .onArrival then resume next .cancelled arrived
    else (.awaiting leg answer next, arrived)

/-- What the request of a leg comes to with its answer. -/
def answered (now : Int) (leg : Leg) (answer : Answer) (t : Traffic) : Step × Traffic :=
  let received (response : Response) : Traffic :=
    { t with jar := t.jar.store now leg.request.url (response.all setCookie) }
  match answer with
  | .unreachable | .closed => (.over (.failed (.noAnswer leg.first)), t)
  | .silence => (.over .silent, t)
  | .full response => (leg.request.proceed response true, received response)
  | .broken response => (leg.request.proceed response false, received response)

/-- Go on after one request: with the program, or with the next request. -/
def proceed (leg : Leg) (next : Outcome → Flow α) (step : Step) (w : World) : Flight α × World :=
  match step, leg.hops with
  | .over ending, _ => resume next ending.outcome w
  | .onward _, 0 => resume next (.failed (.tooManyRedirects leg.request.url.named)) w
  | .onward r, hops + 1 =>
    if r.url.isWeb then (.sending { leg with hops, request := r } next, w)
    else resume next (.failed (.unsupportedUrl r.url)) w

/-- The next thing that happens to a program. -/
def advance (service : Http.Service) (now : Int) : Flight α → World → Flight α × World
  | .landed a, w => (.landed a, w)
  | .called d next, w => begin d next w
  | .sending leg next, w => send service leg next w
  | .awaiting leg answer next, w =>
    let (step, traffic) := answered now leg answer w.traffic
    proceed leg next step { w with traffic }

/-- Go on without waiting any longer. -/
def cutShort (outcome : Outcome) : Flight α → World → Flight α × World
  | .landed a, w => (.landed a, w)
  | .called _ next, w | .sending _ next, w | .awaiting _ _ next, w => resume next outcome w

end Flight

/-- What can happen at a moment. -/
inductive Moment where
  | progress
  /-- Somebody else changes the session. -/
  | change (c : Change)
  /-- The answer is not wanted any more. -/
  | abort
  /-- The time limit has passed, which counts from when the program is begun with. -/
  | expire
  deriving DecidableEq

namespace Moment

/-- What a moment makes of a program and its world. -/
def pass {α : Type} (service : Http.Service) (now : Int) (m : Moment) (p : Flight α × World) :
    Flight α × World :=
  match m, p with
  | .progress, (f, w) => f.advance service now w
  | .change c, (f, w) => (f, { w with store := w.store.apply c })
  | .abort, (f, w) => f.cutShort .cancelled w
  | .expire, (.called d next, w) => (.called d next, w)
  | .expire, (f, w) => f.cutShort .timedOut w

/-- The changes of a moment. -/
def changes : Moment → List Change
  | .change c => [c]
  | _ => []

/-- Somebody else changes the session. -/
def isChange : Moment → Bool
  | .change _ => true
  | _ => false

end Moment

/-- All changes that others make. -/
def changesIn (ms : List Moment) : List Change := ms.flatMap Moment.changes

/-- The same without the changes that others make. -/
def undisturbed (ms : List Moment) : List Moment := ms.filter fun m => !m.isChange

/-- A program and its world after some moments. -/
def Flight.after {α : Type} (service : Http.Service) (now : Int) (ms : List Moment)
    (p : Flight α × World) : Flight α × World :=
  ms.foldl (fun p m => m.pass service now p) p

/-! ## 3. Progress alone -/

/-- Progress and nothing else. -/
def progress (n : Nat) : List Moment := List.replicate n .progress

section
variable {α : Type} {service : Http.Service} {now : Int}

theorem after_progress_add (m n : Nat) (p : Flight α × World) :
    Flight.after service now (progress (m + n)) p =
      Flight.after service now (progress n) (Flight.after service now (progress m) p) := by
  rw [progress, ← List.replicate_append_replicate]
  exact List.foldl_append

/-- Nothing happens to a program that is done. -/
theorem after_landed (n : Nat) (a : α) (w : World) :
    Flight.after service now (progress n) (.landed a, w) = (.landed a, w) := by
  induction n with
  | zero => rfl
  | succ n ih => exact ih

/-- The world after a request has arrived. -/
def World.receive (w : World) (r : Request) : World :=
  { w with traffic.requests := w.traffic.requests ++ [r] }

theorem send_unreachable (leg : Leg) {next : Outcome → Flow α} {w : World}
    (h : service w.traffic.requests (leg.request.withCookies w.traffic.jar) = .unreachable) :
    Flight.send service leg next w = Flight.resume next (.failed (.noAnswer leg.first)) w := by
  simp only [Flight.send, h]

theorem send_arrived (leg : Leg) {next : Outcome → Flow α} {w : World}
    (h : service w.traffic.requests (leg.request.withCookies w.traffic.jar) ≠ .unreachable) :
    Flight.send service leg next w =
      let arrived := w.receive (leg.request.withCookies w.traffic.jar)
      if leg.dispatch.cancellation = .onArrival then Flight.resume next .cancelled arrived
      else
        (.awaiting leg (service w.traffic.requests (leg.request.withCookies w.traffic.jar)) next,
          arrived) := by
  cases hs : service w.traffic.requests (leg.request.withCookies w.traffic.jar) with
  | unreachable => exact absurd hs h
  | closed => simp only [Flight.send, hs, World.receive]
  | silence => simp only [Flight.send, hs, World.receive]
  | full response => simp only [Flight.send, hs, World.receive]
  | broken response => simp only [Flight.send, hs, World.receive]

/-- An answer adds nothing to what has arrived. -/
theorem answered_requests (now : Int) (leg : Leg) (answer : Answer) (t : Traffic) :
    (Flight.answered now leg answer t).2.requests = t.requests := by
  cases answer with
  | unreachable => rfl
  | closed => rfl
  | silence => rfl
  | full response => rfl
  | broken response => rfl

/-- A request comes to the same in one go or with its answer on the way. -/
theorem step_eq_answered {leg : Leg} {w : World}
    (h : service w.traffic.requests (leg.request.withCookies w.traffic.jar) ≠ .unreachable) :
    step service now leg.first leg.request w.traffic =
      Flight.answered now leg (service w.traffic.requests (leg.request.withCookies w.traffic.jar))
        (w.receive (leg.request.withCookies w.traffic.jar)).traffic := by
  cases hs : service w.traffic.requests (leg.request.withCookies w.traffic.jar) with
  | unreachable => exact absurd hs h
  | closed => simp only [step, hs, Flight.answered, World.receive]
  | silence => simp only [step, hs, Flight.answered, World.receive]
  | full response => simp only [step, hs, Flight.answered, World.receive]
  | broken response => simp only [step, hs, Flight.answered, World.receive]

variable (service now)

/-- A leg that nobody aborts takes at most two moments. -/
theorem progress_leg (leg : Leg) (next : Outcome → Flow α) (w : World)
    (hkept : leg.dispatch.cancellation ≠ .onArrival) :
    ∃ n ≤ 2, Flight.after service now (progress n) (.sending leg next, w) =
      Flight.proceed leg next (step service now leg.first leg.request w.traffic).1
        { w with traffic := (step service now leg.first leg.request w.traffic).2 } := by
  by_cases hs : service w.traffic.requests (leg.request.withCookies w.traffic.jar) = .unreachable
  · refine ⟨1, by decide, ?_⟩
    have hsend : Flight.after service now (progress 1) (.sending leg next, w) =
        Flight.send service leg next w := rfl
    rw [hsend, send_unreachable leg hs]
    simp only [step, hs]
    rfl
  · refine ⟨2, by decide, ?_⟩
    have hsend : Flight.after service now (progress 2) (.sending leg next, w) =
        (Flight.send service leg next w).1.advance service now
          (Flight.send service leg next w).2 := rfl
    rw [hsend, send_arrived leg hs, if_neg hkept, step_eq_answered hs]
    rfl

/-- An exchange that nobody aborts comes to what it comes to as a whole. -/
theorem progress_exchange (hops : Nat) (d : Dispatch) (first : Url) (r : Request)
    (next : Outcome → Flow α) (w : World) (hkept : d.cancellation ≠ .onArrival) :
    ∃ n ≤ 2 * (hops + 1),
      Flight.after service now (progress n) (.sending ⟨d, first, hops, r⟩ next, w) =
        Flight.resumeWith next ((exchange service now first hops r w.traffic).1.outcome,
          (exchange service now first hops r w.traffic).2) w := by
  induction hops generalizing r w with
  | zero =>
    obtain ⟨n, hn, hleg⟩ := progress_leg service now ⟨d, first, 0, r⟩ next w hkept
    refine ⟨n, hn, ?_⟩
    rw [hleg]
    unfold exchange
    rcases step service now first r w.traffic with ⟨ending | onward, t⟩
    · rfl
    · rfl
  | succ hops ih =>
    obtain ⟨n, hn, hleg⟩ := progress_leg service now ⟨d, first, hops + 1, r⟩ next w hkept
    unfold exchange
    simp only at hleg
    rcases hstep : step service now first r w.traffic with ⟨ending | onward, t⟩
    · rw [hstep] at hleg
      exact ⟨n, by omega, hleg⟩
    · rw [hstep] at hleg
      cases hweb : onward.url.isWeb with
      | false =>
        refine ⟨n, by omega, ?_⟩
        rw [hleg]
        simp [Flight.proceed, hweb, Flight.resumeWith, Ending.outcome]
      | true =>
        obtain ⟨m, hm, hrest⟩ := ih onward { w with traffic := t }
        refine ⟨n + m, by omega, ?_⟩
        rw [after_progress_add, hleg]
        simp only [Flight.proceed, hweb, if_true]
        exact hrest

/-- And one that is aborted as soon as its request has arrived ends there. -/
theorem progress_aborted (hops : Nat) (d : Dispatch) (first : Url) (r : Request)
    (next : Outcome → Flow α) (w : World) (habort : d.cancellation = .onArrival) :
    Flight.after service now (progress 1) (.sending ⟨d, first, hops, r⟩ next, w) =
      Flight.resumeWith next
        (let t := (exchange service now first hops r w.traffic).2
        if w.traffic.requests.length < t.requests.length then
          (.cancelled,
            { w.traffic with requests := t.requests.take (w.traffic.requests.length + 1) })
        else ((exchange service now first hops r w.traffic).1.outcome, t)) w := by
  have hsend : Flight.after service now (progress 1) (.sending ⟨d, first, hops, r⟩ next, w) =
      Flight.send service ⟨d, first, hops, r⟩ next w := rfl
  rw [hsend]
  by_cases hs : service w.traffic.requests (r.withCookies w.traffic.jar) = .unreachable
  · have hnone : exchange service now first hops r w.traffic =
        (.failed (.noAnswer first), w.traffic) := by
      cases hops with
      | zero => simp only [exchange, step, hs]
      | succ hops => simp only [exchange, step, hs]
    rw [send_unreachable ⟨d, first, hops, r⟩ hs, hnone]
    simp [Flight.resumeWith, Ending.outcome]
  · obtain ⟨later, hlater⟩ := exchange_arrived now first hops hs
    have hmore : w.traffic.requests.length <
        (exchange service now first hops r w.traffic).2.requests.length := by
      rw [hlater]
      simp
    simp only [if_pos hmore]
    rw [send_arrived ⟨d, first, hops, r⟩ hs, if_pos habort, hlater,
      List.take_length_add_append]
    rfl

/-- The most moments that an exchange takes: one to begin with, and two for every request. -/
def patience : Nat := 1 + 2 * (maxRedirects + 1)

theorem begin_ok {d : Dispatch} {r : Request} (hbefore : d.cancellation ≠ .before)
    (hr : d.request = .ok r) (next : Outcome → Flow α) (w : World) :
    Flight.begin d next w =
      if d.deadline.isZero then Flight.resume next .timedOut w
      else (.sending ⟨d, r.url, maxRedirects, r⟩ next, w) := by
  cases hc : d.cancellation with
  | before => exact absurd hc hbefore
  | never => simp only [Flight.begin, hc, hr]
  | onArrival => simp only [Flight.begin, hc, hr]

theorem perform_ok {d : Dispatch} {r : Request} (hbefore : d.cancellation ≠ .before)
    (hr : d.request = .ok r) (t : Traffic) :
    Http.perform service now d t =
      if d.deadline.isZero then (.timedOut, t)
      else
        let t' := (exchange service now r.url maxRedirects r t).2
        if d.cancellation = .onArrival ∧ t.requests.length < t'.requests.length then
          (.cancelled, { t with requests := t'.requests.take (t.requests.length + 1) })
        else ((exchange service now r.url maxRedirects r t).1.outcome, t') := by
  cases hc : d.cancellation with
  | before => exact absurd hc hbefore
  | never => simp [Http.perform, hc, hr]
  | onArrival => simp [Http.perform, hc, hr]

/-- With progress alone a dispatch comes to what it comes to as a whole. -/
theorem progress_perform (d : Dispatch) (next : Outcome → Flow α) (w : World) :
    ∃ n ≤ patience, Flight.after service now (progress n) (.called d next, w) =
      Flight.resumeWith next (Http.perform service now d w.traffic) w := by
  have hbegin : Flight.after service now (progress 1) (.called d next, w) =
      Flight.begin d next w := rfl
  by_cases hbefore : d.cancellation = .before
  · refine ⟨1, by decide, ?_⟩
    rw [hbegin]
    simp only [Flight.begin, Http.perform, hbefore]
    rfl
  cases hr : d.request with
  | error fault =>
    refine ⟨1, by decide, ?_⟩
    rw [hbegin]
    simp only [Flight.begin, Http.perform, hr]
    rfl
  | ok r =>
    rw [perform_ok service now hbefore hr]
    cases hzero : d.deadline.isZero with
    | true =>
      refine ⟨1, by decide, ?_⟩
      rw [hbegin, begin_ok hbefore hr, hzero]
      rfl
    | false =>
      have hsending : Flight.after service now (progress 1) (.called d next, w) =
          (.sending ⟨d, r.url, maxRedirects, r⟩ next, w) := by
        rw [hbegin, begin_ok hbefore hr, hzero]
        rfl
      by_cases habort : d.cancellation = .onArrival
      · refine ⟨1 + 1, by decide, ?_⟩
        rw [after_progress_add, hsending, progress_aborted service now _ _ _ _ _ _ habort]
        simp only [habort, true_and, Bool.false_eq_true, if_false]
      · obtain ⟨n, hn, hexchange⟩ := progress_exchange service now maxRedirects d r.url r next
          w habort
        refine ⟨1 + n, by unfold patience; omega, ?_⟩
        rw [after_progress_add, hsending, hexchange]
        simp only [habort, false_and, Bool.false_eq_true, if_false]

end

end CoachClient.Service
