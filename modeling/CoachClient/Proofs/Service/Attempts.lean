/-
CoachClient.Proofs.Service.Attempts — how often something is sent.

* `leadsOn`, `redirects` — the answer to a request leads to another URL of the web; how
  many requests of a row were answered like that.
* `Flight.attempts` — how often a program sends a request over some moments, whether
  there is somebody to take it or not.
* `Tried` — what a program with one exchange has tried so far, one case for each place
  where it can be: as many requests as there were redirects, and one more as soon as the
  request is there whose answer does not lead on.
* `Settled`, `Tried.settled` — so it has not been tried too often, and it has been tried
  often enough when it is done.
* `Tried.pass`, `Tried.after` — one moment keeps it that way, and so do any number.

The only moment at which something is sent is progress of a program that is about to send,
and it gets there from the beginning, or from an answer that leads on. Aborts and limits
end a program wherever it is; they can only leave out requests. `whole` stands for an
exchange that they do not cut short.
-/
import CoachClient.Proofs.Http.Redirects
import CoachClient.Proofs.Service.Interference

namespace CoachClient.Http

open CoachClient.Url

/-! ## 1. Redirects -/

/-- The answer to a request that has arrived leads to another URL of the web. -/
def leadsOn (service : Service) (earlier : List Request) (r : Request) : Bool :=
  match service earlier r with
  | .full response | .broken response =>
    ((followUp r response).map Request.url).any Url.isWeb
  | _ => false

/-- How many of the requests that arrived one after the other were answered like that. -/
def redirects (service : Service) : List Request → List Request → Nat
  | _, [] => 0
  | earlier, r :: later =>
    (if leadsOn service earlier r then 1 else 0) + redirects service (earlier ++ [r]) later

theorem redirects_append (service : Service) (earlier sent : List Request) (r : Request) :
    redirects service earlier (sent ++ [r]) =
      redirects service earlier sent + if leadsOn service (earlier ++ sent) r then 1 else 0 := by
  induction sent generalizing earlier with
  | nil => simp [redirects]
  | cons first sent ih =>
    rw [List.cons_append, redirects, redirects, ih, List.append_assoc, List.singleton_append]
    omega

end CoachClient.Http

namespace CoachClient.Service

open CoachClient.Access CoachClient.Http CoachClient.Url

/-! ## 2. Attempts -/

/-- How often a program sends a request at a moment. -/
def Flight.sends {α : Type} (m : Moment) : Flight α → Nat
  | .sending _ _ => if m = .progress then 1 else 0
  | _ => 0

/-- And how often it does so over some moments. -/
def Flight.attempts {α : Type} (service : Http.Service) (now : Int) :
    List Moment → Flight α × World → Nat
  | [], _ => 0
  | m :: ms, p => p.1.sends m + attempts service now ms (m.pass service now p)

/-- What is done sends nothing any more. -/
theorem attempts_landed {α : Type} {service : Http.Service} {now : Int} (ms : List Moment) (a : α)
    (w : World) : Flight.attempts service now ms (.landed a, w) = 0 := by
  induction ms generalizing w with
  | nil => rfl
  | cons m ms ih =>
    have hpass : ∃ w', m.pass service now ((.landed a : Flight α), w) = (.landed a, w') := by
      cases m with
      | progress => exact ⟨w, rfl⟩
      | change c => exact ⟨_, rfl⟩
      | abort => exact ⟨w, rfl⟩
      | expire => exact ⟨w, rfl⟩
    obtain ⟨w', hw'⟩ := hpass
    rw [Flight.attempts, hw', ih]
    rfl

/-- The program has nothing more to do, whatever comes of its exchange. -/
def Ends {α : Type} (next : Outcome → Flow α) : Prop := ∀ o, ∃ a, next o = .done a

section
variable {α : Type} {service : Http.Service} {now : Int} {earlier : List Request} {whole : Prop}

theorem Ends.resume {next : Outcome → Flow α} (h : Ends next) (o : Outcome) (w : World) :
    ∃ a, Flight.resume next o w = (.landed a, w) := by
  obtain ⟨a, ha⟩ := h o
  exact ⟨a, by simp only [Flight.resume, ha, Flow.depart]⟩

/-- With `n` attempts these requests have been sent, and no more is done: no more than one
and the redirects that were followed, of which there are at most ten. -/
structure Settled (service : Http.Service) (earlier : List Request) (whole : Prop) (n : Nat)
    (sent : List Request) : Prop where
  few : n ≤ 1 + min maxRedirects (redirects service earlier sent)
  /-- Exactly that many, unless something has come in between. -/
  exact : whole → n = 1 + min maxRedirects (redirects service earlier sent)
  arrived : sent.length ≤ n
  /-- All of them have arrived, if there is always somebody to take them. -/
  taken : (∀ earlier r, service earlier r ≠ .unreachable) → sent.length = n

/-- What a program with one exchange has tried in `n` attempts, since there were the
earlier requests. -/
inductive Tried (service : Http.Service) (earlier : List Request) (whole : Prop) :
    Nat → Flight α × World → Prop where
  | called {d : Dispatch} {next : Outcome → Flow α} {w : World} (hnext : Ends next)
      (hsent : w.traffic.requests = earlier)
      (hwhole : whole → d.cancellation = .never ∧ d.deadline.isZero = false ∧
        ∃ r, d.request = .ok r) :
      Tried service earlier whole 0 (.called d next, w)
  | sending {leg : Leg} {next : Outcome → Flow α} {w : World} {sent : List Request}
      (hnext : Ends next) (hsent : w.traffic.requests = earlier ++ sent)
      (hled : redirects service earlier sent = sent.length)
      (hhops : sent.length + leg.hops = maxRedirects)
      (hwhole : whole → leg.dispatch.cancellation = .never) :
      Tried service earlier whole sent.length (.sending leg next, w)
  | awaiting {leg : Leg} {next : Outcome → Flow α} {w : World} {sent : List Request}
      {r : Request} (hnext : Ends next) (hsent : w.traffic.requests = earlier ++ sent ++ [r])
      (hled : redirects service earlier sent = sent.length)
      (hhops : sent.length + leg.hops = maxRedirects) (hurl : r.url = leg.request.url)
      (hwhole : whole → leg.dispatch.cancellation = .never) :
      Tried service earlier whole (sent.length + 1)
        (.awaiting leg (service (earlier ++ sent) r) next, w)
  | landed {a : α} {w : World} {sent : List Request} {n : Nat}
      (hsent : w.traffic.requests = earlier ++ sent)
      (hsettled : Settled service earlier whole n sent) :
      Tried service earlier whole n (.landed a, w)

/-- What is given up has not been tried too often. -/
theorem Tried.resume {next : Outcome → Flow α} {w : World} {sent : List Request} {n : Nat}
    (hnext : Ends next) (o : Outcome) (hsent : w.traffic.requests = earlier ++ sent)
    (h : Settled service earlier whole n sent) :
    Tried service earlier whole n (Flight.resume next o w) := by
  obtain ⟨a, ha⟩ := hnext.resume o w
  rw [ha]
  exact .landed hsent h

/-- Wherever the program is, it has not been tried too often; and if it is done and nothing
has come in between, it has been tried often enough. -/
theorem Tried.settled {n : Nat} {p : Flight α × World} (h : Tried service earlier whole n p) :
    ∃ sent, p.2.traffic.requests = earlier ++ sent ∧
      Settled service earlier (whole ∧ ∃ a, p.1 = .landed a) n sent := by
  cases h with
  | called hnext hsent _ =>
    refine ⟨[], hsent.trans (List.append_nil _).symm, Nat.zero_le _, ?_, Nat.le_refl _,
      fun _ => rfl⟩
    rintro ⟨-, a, ha⟩
    cases ha
  | @sending _ _ _ sent hnext hsent hled hhops _ =>
    refine ⟨sent, hsent, by omega, ?_, Nat.le_refl _, fun _ => rfl⟩
    rintro ⟨-, a, ha⟩
    cases ha
  | @awaiting _ _ _ sent r hnext hsent hled hhops _ _ =>
    have hmore := redirects_append service earlier sent r
    refine ⟨sent ++ [r], hsent.trans (List.append_assoc _ _ _), by omega, ?_, by simp,
      fun _ => by simp⟩
    rintro ⟨-, a, ha⟩
    cases ha
  | landed hsent hsettled =>
    exact ⟨_, hsent, hsettled.few, fun h => hsettled.exact h.1, hsettled.arrived, hsettled.taken⟩

/-! ## 3. One moment -/

theorem Tried.begin {d : Dispatch} {next : Outcome → Flow α} {w : World} (hnext : Ends next)
    (hsent : w.traffic.requests = earlier)
    (hwhole : whole → d.cancellation = .never ∧ d.deadline.isZero = false ∧
      ∃ r, d.request = .ok r) :
    Tried service earlier whole 0 (Flight.begin d next w) := by
  have hnone : w.traffic.requests = earlier ++ [] := by rw [hsent, List.append_nil]
  have hstay : ¬ whole → Settled service earlier whole 0 [] := fun hcut =>
    ⟨Nat.zero_le _, fun h => absurd h hcut, Nat.le_refl _, fun _ => rfl⟩
  unfold Flight.begin
  split
  · rename_i hbefore
    refine Tried.resume hnext _ hnone (hstay fun h => ?_)
    rw [(hwhole h).1] at hbefore
    cases hbefore
  · rename_i hfault _
    refine Tried.resume hnext _ hnone (hstay fun h => ?_)
    obtain ⟨-, -, r, hr⟩ := hwhole h
    rw [hr] at hfault
    cases hfault
  · split
    · rename_i hzero
      refine Tried.resume hnext _ hnone (hstay fun h => ?_)
      rw [(hwhole h).2.1] at hzero
      cases hzero
    · exact .sending hnext hnone rfl rfl fun h => (hwhole h).1

theorem Tried.send {leg : Leg} {next : Outcome → Flow α} {w : World} {sent : List Request}
    (hnext : Ends next) (hsent : w.traffic.requests = earlier ++ sent)
    (hled : redirects service earlier sent = sent.length)
    (hhops : sent.length + leg.hops = maxRedirects)
    (hwhole : whole → leg.dispatch.cancellation = .never) :
    Tried service earlier whole (sent.length + 1) (Flight.send service leg next w) := by
  by_cases hs : service w.traffic.requests (leg.request.withCookies w.traffic.jar) = .unreachable
  · -- nobody takes the request: it has been tried and has not arrived
    rw [send_unreachable leg hs]
    have hmin : min maxRedirects (redirects service earlier sent) = sent.length := by omega
    refine Tried.resume hnext _ hsent ⟨?_, fun _ => ?_, Nat.le_succ _, fun htaken => ?_⟩
    · omega
    · omega
    · exact absurd hs (htaken _ _)
  · rw [send_arrived leg hs]
    have harrived : (w.receive (leg.request.withCookies w.traffic.jar)).traffic.requests =
        earlier ++ (sent ++ [leg.request.withCookies w.traffic.jar]) := by
      rw [← List.append_assoc, ← hsent]
      rfl
    simp only
    split
    · rename_i habort
      have hmore := redirects_append service earlier sent (leg.request.withCookies w.traffic.jar)
      refine Tried.resume hnext _ harrived ⟨?_, fun h => ?_, ?_, fun _ => ?_⟩
      · omega
      · rw [hwhole h] at habort
        cases habort
      · simp
      · simp
    · rw [hsent]
      refine .awaiting hnext ?_ hled hhops (withCookies_method_url _ _).2 hwhole
      rw [harrived, List.append_assoc]

/-- The answer of a request, and the request that comes next if there is one. -/
theorem answered_leadsOn (service : Http.Service) (now : Int) {leg : Leg} {r : Request}
    (hurl : r.url = leg.request.url) (before : List Request) (t : Traffic) :
    leadsOn service before r = true ↔
      ∃ next, (Flight.answered now leg (service before r) t).1 = .onward next ∧
        next.url.isWeb = true := by
  have hsame : ∀ response, (followUp r response).map Request.url =
      (followUp leg.request response).map Request.url := fun response => by
    rw [followUp_url, followUp_url, hurl]
  have hproceed : ∀ response whole,
      ((followUp r response).map Request.url).any Url.isWeb = true ↔
        ∃ next, leg.request.proceed response whole = .onward next ∧ next.url.isWeb = true := by
    intro response whole
    rw [hsame]
    unfold Request.proceed
    cases followUp leg.request response with
    | none => simp
    | some next => simp
  unfold leadsOn
  cases service before r with
  | unreachable => simp [Flight.answered]
  | closed => simp [Flight.answered]
  | silence => simp [Flight.answered]
  | full response => exact hproceed response true
  | broken response => exact hproceed response false

theorem Tried.answered {leg : Leg} {next : Outcome → Flow α} {w : World} {sent : List Request}
    {r : Request} (hnext : Ends next) (hsent : w.traffic.requests = earlier ++ sent ++ [r])
    (hled : redirects service earlier sent = sent.length)
    (hhops : sent.length + leg.hops = maxRedirects) (hurl : r.url = leg.request.url)
    (hwhole : whole → leg.dispatch.cancellation = .never) :
    Tried service earlier whole (sent.length + 1)
      (Flight.advance service now (.awaiting leg (service (earlier ++ sent) r) next) w) := by
  have hleads := answered_leadsOn service now hurl (earlier ++ sent) w.traffic
  have hmore := redirects_append service earlier sent r
  have hkept := answered_requests now leg (service (earlier ++ sent) r) w.traffic
  simp only [Flight.advance]
  rcases hstep : Flight.answered now leg (service (earlier ++ sent) r) w.traffic with ⟨step, t⟩
  rw [hstep] at hleads hkept
  have harrived : t.requests = earlier ++ (sent ++ [r]) := by
    rw [hkept, hsent, List.append_assoc]
  have hlength : (sent ++ [r]).length = sent.length + 1 := by simp
  -- an answer that is not followed is the last one
  have hlast : leadsOn service (earlier ++ sent) r = false →
      Settled service earlier whole (sent.length + 1) (sent ++ [r]) := by
    intro hno
    rw [hno] at hmore
    simp only [Bool.false_eq_true, if_false] at hmore
    exact ⟨by omega, fun _ => by omega, by omega, fun _ => hlength⟩
  rcases step with ending | onward
  · refine Tried.resume hnext _ harrived (hlast ?_)
    rw [Bool.eq_false_iff, ne_eq, hleads]
    rintro ⟨_, hover, -⟩
    cases hover
  · cases hh : leg.hops with
    | zero =>
      simp only [Flight.proceed, hh]
      -- ten redirects have been followed, and this one is not
      have hten : sent.length = maxRedirects := by omega
      exact Tried.resume hnext _ harrived
        ⟨by omega, fun _ => by omega, by omega, fun _ => hlength⟩
    | succ hops =>
      simp only [Flight.proceed, hh]
      cases hweb : onward.url.isWeb with
      | false =>
        refine Tried.resume hnext _ harrived (hlast ?_)
        rw [Bool.eq_false_iff, ne_eq, hleads]
        rintro ⟨_, honward, hweb'⟩
        rw [← Step.onward.inj honward, hweb] at hweb'
        cases hweb'
      | true =>
        have hfollowed : leadsOn service (earlier ++ sent) r = true :=
          hleads.mpr ⟨onward, rfl, hweb⟩
        rw [hfollowed] at hmore
        simp only [if_true] at hmore
        rw [← hlength]
        exact .sending hnext harrived (by omega) (by simp only [hlength]; omega) hwhole

/-- What is cut short has not been tried too often. -/
theorem Tried.cutShort {n : Nat} {p : Flight α × World} (h : Tried service earlier whole n p)
    (o : Outcome) (hcut : ¬ whole) :
    Tried service earlier whole n (p.1.cutShort o p.2) := by
  obtain ⟨sent, hsent, hsettled⟩ := h.settled
  have hover : Settled service earlier whole n sent :=
    ⟨hsettled.few, fun hwhole => absurd hwhole hcut, hsettled.arrived, hsettled.taken⟩
  cases h with
  | called hnext _ _ => exact Tried.resume hnext o hsent hover
  | sending hnext _ _ _ _ => exact Tried.resume hnext o hsent hover
  | awaiting hnext _ _ _ _ _ => exact Tried.resume hnext o hsent hover
  | landed _ _ => exact .landed hsent hover

/-- Whatever happens at a moment. -/
theorem Tried.pass {n : Nat} {p : Flight α × World} (h : Tried service earlier whole n p)
    {m : Moment} (hm : whole → m = .progress ∨ m.isChange = true) :
    Tried service earlier whole (n + p.1.sends m) (m.pass service now p) := by
  cases m with
  | progress =>
    cases h with
    | called hnext hsent hwhole => exact Tried.begin hnext hsent hwhole
    | sending hnext hsent hled hhops hwhole => exact Tried.send hnext hsent hled hhops hwhole
    | awaiting hnext hsent hled hhops hurl hwhole =>
      exact Tried.answered hnext hsent hled hhops hurl hwhole
    | landed hsent hsettled => exact .landed hsent hsettled
  | change c =>
    cases h with
    | called hnext hsent hwhole => exact .called hnext hsent hwhole
    | sending hnext hsent hled hhops hwhole => exact .sending hnext hsent hled hhops hwhole
    | awaiting hnext hsent hled hhops hurl hwhole =>
      exact .awaiting hnext hsent hled hhops hurl hwhole
    | landed hsent hsettled => exact .landed hsent hsettled
  | abort =>
    have hnone : p.1.sends Moment.abort = 0 := by cases p.1 <;> rfl
    have hcut : ¬ whole := fun hw => by simpa [Moment.isChange] using hm hw
    rw [hnone]
    exact h.cutShort .cancelled hcut
  | expire =>
    have hnone : p.1.sends Moment.expire = 0 := by cases p.1 <;> rfl
    have hcut : ¬ whole := fun hw => by simpa [Moment.isChange] using hm hw
    rw [hnone]
    have hover := h.cutShort .timedOut hcut
    -- the time limit does not count before the program is begun with
    cases h with
    | called hnext hsent hwhole => exact .called hnext hsent hwhole
    | sending => exact hover
    | awaiting => exact hover
    | landed => exact hover

/-! ## 4. Any moments -/

/-- Whatever happens, and for however long. -/
theorem Tried.after {ms : List Moment} {n : Nat} {p : Flight α × World}
    (h : Tried service earlier whole n p)
    (hms : whole → ∀ m ∈ ms, m = .progress ∨ m.isChange = true) :
    Tried service earlier whole (n + Flight.attempts service now ms p)
      (Flight.after service now ms p) := by
  induction ms generalizing n p with
  | nil => exact h
  | cons m ms ih =>
    have hfirst : Tried service earlier whole (n + p.1.sends m) (m.pass service now p) :=
      h.pass fun hw => hms hw m List.mem_cons_self
    have hrest := ih hfirst fun hw m' hm' => hms hw m' (List.mem_cons_of_mem m hm')
    rw [Flight.attempts, ← Nat.add_assoc]
    exact hrest

end

end CoachClient.Service
