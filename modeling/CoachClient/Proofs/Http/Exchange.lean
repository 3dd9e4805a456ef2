/-
CoachClient.Proofs.Http.Exchange — what an exchange leaves on the wire.

* `Sent` — nothing has arrived, or first of all one given request, with the
  cookies of the moment, and after it only what redirects led to.
* `LastAnswer` — the last request that arrived was answered in full, with a
  given status and body.
* `exchange_sent`, `perform_sent` — an exchange sends its own request or nothing.
* `exchange_arrived`, `perform_arrived` — it does send it if there is somebody to take
  it; `exchange_unreachable`, `perform_unreachable` — and if nobody is there, nothing
  happens.
* `perform_answered` — what an exchange reports as the answer is what the
  service said to the last request of this exchange.

The induction is on the redirects that are left. Its invariant is `Sent` for the
request the exchange began with; a redirect only appends, so the first request
never changes.
-/
import CoachClient.Http.Exchange

namespace CoachClient.Http

/-! ## 1. What has arrived -/

/-- Between two moments nothing has arrived, or `r` has, with the cookies of the
first moment, and further requests after it. -/
def Sent (r : Request) (t t' : Traffic) : Prop :=
  t' = t ∨ ∃ later, t'.requests = t.requests ++ r.withCookies t.jar :: later

/-- The last of the requests was answered in full with a status and a body. -/
def LastAnswer (service : Service) (requests : List Request) (status : Status)
    (body : List UInt8) : Prop :=
  ∃ earlier last response, requests = earlier ++ [last] ∧
    service earlier last = .full response ∧ response.status = status ∧ response.body = body

/-! ## 2. One request -/

/-- Cookies are a header and nothing else. -/
theorem withCookies_method_url (r : Request) (jar : Jar) :
    (r.withCookies jar).method = r.method ∧ (r.withCookies jar).url = r.url := by
  unfold Request.withCookies
  split <;> exact ⟨rfl, rfl⟩

theorem withCookies_body (r : Request) (jar : Jar) : (r.withCookies jar).body = r.body := by
  unfold Request.withCookies
  split <;> rfl

section
variable {service : Service} {now : Int} {first : Url} {r next : Request} {t t' : Traffic}

/-- A redirect is only followed once the request has arrived. -/
theorem step_onward (h : step service now first r t = (.onward next, t')) :
    t'.requests = t.requests ++ [r.withCookies t.jar] := by
  unfold step at h
  cases hs : service t.requests (r.withCookies t.jar) with
  | unreachable => simp [hs] at h
  | closed => simp [hs] at h
  | silence => simp [hs] at h
  | full response =>
    simp only [hs, Prod.mk.injEq] at h
    rw [← h.2]
  | broken response =>
    simp only [hs, Prod.mk.injEq] at h
    rw [← h.2]

theorem step_sent (service : Service) (now : Int) (first : Url) (r : Request) (t : Traffic) :
    Sent r t (step service now first r t).2 := by
  cases hs : service t.requests (r.withCookies t.jar) with
  | unreachable => exact Or.inl (by simp only [step, hs])
  | closed => exact Or.inr ⟨[], by simp only [step, hs]⟩
  | silence => exact Or.inr ⟨[], by simp only [step, hs]⟩
  | full response => exact Or.inr ⟨[], by simp only [step, hs]⟩
  | broken response => exact Or.inr ⟨[], by simp only [step, hs]⟩

/-- A request arrives if there is somebody to take it. -/
theorem step_arrived (now : Int) (first : Url)
    (h : service t.requests (r.withCookies t.jar) ≠ .unreachable) :
    (step service now first r t).2.requests = t.requests ++ [r.withCookies t.jar] := by
  cases hs : service t.requests (r.withCookies t.jar) with
  | unreachable => exact absurd hs h
  | closed => simp only [step, hs]
  | silence => simp only [step, hs]
  | full response => simp only [step, hs]
  | broken response => simp only [step, hs]

/-- A body that is not empty came with a whole response. -/
theorem ending_answered {response : Response} {whole : Bool} {status : Status}
    {body : List UInt8} (h : ending r response whole = .answered status body) (hb : body ≠ []) :
    whole = true ∧ response.status = status ∧ response.body = body := by
  unfold ending at h
  split at h
  · simp only [Ending.answered.injEq] at h
    exact absurd h.2.symm hb
  · cases whole with
    | false => simp at h
    | true => simpa using h

theorem step_answered {status : Status} {body : List UInt8}
    (h : step service now first r t = (.over (.answered status body), t')) (hb : body ≠ []) :
    t'.requests = t.requests ++ [r.withCookies t.jar] ∧
      LastAnswer service t'.requests status body := by
  unfold step at h
  cases hs : service t.requests (r.withCookies t.jar) with
  | unreachable => simp [hs] at h
  | closed => simp [hs] at h
  | silence => simp [hs] at h
  | full response =>
    simp only [hs, Prod.mk.injEq] at h
    obtain ⟨hp, rfl⟩ := h
    unfold Request.proceed at hp
    split at hp
    · simp at hp
    · obtain ⟨-, hstatus, hbody⟩ := ending_answered (Step.over.inj hp) hb
      exact ⟨rfl, t.requests, _, response, rfl, hs, hstatus, hbody⟩
  | broken response =>
    simp only [hs, Prod.mk.injEq] at h
    obtain ⟨hp, rfl⟩ := h
    unfold Request.proceed at hp
    split at hp
    · simp at hp
    · exact absurd (ending_answered (Step.over.inj hp) hb).1 (by simp)

end

/-! ## 3. A request and its redirects -/

theorem exchange_sent (service : Service) (now : Int) (first : Url) (hops : Nat) (r : Request)
    (t : Traffic) : Sent r t (exchange service now first hops r t).2 := by
  induction hops generalizing r t with
  | zero =>
    have hsent := step_sent service now first r t
    unfold exchange
    split <;> simp_all
  | succ hops ih =>
    have hsent := step_sent service now first r t
    unfold exchange
    split
    · simp_all
    · rename_i next t' hstep
      have harrived := step_onward hstep
      split
      · rcases ih next t' with hsame | ⟨later, hlater⟩
        · exact Or.inr ⟨[], by rw [hsame, harrived]⟩
        · exact Or.inr ⟨next.withCookies t'.jar :: later, by simp [hlater, harrived]⟩
      · exact Or.inr ⟨[], harrived⟩

/-- The first request of an exchange arrives if there is somebody to take it. -/
theorem exchange_arrived {service : Service} (now : Int) (first : Url) (hops : Nat) {r : Request}
    {t : Traffic} (h : service t.requests (r.withCookies t.jar) ≠ .unreachable) :
    ∃ later, (exchange service now first hops r t).2.requests =
      t.requests ++ r.withCookies t.jar :: later := by
  have harrived := step_arrived now first h
  cases hops with
  | zero =>
    unfold exchange
    split
    · rename_i ending t' hstep
      rw [hstep] at harrived
      exact ⟨[], harrived⟩
    · rename_i next t' hstep
      rw [hstep] at harrived
      exact ⟨[], harrived⟩
  | succ hops =>
    unfold exchange
    split
    · rename_i ending t' hstep
      rw [hstep] at harrived
      exact ⟨[], harrived⟩
    · rename_i next t' hstep
      rw [hstep] at harrived
      split
      · rcases exchange_sent service now first hops next t' with hsame | ⟨later, hlater⟩
        · exact ⟨[], by rw [hsame]; exact harrived⟩
        · exact ⟨next.withCookies t'.jar :: later, by rw [hlater, harrived]; simp⟩
      · exact ⟨[], harrived⟩

/-- If nobody is there to take it, the exchange is over. -/
theorem exchange_unreachable {service : Service} (now : Int) (first : Url) (hops : Nat)
    {r : Request} {t : Traffic} (h : service t.requests (r.withCookies t.jar) = .unreachable) :
    exchange service now first hops r t = (.failed (.noAnswer first), t) := by
  cases hops <;> simp [exchange, step, h]

theorem exchange_answered {service : Service} {now : Int} {first : Url} {hops : Nat}
    {r : Request} {t t' : Traffic} {status : Status} {body : List UInt8}
    (h : exchange service now first hops r t = (.answered status body, t')) (hb : body ≠ []) :
    (∃ later, t'.requests = t.requests ++ r.withCookies t.jar :: later) ∧
      LastAnswer service t'.requests status body := by
  induction hops generalizing r t with
  | zero =>
    unfold exchange at h
    split at h
    · rename_i ending t₁ hstep
      simp only [Prod.mk.injEq] at h
      obtain ⟨rfl, rfl⟩ := h
      obtain ⟨harrived, hlast⟩ := step_answered hstep hb
      exact ⟨⟨[], harrived⟩, hlast⟩
    · simp at h
  | succ hops ih =>
    unfold exchange at h
    split at h
    · rename_i ending t₁ hstep
      simp only [Prod.mk.injEq] at h
      obtain ⟨rfl, rfl⟩ := h
      obtain ⟨harrived, hlast⟩ := step_answered hstep hb
      exact ⟨⟨[], harrived⟩, hlast⟩
    · rename_i next t₁ hstep
      split at h
      · obtain ⟨⟨later, hlater⟩, hlast⟩ := ih h
        refine ⟨⟨next.withCookies t₁.jar :: later, ?_⟩, hlast⟩
        rw [hlater, step_onward hstep, List.append_assoc]
        rfl
      · simp at h

/-! ## 4. A dispatch -/

/-- A dispatch sends its own request or nothing, whatever its limits cut off. -/
theorem perform_sent (service : Service) (now : Int) (d : Dispatch) (t : Traffic) :
    (perform service now d t).2 = t ∨
      ∃ r, d.request = .ok r ∧ Sent r t (perform service now d t).2 := by
  unfold perform
  split
  · exact Or.inl rfl
  · exact Or.inl rfl
  · rename_i r hr _
    split
    · exact Or.inl rfl
    · refine Or.inr ⟨r, hr, ?_⟩
      have hsent := exchange_sent service now r.url maxRedirects r t
      rcases hx : exchange service now r.url maxRedirects r t with ⟨ending, t₁⟩
      simp only [hx] at hsent ⊢
      split
      · rename_i hcut
        rcases hsent with rfl | ⟨later, hlater⟩
        · simp at hcut
        · exact Or.inr ⟨[], by rw [hlater, List.take_length_add_append]; rfl⟩
      · exact hsent

/-- The request of a dispatch that nobody cancels and that may take time arrives if there
is somebody to take it. -/
theorem perform_arrived {service : Service} (now : Int) {d : Dispatch} {t : Traffic} {r : Request}
    (hr : d.request = .ok r) (hcancellation : d.cancellation = .never)
    (hdeadline : d.deadline.isZero = false)
    (h : service t.requests (r.withCookies t.jar) ≠ .unreachable) :
    ∃ later, (perform service now d t).2.requests = t.requests ++ r.withCookies t.jar :: later := by
  obtain ⟨later, hlater⟩ := exchange_arrived now r.url maxRedirects h
  refine ⟨later, ?_⟩
  simp only [perform, hcancellation, hr, hdeadline, Bool.false_eq_true, if_false, reduceCtorEq,
    decide_false, Bool.false_and]
  exact hlater

/-- If nobody is there to take it, nothing has happened. -/
theorem perform_unreachable {service : Service} (now : Int) {d : Dispatch} {t : Traffic}
    {r : Request} (hr : d.request = .ok r) (hcancellation : d.cancellation = .never)
    (hdeadline : d.deadline.isZero = false)
    (h : service t.requests (r.withCookies t.jar) = .unreachable) :
    perform service now d t = (.failed (.noAnswer r.url), t) := by
  simp only [perform, hcancellation, hr, hdeadline, exchange_unreachable now r.url _ h,
    Bool.false_eq_true, if_false, reduceCtorEq, decide_false, Bool.false_and]
  rfl

/-- A dispatch that is answered has made its request and may take time. -/
theorem perform_answered_made {service : Service} {now : Int} {d : Dispatch} {t : Traffic}
    {status : Status} {body : List UInt8}
    (h : (perform service now d t).1 = .answered status body) :
    d.deadline.isZero = false ∧ ∃ r, d.request = .ok r := by
  unfold perform at h
  split at h
  · cases h
  · cases h
  · rename_i r hr _
    split at h
    · cases h
    · rename_i htime
      exact ⟨Bool.not_eq_true _ ▸ htime, r, hr⟩

/-- What is reported as the answer is what the service said last, to the request
of the dispatch or to one that a redirect led to. -/
theorem perform_answered {service : Service} {now : Int} {d : Dispatch} {t t' : Traffic}
    {status : Status} {body : List UInt8}
    (h : perform service now d t = (.answered status body, t')) (hb : body ≠ []) :
    (∃ r later, d.request = .ok r ∧ t'.requests = t.requests ++ r.withCookies t.jar :: later) ∧
      LastAnswer service t'.requests status body := by
  unfold perform at h
  split at h
  · simp at h
  · simp at h
  · rename_i r hr _
    split at h
    · simp at h
    · rcases hx : exchange service now r.url maxRedirects r t with ⟨ending, t₁⟩
      simp only [hx] at h
      split at h
      · simp at h
      · simp only [Prod.mk.injEq] at h
        obtain ⟨hout, rfl⟩ := h
        cases ending with
        | answered status' body' =>
          simp only [Ending.outcome, Outcome.answered.injEq] at hout
          obtain ⟨rfl, rfl⟩ := hout
          obtain ⟨⟨later, hlater⟩, hlast⟩ := exchange_answered hx hb
          exact ⟨⟨r, later, hr, hlater⟩, hlast⟩
        | failed fault => simp [Ending.outcome] at hout
        | silent => simp [Ending.outcome] at hout

end CoachClient.Http
