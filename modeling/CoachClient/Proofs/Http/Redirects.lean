/-
CoachClient.Proofs.Http.Redirects — why an exchange sends more than one request.

* `redirectCodes`, `followUp_url` — the statuses of a redirect, and where one leads.
* `Redirected` — what the service said to one request leads to another one, with its
  method, its headers and its body.
* `FollowedBy`, `LedOn` — after a request only such requests arrived, each led to by the
  one before it and sent with cookies.
* `exchange_followedBy`, `perform_followedBy` — so it is in every exchange: what it sends
  besides its own request, the service has asked for.
* `perform_arrived_followedBy` — a request that somebody takes arrives before those.

A request is spoken of without the cookies it is sent with, since it is this request that
a redirect repeats. The induction is on the redirects that are left, with the request and
the traffic left open: the rest of an exchange is an exchange of the request that comes
next.
-/
import CoachClient.Proofs.Http.Exchange

namespace CoachClient.Http

open CoachClient.Url

/-! ## 1. Redirects -/

/-- The statuses with which a service sends elsewhere. -/
def redirectCodes : List Nat := [301, 302, 303, 307, 308]

theorem redirected_isSome (r : Request) (status : Status) :
    (r.redirected status).isSome = decide (status.code ∈ redirectCodes) := by
  unfold Request.redirected redirectCodes
  split
  case h_6 h301 h302 h303 h307 h308 =>
    refine (decide_eq_false fun hcode => ?_).symm
    simp only [List.mem_cons, List.not_mem_nil, or_false] at hcode
    rcases hcode with hcode | hcode | hcode | hcode | hcode
    · exact h301 hcode
    · exact h302 hcode
    · exact h303 hcode
    · exact h307 hcode
    · exact h308 hcode
  all_goals
    rename_i hcode
    simp [hcode]

/-- Where a response leads depends on nothing of the request but its URL. -/
theorem followUp_url (r : Request) (response : Response) :
    (followUp r response).map Request.url =
      if response.status.code ∈ redirectCodes then
        (response.first? location).bind r.url.refer
      else none := by
  have hsome := redirected_isSome r response.status
  unfold followUp
  cases hnext : r.redirected response.status with
  | none =>
    rw [hnext] at hsome
    have hcode : response.status.code ∉ redirectCodes := by simpa using hsome.symm
    simp [hcode]
  | some next =>
    rw [hnext] at hsome
    have hcode : response.status.code ∈ redirectCodes := by simpa using hsome.symm
    cases response.first? location with
    | none => simp [hcode]
    | some target =>
      cases hurl : r.url.refer target with
      | none => simp [hcode, hurl]
      | some url => simp [hcode, hurl]

/-- What the service said to `r`, sent with its cookies after earlier requests, leads to
`next`. -/
def Redirected (service : Service) (earlier : List Request) (r : Request) (jar : Jar)
    (next : Request) : Prop :=
  ∃ response, (service earlier (r.withCookies jar) = .full response ∨
      service earlier (r.withCookies jar) = .broken response) ∧
    followUp r response = some next

/-- After `r` these requests arrived: the one it leads to, with cookies, and so on. -/
def FollowedBy (service : Service) : List Request → Request → Jar → List Request → Prop
  | _, _, _, [] => True
  | earlier, r, jar, sent :: later =>
    ∃ next jar', Redirected service earlier r jar next ∧ sent = next.withCookies jar' ∧
      FollowedBy service (earlier ++ [r.withCookies jar]) next jar' later

/-- After a request that was sent these requests arrived, each of them redirected from the
one before. -/
def LedOn (service : Service) (earlier : List Request) (sent : Request) (later : List Request) :
    Prop :=
  ∃ r jar, sent = r.withCookies jar ∧ FollowedBy service earlier r jar later

theorem FollowedBy.ledOn {service : Service} {earlier later : List Request} {r : Request}
    {jar : Jar} (h : FollowedBy service earlier r jar later) :
    LedOn service earlier (r.withCookies jar) later :=
  ⟨r, jar, rfl, h⟩

/-! ## 2. One request -/

section
variable {service : Service} {now : Int} {first : Url} {r next : Request} {t t' : Traffic}

theorem proceed_onward {response : Response} {whole : Bool}
    (h : r.proceed response whole = .onward next) : followUp r response = some next := by
  unfold Request.proceed at h
  split at h
  · rename_i hfollow
    rw [hfollow, Step.onward.inj h]
  · cases h

/-- Where a step leads on, the service has said so. -/
theorem step_redirected (h : step service now first r t = (.onward next, t')) :
    Redirected service t.requests r t.jar next := by
  unfold step at h
  unfold Redirected
  cases hs : service t.requests (r.withCookies t.jar) with
  | unreachable => simp [hs] at h
  | closed => simp [hs] at h
  | silence => simp [hs] at h
  | full response =>
    simp only [hs, Prod.mk.injEq] at h
    exact ⟨response, Or.inl rfl, proceed_onward h.1⟩
  | broken response =>
    simp only [hs, Prod.mk.injEq] at h
    exact ⟨response, Or.inr rfl, proceed_onward h.1⟩

/-- A step sends its request or nothing. -/
theorem step_requests (service : Service) (now : Int) (first : Url) (r : Request) (t : Traffic) :
    (step service now first r t).2.requests = t.requests ∨
      (step service now first r t).2.requests = t.requests ++ [r.withCookies t.jar] := by
  by_cases hs : service t.requests (r.withCookies t.jar) = .unreachable
  · exact Or.inl (by simp only [step, hs])
  · exact Or.inr (step_arrived now first hs)

end

/-! ## 3. A request and its redirects -/

/-- The requests that an exchange of `r` adds: none, or `r` and what it led to. -/
def SentFollowed (service : Service) (r : Request) (t t' : Traffic) : Prop :=
  t'.requests = t.requests ∨ ∃ later,
    t'.requests = t.requests ++ r.withCookies t.jar :: later ∧
      FollowedBy service t.requests r t.jar later

theorem sentFollowed_of_step {service : Service} {now : Int} {first : Url} {r : Request}
    {t t' : Traffic} {s : Step} (h : step service now first r t = (s, t')) :
    SentFollowed service r t t' := by
  rcases step_requests service now first r t with hsame | harrived
  · rw [h] at hsame
    exact Or.inl hsame
  · rw [h] at harrived
    exact Or.inr ⟨[], harrived, trivial⟩

/-- Whatever an exchange sends after its own request, it has been redirected to. -/
theorem exchange_followedBy (service : Service) (now : Int) (first : Url) (hops : Nat)
    (r : Request) (t : Traffic) :
    SentFollowed service r t (exchange service now first hops r t).2 := by
  induction hops generalizing r t with
  | zero =>
    unfold exchange
    split
    · rename_i hstep
      exact sentFollowed_of_step hstep
    · rename_i hstep
      exact sentFollowed_of_step hstep
  | succ hops ih =>
    unfold exchange
    split
    · rename_i hstep
      exact sentFollowed_of_step hstep
    · rename_i next t' hstep
      split
      · have harrived := step_onward hstep
        rcases ih next t' with hsame | ⟨later, hlater, hfollowed⟩
        · exact Or.inr ⟨[], by rw [hsame, harrived], trivial⟩
        · refine Or.inr ⟨next.withCookies t'.jar :: later, ?_, next, t'.jar,
            step_redirected hstep, rfl, ?_⟩
          · rw [hlater, harrived, List.append_assoc]
            rfl
          · rw [harrived] at hfollowed
            exact hfollowed
      · exact sentFollowed_of_step hstep

/-- So it is in a dispatch, whatever its limits cut off. -/
theorem perform_followedBy (service : Service) (now : Int) (d : Dispatch) (t : Traffic) :
    (perform service now d t).2.requests = t.requests ∨
      ∃ r, d.request = .ok r ∧ SentFollowed service r t (perform service now d t).2 := by
  unfold perform
  split
  · exact Or.inl rfl
  · exact Or.inl rfl
  · rename_i r hr _
    split
    · exact Or.inl rfl
    · refine Or.inr ⟨r, hr, ?_⟩
      have hfollowed := exchange_followedBy service now r.url maxRedirects r t
      rcases hx : exchange service now r.url maxRedirects r t with ⟨ending, t'⟩
      simp only [hx] at hfollowed ⊢
      split
      · rename_i hcut
        rcases hfollowed with hsame | ⟨later, hlater, -⟩
        · simp [hsame] at hcut
        · -- the answer to the first request is not waited for
          refine Or.inr ⟨[], ?_, trivial⟩
          rw [hlater, List.take_length_add_append]
          rfl
      · exact hfollowed

/-- A request that can be made and may take time arrives if there is somebody to take it,
and only redirects follow. -/
theorem perform_arrived_followedBy {service : Service} (now : Int) {d : Dispatch} {t : Traffic}
    {r : Request} (hr : d.request = .ok r) (hcancellation : d.cancellation = .never)
    (hdeadline : d.deadline.isZero = false)
    (h : service t.requests (r.withCookies t.jar) ≠ .unreachable) :
    ∃ later, (perform service now d t).2.requests =
        t.requests ++ r.withCookies t.jar :: later ∧
      FollowedBy service t.requests r t.jar later := by
  obtain ⟨later, hlater⟩ := perform_arrived now hr hcancellation hdeadline h
  have hsome : (perform service now d t).2.requests ≠ t.requests := by
    rw [hlater]
    simp
  rcases perform_followedBy service now d t with hsame | ⟨r', hr', hsame | hfollowed⟩
  · exact absurd hsame hsome
  · exact absurd hsame hsome
  · obtain rfl := Except.ok.inj (hr.symm.trans hr')
    exact hfollowed

end CoachClient.Http
