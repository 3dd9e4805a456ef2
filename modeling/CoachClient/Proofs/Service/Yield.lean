/-
CoachClient.Proofs.Service.Yield — what the service yields, and what is left when
signing in fails.

* `Client.Yields` — what comes of the request of an operation is a whole answer
  that reports success and reads as a result.
* `Client.perform_ok_iff` — an operation succeeds exactly with what is yielded.
* `Client.AsksOnly` — the requests of one operation and of nothing else: its own,
  and what the service redirected to after it.
* `signIn_failed` — signing in that fails without a token has asked for the token
  and nothing else, and has not touched the session; with a token, it leaves nobody
  signed in.
-/
import CoachClient.Proofs.Http.Redirects
import CoachClient.Proofs.Service.Handles

namespace CoachClient.Service

open CoachClient.Access CoachClient.Coaching CoachClient.Http CoachClient.Json

/-! ## 1. What the service yields -/

/-- The service answers the operation, in the end, with a body that reads as `a`. -/
def Client.Yields (c : Client) (o : Operation) (e : Surroundings) (w : World) (a : o.Result) :
    Prop :=
  ∃ call d status body, o.call = .ok call ∧ c.dispatch w.store.snapshot.credential? call = .ok d ∧
    (Http.perform e.service e.now d w.traffic).1 = .answered status body ∧
    status.isSuccess = true ∧ status ≠ .noContent ∧ body ≠ [] ∧ o.decoder.decode body = .ok a

section
variable {α : Type} {d : Decoder α} {endpoint : String}

/-- A result that `null` does not give is read from a body. -/
theorem classify_ok_iff (hnull : ∀ a, d.decodeNull ≠ .ok a) {status : Status}
    {body : List UInt8} {a : α} :
    classify d endpoint status body = .ok a ↔
      status.isSuccess = true ∧ status ≠ .noContent ∧ body ≠ [] ∧ d.decode body = .ok a := by
  constructor
  · intro h
    obtain ⟨hsuccess, hbody, hdecode⟩ := classify_ok hnull h
    refine ⟨hsuccess, ?_, hbody, hdecode⟩
    intro hcontent
    rw [classify_of_bare d endpoint hsuccess (Or.inl hcontent)] at h
    cases hn : d.decodeNull with
    | error fault => simp [hn] at h
    | ok b => exact hnull b hn
  · rintro ⟨hsuccess, hcontent, hbody, hdecode⟩
    rw [classify_of_body d endpoint hsuccess hcontent hbody, hdecode, mapError_ok]

theorem settle_ok_iff (hnull : ∀ a, d.decodeNull ≠ .ok a) {deadline : Time.Duration}
    {outcome : Outcome} {a : α} :
    settle d endpoint deadline outcome = .ok a ↔
      ∃ status body, outcome = .answered status body ∧ status.isSuccess = true ∧
        status ≠ .noContent ∧ body ≠ [] ∧ d.decode body = .ok a := by
  cases outcome with
  | answered status body =>
    rw [settle, classify_ok_iff hnull]
    constructor
    · intro h
      exact ⟨status, body, rfl, h⟩
    · rintro ⟨status', body', hsame, h⟩
      obtain ⟨rfl, rfl⟩ := Outcome.answered.inj hsame
      exact h
  | failed fault => simp [settle]
  | timedOut => simp [settle]
  | cancelled => simp [settle]

end

section
variable {e : Surroundings} {c : Client} {o : Operation} {w w' : World}

/-- An operation succeeds exactly with what the service yields. -/
theorem Client.perform_ok_iff (hnull : ∀ a, o.decoder.decodeNull ≠ .ok a) {a : o.Result} :
    ((c.perform o).run e w).1 = .ok a ↔ c.Yields o e w a := by
  rcases hrun : (c.perform o).run e w with ⟨result, w'⟩
  rcases Client.perform_cases hrun with
    ⟨refusal, hrefuses, rfl, rfl⟩ | ⟨call, d, hcall, hd, rfl, rfl⟩
  · constructor
    · intro h
      cases h
    · rintro ⟨call, d, -, -, hcall, hd, -⟩
      rcases hrefuses with hrefused | ⟨call', hcall', hrefused⟩
      · cases hcall.symm.trans hrefused
      · obtain rfl : call = call' := Except.ok.inj (hcall.symm.trans hcall')
        cases hd.symm.trans hrefused
  · rw [settle_ok_iff hnull]
    constructor
    · rintro ⟨status, body, hanswered, hrest⟩
      exact ⟨call, d, status, body, hcall, hd, hanswered, hrest⟩
    · rintro ⟨call', d', status, body, hcall', hd', hanswered, hrest⟩
      obtain rfl : call = call' := Except.ok.inj (hcall.symm.trans hcall')
      obtain rfl : d = d' := Except.ok.inj (hd.symm.trans hd')
      exact ⟨status, body, hanswered, hrest⟩

/-! ## 2. What one operation asks -/

/-- None of these requests is for anything but this endpoint, unless the service
redirected to it. -/
def Client.AsksOnly (c : Client) (service : Http.Service) (method endpoint : String)
    (earlier : List Request) : List Request → Prop
  | [] => True
  | first :: later => c.Asks method endpoint first ∧ LedOn service earlier first later

/-- An operation asks for its endpoint and for nothing else. -/
theorem Client.perform_asksOnly {call : Call} (hcall : o.call = .ok call)
    {result : Except Failure o.Result} (h : (c.perform o).run e w = (result, w')) :
    ∃ sent, w'.traffic.requests = w.traffic.requests ++ sent ∧
      c.AsksOnly e.service call.method call.endpoint w.traffic.requests sent := by
  rcases Client.perform_cases h with ⟨refusal, -, -, rfl⟩ | ⟨call', d, hcall', hd, -, rfl⟩
  · exact ⟨[], (List.append_nil _).symm, trivial⟩
  · obtain rfl : call = call' := Except.ok.inj (hcall.symm.trans hcall')
    rcases perform_followedBy e.service e.now d w.traffic with hsame | ⟨r, hr, hsame | hsent⟩
    · exact ⟨[], by rw [List.append_nil]; exact hsame, trivial⟩
    · exact ⟨[], by rw [List.append_nil]; exact hsame, trivial⟩
    · obtain ⟨later, hlater, hfollowed⟩ := hsent
      have hissues : c.Issues o w.store.snapshot.credential? w.traffic.jar
          (r.withCookies w.traffic.jar) := ⟨call, d, r, hcall, hd, hr, rfl⟩
      exact ⟨r.withCookies w.traffic.jar :: later, hlater, hissues.asks hcall,
        hfollowed.ledOn⟩

end

/-! ## 3. Signing in that fails -/

/-- Where nobody else changes the session, nobody else has written to it. -/
theorem Surroundings.Quiet.others_eq {e : Surroundings} (h : e.Quiet) (w w' : World) :
    e.others w w' = [] :=
  List.flatMap_eq_nil_iff.mpr fun n _ => h n

/-- What signing in that has failed leaves of the session: what was there, but for
what others have written meanwhile, if no token was yielded; and nobody otherwise. -/
theorem signIn_failed {e : Surroundings} {c : Client} {credentials : Credentials} {w w' : World}
    {failure : Failure} (h : (c.signIn credentials).run e w = (.error failure, w')) :
    ((∀ grant, ¬ c.Yields (.grantToken credentials) e w grant) →
        w'.store = w.store.applyAll (e.others w w') ∧
        ∃ sent, w'.traffic.requests = w.traffic.requests ++ sent ∧
          c.AsksOnly e.service "POST" "/auth/login" w.traffic.requests sent) ∧
      ((∃ grant, c.Yields (.grantToken credentials) e w grant) →
        w'.store.snapshot = .anonymous) := by
  have hyields : ∀ grant, c.Yields (.grantToken credentials) e w grant ↔
      ((c.perform (.grantToken credentials)).run e w).1 = .ok grant :=
    fun grant => (Client.perform_ok_iff grant_decodeNull).symm
  rcases signIn_cases h with ⟨failure', htoken, -⟩ | ⟨grant, w₁, htoken, hrest⟩
  · refine ⟨fun _ => ⟨Client.perform_others htoken, Client.perform_asksOnly rfl htoken⟩, ?_⟩
    rintro ⟨grant, hgrant⟩
    rw [hyields, htoken] at hgrant
    cases hgrant
  · rcases hrest with ⟨failure', w₂, -, -, rfl⟩ | ⟨profile, w₂, -, hok, -⟩
    · refine ⟨fun hnone => absurd ((hyields grant).mpr ?_) (hnone grant), fun _ => rfl⟩
      rw [htoken]
    · cases hok

end CoachClient.Service
