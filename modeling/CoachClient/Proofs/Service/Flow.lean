/-
CoachClient.Proofs.Service.Flow — what running a program does to the world.

* `Flow.run_bind` — a program after another one is run in the world the first
  one leaves.
* `World.perform_sent` — a dispatch in the world: the first request is its own,
  and when nothing is sent nothing changes.
* `Surroundings.Quiet`, `Client.perform_store` — operations leave the session to
  others, and it stays when there are none.
* `classify_cases` — all that an answer can come to.
* `Client.perform_cases` — all that an operation can do: refuse, before anything
  is sent, or send its request with the credential of the moment and read what
  comes of it.
* `Client.perform_sent` — the same for the wire.
* `not_refuses_credential` — a credential that fits into a header is never the
  reason to refuse.
* `Returned`, `Client.perform_ok` — an operation that succeeds gives what the
  service returned, read as the operation reads it. This is for answers that
  `null` does not fit; the others may also come from an empty body.
-/
import CoachClient.Proofs.Http.Exchange
import CoachClient.Proofs.Service.Credential

namespace CoachClient.Service

open CoachClient.Access CoachClient.Http CoachClient.Json

/-! ## 1. Programs one after another -/

theorem Flow.run_bind {α β : Type} (e : Surroundings) (p : Flow α) (f : α → Flow β) (w : World) :
    (p.bind f).run e w = (f (p.run e w).1).run e (p.run e w).2 := by
  induction p generalizing w with
  | done a => rfl
  | observe next ih => exact ih w.store.snapshot w
  | update change next ih => exact ih { w with store := w.store.apply change }
  | exchange d next ih => exact ih (w.perform e d).1 (w.perform e d).2

@[simp] theorem Flow.run_done {α : Type} (e : Surroundings) (a : α) (w : World) :
    (Flow.done a).run e w = (a, w) := rfl

@[simp] theorem Flow.run_change (e : Surroundings) (c : Change) (w : World) :
    (Flow.change c).run e w = ((), { w with store := w.store.apply c }) := rfl

/-! ## 2. A dispatch in the world -/

/-- Others change the session only when a request arrives. -/
theorem World.perform_eq_self {e : Surroundings} {d : Dispatch} {w : World}
    (h : (Http.perform e.service e.now d w.traffic).2 = w.traffic) : (w.perform e d).2 = w := by
  unfold World.perform
  simp [h, Surroundings.changes, Store.applyAll]

/-- A dispatch changes nothing, or its own request is the first that arrives. -/
theorem World.perform_sent (e : Surroundings) (d : Dispatch) (w : World) :
    (w.perform e d).2 = w ∨ ∃ r later, d.request = .ok r ∧
      (w.perform e d).2.traffic.requests =
        w.traffic.requests ++ r.withCookies w.traffic.jar :: later := by
  rcases Http.perform_sent e.service e.now d w.traffic with hsame | ⟨r, hr, hsame | ⟨later, hlater⟩⟩
  · exact Or.inl (World.perform_eq_self hsame)
  · exact Or.inl (World.perform_eq_self hsame)
  · exact Or.inr ⟨r, later, hr, hlater⟩

/-- Nobody else changes the session. -/
def Surroundings.Quiet (e : Surroundings) : Prop := ∀ n, e.meanwhile n = []

theorem World.perform_store {e : Surroundings} (h : e.Quiet) (d : Dispatch) (w : World) :
    (w.perform e d).2.store = w.store := by
  have hnone : ∀ first count, e.changes first count = [] := fun first count =>
    List.flatMap_eq_nil_iff.mpr fun n _ => h n
  simp only [World.perform, hnone]
  rfl

/-! ## 3. What an answer comes to -/

section
variable {α : Type} (d : Decoder α) (endpoint : String)

theorem classify_of_failure {status : Status} (h : status.isSuccess = false)
    (body : List UInt8) : classify d endpoint status body = .error (.ofResponse status body) := by
  simp [classify, h]

theorem classify_of_bare {status : Status} (h : status.isSuccess = true) {body : List UInt8}
    (hbare : status = .noContent ∨ body = []) :
    classify d endpoint status body = d.decodeNull.mapError (.unreadable endpoint) := by
  rcases hbare with rfl | rfl
  · simp [classify, h]
  · simp [classify, h]

theorem classify_of_body {status : Status} (h : status.isSuccess = true)
    (hcontent : status ≠ .noContent) {body : List UInt8} (hbody : body ≠ []) :
    classify d endpoint status body = (d.decode body).mapError (.unreadable endpoint) := by
  simp [classify, h, hcontent, hbody]

/-- All that an answer can come to. -/
theorem classify_cases (status : Status) (body : List UInt8) :
    (status.isSuccess = false ∧
        classify d endpoint status body = .error (.ofResponse status body)) ∨
      (status.isSuccess = true ∧ (status = .noContent ∨ body = []) ∧
        classify d endpoint status body = d.decodeNull.mapError (.unreadable endpoint)) ∨
      (status.isSuccess = true ∧ status ≠ .noContent ∧ body ≠ [] ∧
        classify d endpoint status body = (d.decode body).mapError (.unreadable endpoint)) := by
  cases hsuccess : status.isSuccess with
  | false => exact Or.inl ⟨rfl, classify_of_failure d endpoint hsuccess body⟩
  | true =>
    by_cases hbare : status = .noContent ∨ body = []
    · exact Or.inr (Or.inl ⟨rfl, hbare, classify_of_bare d endpoint hsuccess hbare⟩)
    · obtain ⟨hcontent, hbody⟩ := not_or.mp hbare
      exact Or.inr (Or.inr ⟨rfl, hcontent, hbody,
        classify_of_body d endpoint hsuccess hcontent hbody⟩)

theorem ofResponse_ne_refused (status : Status) (body : List UInt8) (refusal : Refusal) :
    Failure.ofResponse status body ≠ .refused refusal := by
  unfold Failure.ofResponse
  split <;> simp

theorem classify_ne_refused (status : Status) (body : List UInt8) (refusal : Refusal) :
    classify d endpoint status body ≠ .error (.refused refusal) := by
  rcases classify_cases d endpoint status body with ⟨-, hresult⟩ | ⟨-, -, hresult⟩ |
    ⟨-, -, -, hresult⟩
  · rw [hresult]
    intro h
    exact ofResponse_ne_refused status body refusal (Except.error.inj h)
  · rw [hresult]
    cases d.decodeNull <;> simp
  · rw [hresult]
    cases d.decode body <;> simp

end

/-! ## 4. An operation in the world -/

section
variable {e : Surroundings} {c : Client} {o : Operation} {w w' : World}
  {result : Except Failure o.Result}

/-- An operation is refused before anything is sent. -/
def Client.Refuses (c : Client) (o : Operation) (credential : Option String)
    (refusal : Refusal) : Prop :=
  o.call = .error refusal ∨ ∃ call, o.call = .ok call ∧ c.dispatch credential call = .error refusal

/-- All that an operation can do. -/
theorem Client.perform_cases (h : (c.perform o).run e w = (result, w')) :
    (∃ refusal, c.Refuses o w.store.snapshot.credential? refusal ∧
        result = .error (.refused refusal) ∧ w' = w) ∨
      ∃ call d, o.call = .ok call ∧ c.dispatch w.store.snapshot.credential? call = .ok d ∧
        result = settle o.decoder call.endpoint d.deadline (w.perform e d).1 ∧
        w' = (w.perform e d).2 := by
  unfold Client.perform at h
  cases hcall : o.call with
  | error refusal =>
    simp only [hcall, Flow.run_done, Prod.mk.injEq] at h
    exact Or.inl ⟨refusal, Or.inl hcall, h.1.symm, h.2.symm⟩
  | ok call =>
    simp only [hcall, Client.send, Client.start, Flow.run] at h
    cases hd : c.dispatch w.store.snapshot.credential? call with
    | error refusal =>
      simp only [hd, Flow.run_done, Prod.mk.injEq] at h
      exact Or.inl ⟨refusal, Or.inr ⟨call, hcall, hd⟩, h.1.symm, h.2.symm⟩
    | ok d =>
      simp only [hd, Flow.run, Prod.mk.injEq] at h
      exact Or.inr ⟨call, d, rfl, hd, h.1.symm, h.2.symm⟩

theorem Client.perform_store (hquiet : e.Quiet) (h : (c.perform o).run e w = (result, w')) :
    w'.store = w.store := by
  rcases Client.perform_cases h with ⟨refusal, -, -, rfl⟩ | ⟨call, d, -, -, -, rfl⟩
  · rfl
  · exact World.perform_store hquiet d w

/-- Nothing that comes of a request is a refusal. -/
theorem settle_ne_refused {α : Type} (d : Decoder α) (endpoint : String) (deadline : Time.Duration)
    (outcome : Outcome) (refusal : Refusal) :
    settle d endpoint deadline outcome ≠ .error (.refused refusal) := by
  cases outcome with
  | answered status body => exact classify_ne_refused d endpoint status body refusal
  | failed fault => simp [settle]
  | timedOut => simp [settle]
  | cancelled => simp [settle]

/-- An operation that is refused is refused for its call or its headers. -/
theorem Client.perform_refused {refusal : Refusal}
    (h : ((c.perform o).run e w).1 = .error (.refused refusal)) :
    c.Refuses o w.store.snapshot.credential? refusal := by
  rcases Client.perform_cases (Prod.ext h rfl) with
    ⟨refusal', hrefuses, hr, -⟩ | ⟨call, d, -, -, hr, -⟩
  · rw [Failure.refused.inj (Except.error.inj hr)]
    exact hrefuses
  · exact absurd hr.symm (settle_ne_refused _ _ _ _ _)

/-- An operation changes nothing, or it begins with its own request. -/
theorem Client.perform_sent (h : (c.perform o).run e w = (result, w')) :
    w' = w ∨ ∃ first later,
      c.Issues o w.store.snapshot.credential? w.traffic.jar first ∧
      w'.traffic.requests = w.traffic.requests ++ first :: later := by
  rcases Client.perform_cases h with ⟨refusal, -, -, hw⟩ | ⟨call, d, hcall, hd, -, rfl⟩
  · exact Or.inl hw
  · rcases World.perform_sent e d w with hsame | ⟨r, later, hr, hlater⟩
    · exact Or.inl hsame
    · exact Or.inr ⟨r.withCookies w.traffic.jar, later, ⟨call, d, r, hcall, hd, hr, rfl⟩, hlater⟩

end

/-! ## 5. What is refused -/

/-- A call with an id in its path, if that is a segment. -/
theorem call_of_path (front id back : String) {f : String → Call}
    (h : ∀ path, (f path).headers = []) :
    (∃ call, (pathWith front id back).map f = .ok call ∧ call.headers = []) ∨
      (pathWith front id back).map f = .error (.segment id) := by
  unfold pathWith
  split
  · exact Or.inl ⟨_, rfl, h _⟩
  · exact Or.inr rfl

/-- An operation makes a call without headers of its own, unless an id in it is
no segment of a path. -/
theorem Operation.call_cases (o : Operation) :
    (∃ call, o.call = .ok call ∧ call.headers = []) ∨ ∃ id, o.call = .error (.segment id) := by
  cases o with
  | showSession id => exact (call_of_path _ id _ fun _ => rfl).imp_right fun h => ⟨id, h⟩
  | cancelSession id => exact (call_of_path _ id _ fun _ => rfl).imp_right fun h => ⟨id, h⟩
  | grantRole id role => exact (call_of_path _ id _ fun _ => rfl).imp_right fun h => ⟨id, h⟩
  | revokeRole id role => exact (call_of_path _ id _ fun _ => rfl).imp_right fun h => ⟨id, h⟩
  | disable id reason => exact (call_of_path _ id _ fun _ => rfl).imp_right fun h => ⟨id, h⟩
  | reenable id => exact (call_of_path _ id _ fun _ => rfl).imp_right fun h => ⟨id, h⟩
  | _ => exact Or.inl ⟨_, rfl, rfl⟩

/-- A credential that fits into a header never keeps an operation from asking. -/
theorem not_refuses_credential {c : Client} {o : Operation} {credential : String}
    (h : isHeaderValue (bearer credential) = true) :
    ¬ c.Refuses o (some credential) .credential := by
  intro hrefuses
  rcases o.call_cases with ⟨call, hcall, hheaders⟩ | ⟨id, hcall⟩
  · rcases hrefuses with hrefused | ⟨call', hcall', hdispatch⟩
    · cases hcall.symm.trans hrefused
    · obtain rfl : call = call' := Except.ok.inj (hcall.symm.trans hcall')
      obtain ⟨hs, hmerge⟩ := mergeHeaders_of_isHeaderValue h
      rw [← hheaders] at hmerge
      simp [Client.dispatch, hmerge, bind, Except.bind] at hdispatch
  · rcases hrefuses with hrefused | ⟨call', hcall', -⟩
    · cases Except.error.inj (hcall.symm.trans hrefused)
    · cases hcall.symm.trans hcall'

/-! ## 6. Results -/

/-- The last word of the service is a text that reads as `a`. -/
def Returned {α : Type} (service : Http.Service) (requests : List Request) (d : Decoder α)
    (a : α) : Prop :=
  ∃ status body, LastAnswer service requests status body ∧ status.isSuccess = true ∧
    d.decode body = .ok a

theorem classify_ok {α : Type} {d : Decoder α} {endpoint : String} {status : Status}
    {body : List UInt8} {a : α} (hnull : ∀ a, d.decodeNull ≠ .ok a)
    (h : classify d endpoint status body = .ok a) :
    status.isSuccess = true ∧ body ≠ [] ∧ d.decode body = .ok a := by
  rcases classify_cases d endpoint status body with ⟨-, hresult⟩ | ⟨-, -, hresult⟩ |
    ⟨hsuccess, -, hbody, hresult⟩
  · rw [hresult] at h
    cases h
  · rw [hresult] at h
    cases hn : d.decodeNull with
    | error fault => simp [hn] at h
    | ok b => exact absurd hn (hnull b)
  · rw [hresult] at h
    refine ⟨hsuccess, hbody, ?_⟩
    cases hd : d.decode body with
    | error fault => simp [hd] at h
    | ok b => simpa [hd] using h

/-- An operation that succeeds began with its own request, and the service
returned its result. -/
theorem Client.perform_ok {e : Surroundings} {c : Client} {o : Operation} {w w' : World}
    {a : o.Result} (hnull : ∀ a, o.decoder.decodeNull ≠ .ok a)
    (h : (c.perform o).run e w = (.ok a, w')) :
    ∃ first later, c.Issues o w.store.snapshot.credential? w.traffic.jar first ∧
      w'.traffic.requests = w.traffic.requests ++ first :: later ∧
      Returned e.service w'.traffic.requests o.decoder a := by
  rcases Client.perform_cases h with ⟨refusal, -, hr, -⟩ | ⟨call, d, hcall, hd, hresult, rfl⟩
  · cases hr
  · cases hout : (w.perform e d).1 with
    | failed fault => simp [hout, settle] at hresult
    | timedOut => simp [hout, settle] at hresult
    | cancelled => simp [hout, settle] at hresult
    | answered status body =>
      rw [hout] at hresult
      obtain ⟨hsuccess, hbody, hdecode⟩ := classify_ok hnull hresult.symm
      obtain ⟨⟨r, later, hr, hlater⟩, hlast⟩ := Http.perform_answered (Prod.ext hout rfl) hbody
      exact ⟨r.withCookies w.traffic.jar, later, ⟨call, d, r, hcall, hd, hr, rfl⟩, hlater,
        status, body, hlast, hsuccess, hdecode⟩

end CoachClient.Service
