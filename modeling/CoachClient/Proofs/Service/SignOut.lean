/-
CoachClient.Proofs.Service.SignOut — signing out, here and with the service.

* `signOut_run` — it is the operation that revokes the token, and then nobody is signed
  in.
* `Client.Acknowledges` — the service answers that operation with success, and with
  nothing or a JSON value for a body.
* `signOut_ok_iff` — signing out succeeds exactly then.
* `Client.Presents` — a request is authorized by the credential of who is signed in, or by
  the address of the service and by no credential when nobody is.
* `signOut_sent` — what it sends: its own request, so authorized, and what the service
  redirects to after it.
-/
import CoachClient.Proofs.Service.Yield
import CoachClient.Proofs.Settings.Authorization

namespace CoachClient.Service

open CoachClient.Access CoachClient.Http CoachClient.Json

/-! ## 1. What is left -/

section
variable {e : Surroundings} {c : Client} {w : World}

/-- The session is cleared after the operation, whatever comes of that. -/
theorem signOut_run (e : Surroundings) (c : Client) (w : World) :
    c.signOut.run e w =
      let revoked := (c.perform .revokeToken).run e w
      (revoked.1.map fun _ => (), { revoked.2 with store := revoked.2.store.apply .clear }) := by
  simp only [Client.signOut, bind, pure, Flow.run_bind, Flow.run_change, Flow.run_done]

/-! ## 2. When it succeeds -/

/-- The service acknowledges that the user signs out: its answer, in the end, reports
success, and has no body or one that reads as JSON. -/
def Client.Acknowledges (c : Client) (e : Surroundings) (w : World) : Prop :=
  ∃ d status body, c.dispatch w.store.snapshot.credential? (.post "/auth/logout") = .ok d ∧
    (Http.perform e.service e.now d w.traffic).1 = .answered status body ∧
    status.isSuccess = true ∧
    (status = .noContent ∨ body = [] ∨ ∃ v, Decoder.value.decode body = .ok v)

theorem classify_value_iff {endpoint : String} {status : Status} {body : List UInt8} :
    (∃ v, classify Decoder.value endpoint status body = .ok v) ↔
      status.isSuccess = true ∧
        (status = .noContent ∨ body = [] ∨ ∃ v, Decoder.value.decode body = .ok v) := by
  rcases classify_cases Decoder.value endpoint status body with ⟨hsuccess, hresult⟩ |
    ⟨hsuccess, hbare, hresult⟩ | ⟨hsuccess, hcontent, hbody, hresult⟩
  · rw [hresult, hsuccess]
    simp
  · have hnull : Decoder.value.decodeNull = .ok .null := rfl
    rw [hresult, hnull, hsuccess, ← or_assoc]
    simp [hbare]
  · rw [hresult, hsuccess]
    cases hdecode : Decoder.value.decode body with
    | error fault => simp [hcontent, hbody]
    | ok v => simp

/-- The operation succeeds exactly then: what its request comes to is all that counts. -/
theorem revoke_ok_iff :
    (∃ v, ((c.perform .revokeToken).run e w).1 = .ok v) ↔ c.Acknowledges e w := by
  rcases hrun : (c.perform .revokeToken).run e w with ⟨result, w'⟩
  rcases Client.perform_cases hrun with
    ⟨refusal, hrefuses, rfl, -⟩ | ⟨call, d, hcall, hd, rfl, -⟩
  · -- what is refused is not sent, let alone acknowledged
    constructor
    · rintro ⟨v, hv⟩
      cases hv
    · rintro ⟨d, status, body, hd, -⟩
      rcases hrefuses with hcall | ⟨call, hcall, hrefused⟩
      · cases hcall
      · obtain rfl := Except.ok.inj hcall
        cases hd.symm.trans hrefused
  · obtain rfl := Except.ok.inj hcall
    have hperform : (w.perform e d).1 = (Http.perform e.service e.now d w.traffic).1 := rfl
    rw [hperform]
    constructor
    · rintro ⟨v, hv⟩
      cases houtcome : (Http.perform e.service e.now d w.traffic).1 with
      | answered status body =>
        rw [houtcome] at hv
        exact ⟨d, status, body, hd, houtcome, classify_value_iff.mp ⟨v, hv⟩⟩
      | failed fault => simp [houtcome, settle] at hv
      | timedOut => simp [houtcome, settle] at hv
      | cancelled => simp [houtcome, settle] at hv
    · rintro ⟨d', status, body, hd', houtcome, hanswer⟩
      obtain rfl : d = d' := Except.ok.inj (hd.symm.trans hd')
      rw [houtcome]
      exact classify_value_iff.mpr hanswer

/-- Signing out succeeds exactly if the service acknowledges it. -/
theorem signOut_ok_iff : (c.signOut.run e w).1 = .ok () ↔ c.Acknowledges e w := by
  rw [signOut_run, ← revoke_ok_iff]
  rcases hrun : (c.perform .revokeToken).run e w with ⟨result, w'⟩
  cases result with
  | error failure => simp [Except.map]
  | ok v => simp [Except.map]

/-! ## 3. What it sends -/

/-- What authorizes a request: the credential, in its one authorization header. For nobody
it is the user information in the address of the service, if that has any, and no
credential. -/
def Client.Presents (c : Client) (credential : Option String) (r : Request) : Prop :=
  (∀ shown, credential = some shown → Headers.all authorization r.headers = [bearer shown]) ∧
    (credential = none → (∀ token, bearer token ∉ Headers.all authorization r.headers) ∧
      ∀ base, Url.parse c.baseUrl = .ok base → base.isWeb = true →
        Headers.all authorization r.headers = (userinfoHeader base).toList)

/-- User information is not taken for a credential. -/
theorem basicCredential_ne_bearer (name : String) (password : Option String) (token : String) :
    basicCredential name password ≠ bearer token := by
  intro hsame
  have hletters := congrArg (fun text => text.toList.take 2) hsame
  simp [basicCredential, bearer, String.toList_append] at hletters

theorem Client.SendsFirst.bearer_not_mem {α : Type} {d : Decoder α} {call : Call} {first : Request}
    (h : c.SendsFirst d call e w first) (hc : w.store.snapshot.credential? = none)
    (token : String) : bearer token ∉ Headers.all authorization first.headers := by
  obtain ⟨dispatch, r, hd, hr, rfl⟩ := h.exists_dispatch
  rw [hc] at hd
  obtain ⟨url, -, hall⟩ := all_request_of_nil hr (all_mergeHeaders (dispatch_ok hd).1)
  rw [all_withCookies, hall]
  intro hmem
  obtain ⟨user, -, hsame⟩ := Option.map_eq_some_iff.mp (Option.mem_toList.mp hmem)
  exact basicCredential_ne_bearer user.1 user.2 token hsame

theorem Client.SendsFirst.presents {α : Type} {d : Decoder α} {call : Call} {first : Request}
    (h : c.SendsFirst d call e w first) : c.Presents w.store.snapshot.credential? first :=
  ⟨fun _ hsome => h.all_of_some hsome, fun hnone =>
    ⟨h.bearer_not_mem hnone, fun _ hbase hweb => h.all_of_none hbase hweb hnone⟩⟩

/-- Signing out asks the service for just that, with the credential there was. -/
theorem signOut_sent (e : Surroundings) (c : Client) (w : World) :
    ∃ sent, (c.signOut.run e w).2.traffic.requests = w.traffic.requests ++ sent ∧
      c.AsksOnly e.service "POST" "/auth/logout" w.traffic.requests sent ∧
      ∀ first ∈ sent.head?, c.Presents w.store.snapshot.credential? first := by
  rcases hrun : (c.perform .revokeToken).run e w with ⟨result, w'⟩
  obtain ⟨sent, hsent, hasks⟩ := Client.perform_asksOnly rfl hrun
  rw [signOut_run, hrun]
  refine ⟨sent, hsent, hasks, fun first hfirst => ?_⟩
  obtain ⟨later, rfl⟩ := List.head?_eq_some_iff.mp hfirst
  have hsends : c.SendsFirst Decoder.value (.post "/auth/logout") e w first := by
    refine ⟨later, ?_⟩
    show ((c.perform .revokeToken).run e w).2.traffic.requests = _
    rw [hrun]
    exact hsent
  exact hsends.presents

end

end CoachClient.Service
