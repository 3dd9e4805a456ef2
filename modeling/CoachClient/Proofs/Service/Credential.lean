/-
CoachClient.Proofs.Service.Credential — the credential on the wire.

* `all_mergeHeaders` — the headers of a call carry its credential exactly once,
  and none when it has none, whatever headers the caller asks for.
* `Client.Issues` — the first request that an operation puts on the wire for
  somebody with a credential.
* `Client.Issues.asks` — that request has the method and the URL of its call.
* `Client.Issues.isHeaderValue` — its credential fits into a header.
* `Client.Issues.authorization` — and it has exactly one value for the
  authorization header, the bearer form of the credential. User information in
  the address of the service does not get in its way: it is a header of the URL,
  which the header of the call replaces.

The headers are made in three places (the call, the URL, the cookies), and each
has its lemma on `Headers.all`.
-/
import CoachClient.Proofs.Http.Exchange
import CoachClient.Proofs.Service.Headers
import CoachClient.Service.Operation

namespace CoachClient.Service

open CoachClient.Http

/-! ## 1. The headers of a call -/

/-- What a call says about the credential is dropped. -/
theorem all_foldl_putHeader (extra : List (String × String)) (hs : Headers) :
    Headers.all authorization (extra.foldl putHeader hs) = Headers.all authorization hs := by
  induction extra generalizing hs with
  | nil => rfl
  | cons header extra ih =>
    rw [List.foldl_cons, ih]
    unfold putHeader
    split
    · rfl
    · rename_i hname
      exact Headers.all_set_of_ne hname _ hs

/-- The headers of a call carry its credential, once, and nothing else under the
name of that header. -/
theorem all_mergeHeaders {credential : Option String} {extra : List (String × String)}
    {hs : Headers} (h : mergeHeaders credential extra = .ok hs) :
    Headers.all authorization hs = (credential.map bearer).toList := by
  obtain ⟨-, rfl⟩ := mergeHeaders_eq_ok_iff.mp h
  have hnone : Headers.all authorization (extra.foldl putHeader [(contentType, jsonType)]) = [] := by
    rw [all_foldl_putHeader]
    exact Headers.all_cons_of_ne (by decide) jsonType []
  cases credential with
  | none => exact hnone
  | some shown =>
    simp only [mergedHeaders, Headers.all_set_self, hnone]
    rfl

/-- A credential that is carried fits into a header. -/
theorem isHeaderValue_of_mergeHeaders {credential : String} {extra : List (String × String)}
    {hs : Headers} (h : mergeHeaders (some credential) extra = .ok hs) :
    isHeaderValue (bearer credential) = true :=
  (mergeHeaders_eq_ok_iff.mp h).1.credential credential rfl

/-- And one that fits into a header is not in the way of a call without headers
of its own. -/
theorem mergeHeaders_of_isHeaderValue {credential : String}
    (h : isHeaderValue (bearer credential) = true) :
    ∃ hs, mergeHeaders (some credential) [] = .ok hs := by
  have hfits : Fits (some credential) [] := by
    refine ⟨by simp, by simp, ?_⟩
    rintro shown ⟨⟩
    exact h
  exact ⟨_, mergeHeaders_eq_ok_iff.mpr ⟨hfits, rfl⟩⟩

/-! ## 2. From the call to the first request -/

section
variable {ε ε' α : Type} (f : ε → ε')

@[simp] theorem mapError_error (e : ε) : (Except.error e : Except ε α).mapError f = .error (f e) :=
  rfl

@[simp] theorem mapError_ok (a : α) : (Except.ok a).mapError f = .ok a := rfl

end

/-- A dispatch is the call with the merged headers; nothing else of the
credential gets into it. -/
theorem dispatch_ok {c : Client} {credential : Option String} {call : Call} {d : Dispatch}
    (h : c.dispatch credential call = .ok d) :
    mergeHeaders credential call.headers = .ok d.headers ∧ d.method = call.method ∧
      d.url = c.address call.endpoint := by
  simp only [Client.dispatch] at h
  cases hm : mergeHeaders credential call.headers with
  | error refusal => simp [hm, bind, Except.bind] at h
  | ok hs =>
    simp only [hm, bind, Except.bind] at h
    rw [← Except.ok.inj h]
    exact ⟨rfl, rfl, rfl⟩

/-- A single authorization header of a dispatch is that of its first request. -/
theorem all_request {d : Dispatch} {r : Request} {value : String} (h : d.request = .ok r)
    (hd : Headers.all authorization d.headers = [value]) :
    Headers.all authorization r.headers = [value] := by
  simp only [Dispatch.request] at h
  cases hu : Url.parse d.url with
  | error fault => simp [hu, bind, Except.bind] at h
  | ok url =>
    simp only [hu, mapError_ok, bind, Except.bind] at h
    split at h
    · simp at h
    · rw [← Except.ok.inj h]
      rw [Headers.all_setDefault_of_ne (by decide), Headers.all_setDefault_of_ne (by decide),
        Headers.all_setAll, hd, List.foldl_cons, List.foldl_nil]
      -- what the URL brings is at most one value, and this one takes its place
      split
      · simp [Headers.all_cons_self]
      · simp

theorem all_withCookies (r : Request) (jar : Jar) :
    Headers.all authorization (r.withCookies jar).headers =
      Headers.all authorization r.headers := by
  unfold Request.withCookies
  split
  · exact Headers.all_setDefault_of_ne (by decide) _ _
  · rfl

/-! ## 3. The first request of an operation -/

/-- `first` is the request with which an operation begins, for somebody with a
credential and with cookies. -/
def Client.Issues (c : Client) (o : Operation) (credential : Option String) (jar : Jar)
    (first : Request) : Prop :=
  ∃ call d r, o.call = .ok call ∧ c.dispatch credential call = .ok d ∧ d.request = .ok r ∧
    first = r.withCookies jar

/-- A request with a method and the URL of an endpoint of the service. -/
def Client.Asks (c : Client) (method endpoint : String) (r : Request) : Prop :=
  r.method = method ∧
    ∃ url, Url.parse (c.address endpoint) = .ok url ∧ r.url = url.takeUserinfo.1

theorem request_ok {d : Dispatch} {r : Request} (h : d.request = .ok r) :
    r.method = d.method ∧ ∃ url, Url.parse d.url = .ok url ∧ r.url = url.takeUserinfo.1 := by
  simp only [Dispatch.request] at h
  cases hu : Url.parse d.url with
  | error fault => simp [hu, bind, Except.bind] at h
  | ok url =>
    simp only [hu, mapError_ok, bind, Except.bind] at h
    split at h
    · simp at h
    · rw [← Except.ok.inj h]
      exact ⟨rfl, url, rfl, rfl⟩

/-- The request goes where the call says, with the method of the call. -/
theorem Client.Issues.asks {c : Client} {o : Operation} {call : Call} {credential : Option String}
    {jar : Jar} {first : Request} (h : c.Issues o credential jar first)
    (hcall : o.call = .ok call) :
    c.Asks call.method call.endpoint first := by
  obtain ⟨call', d, r, hcall', hd, hr, rfl⟩ := h
  obtain rfl : call' = call := Except.ok.inj (hcall'.symm.trans hcall)
  obtain ⟨-, hmethod, hurl⟩ := dispatch_ok hd
  obtain ⟨hm, url, hparse, hu⟩ := request_ok hr
  obtain ⟨hcm, hcu⟩ := withCookies_method_url r jar
  exact ⟨by rw [hcm, hm, hmethod], url, by rw [← hurl, hparse], by rw [hcu, hu]⟩

/-- What is shown fits into a header. -/
theorem Client.Issues.isHeaderValue {c : Client} {o : Operation} {credential : String} {jar : Jar}
    {first : Request} (h : c.Issues o (some credential) jar first) :
    Http.isHeaderValue (bearer credential) = true := by
  obtain ⟨call, d, r, -, hd, -, -⟩ := h
  exact isHeaderValue_of_mergeHeaders (dispatch_ok hd).1

/-- Who has a credential shows it, and shows nothing else. -/
theorem Client.Issues.authorization {c : Client} {o : Operation} {credential : String} {jar : Jar}
    {first : Request} (h : c.Issues o (some credential) jar first) :
    Headers.all Http.authorization first.headers = [bearer credential] := by
  obtain ⟨call, d, r, -, hd, hr, rfl⟩ := h
  rw [all_withCookies]
  exact all_request hr (all_mergeHeaders (dispatch_ok hd).1)

end CoachClient.Service
