/-
CoachClient.Proofs.Service.Sending — every call sends its own request, and the request
tells which call it is.

* `Client.carryOut` — what a user of the client asks it to do.
* `Operation.IsAskedBy` — the request names the operation: its method, its path and
  query as they stand in the URL, and its body.
* `IsOrigin.exists_dispatch`, `exists_request` — on the way to the wire the call of an
  operation keeps all this.
* `Client.perform_asks` — an operation puts such a request on the wire, or nothing
  where a limit or the other side does not let it.
* `Client.signIn_sent`, `signIn_extends` — signing in begins with asking for a token, and
  what comes behind the token is only added.
* `calls_send_their_own_request` — so does everything a user can ask for. What is
  refused is refused for its id, and what is sent is sent for one call only.
-/
import CoachClient.Proofs.Service.Origin
import CoachClient.Proofs.Service.Request
import CoachClient.Proofs.Service.SignIn

namespace CoachClient.Service

open CoachClient.Access CoachClient.Coaching CoachClient.Http CoachClient.Json CoachClient.Text
  CoachClient.Url

/-! ## 1. What a user asks for -/

/-- Carry out an operation as a user asks for it: with a token the user is signed in,
and signing out ends the session. -/
def Client.carryOut (c : Client) : Operation → Flow (Except Failure Unit)
  | .grantToken credentials => do
    let result ← c.signIn credentials
    return result.map fun _ => ()
  | .revokeToken => c.signOut
  | o => do
    let result ← c.perform o
    return result.map fun _ => ()

/-- The credential of the moment, if there is one, fits into a header. -/
def World.CanShow (w : World) : Prop :=
  ∀ credential ∈ w.store.snapshot.credential?, isHeaderValue (bearer credential) = true

/-- The request is the one that the operation is documented to make. -/
structure Operation.IsAskedBy (o : Operation) (r : Request) : Prop where
  line : (r.method, r.url.target) = o.line
  body : o.IsCarriedBy r.body

/-- The first request that arrives when the operation is carried out. -/
def Client.Sends (c : Client) (o : Operation) (e : Surroundings) (w : World)
    (first : Request) : Prop :=
  ∃ later, ((c.carryOut o).run e w).2.traffic.requests = w.traffic.requests ++ first :: later

/-- A request that is made and does not arrive: there is no time for it, its URL is too
long to be named, or nobody is there to take it. -/
def Client.Withholds (c : Client) (e : Surroundings) (w : World) (first : Request) : Prop :=
  c.timeout.isZero = true ∨ first.url.isNameable = false ∨
    e.service w.traffic.requests first = .unreachable

/-! ## 2. From the call to the wire -/

section
variable {c : Client} {base : Url} {o : Operation} {e : Surroundings} {w : World}

/-- A call without headers of its own becomes a dispatch that is like it. -/
theorem exists_dispatch {call : Call} (hcall : o.IsCallOf call) (hshow : w.CanShow) :
    ∃ d, c.dispatch w.store.snapshot.credential? call = .ok d ∧ d.method = call.method ∧
      d.url = c.address call.endpoint ∧ d.body = bodyBytes call.body ∧ d.deadline = c.timeout ∧
      d.cancellation = .never := by
  have hmerge : ∃ hs, mergeHeaders w.store.snapshot.credential? [] = .ok hs := by
    cases hcredential : w.store.snapshot.credential? with
    | none => exact ⟨_, rfl⟩
    | some credential => exact mergeHeaders_of_isHeaderValue (hshow credential hcredential)
  obtain ⟨hs, hmerge⟩ := hmerge
  have hdispatch : c.dispatch w.store.snapshot.credential? call = .ok
      { method := call.method, url := c.address call.endpoint, headers := hs,
        body := bodyBytes call.body, deadline := call.timeout.getD c.timeout,
        cancellation := call.cancellation } := by
    simp only [Client.dispatch, hcall.headers, hmerge, bind, Except.bind]
    rfl
  refine ⟨_, hdispatch, rfl, rfl, rfl, ?_, hcall.cancellation⟩
  rw [hcall.timeout]
  rfl

/-- Taking its user information away leaves a URL what a request names. -/
theorem takeUserinfo_target (u : Url) :
    u.takeUserinfo.1.target = u.target ∧ u.takeUserinfo.1.isWeb = u.isWeb := by
  unfold Url.takeUserinfo
  split
  · exact ⟨rfl, rfl⟩
  · dsimp only
    split
    · exact ⟨rfl, rfl⟩
    · exact ⟨rfl, rfl⟩

/-- The request is all that a dispatch can make, and it is made if its URL can be
named. -/
structure Makes (d : Dispatch) (r : Request) : Prop where
  made : r.url.isNameable = true → d.request = .ok r
  only : ∀ r', d.request = .ok r' → r' = r

/-- A dispatch to a URL of the web makes a request that is like it. -/
theorem exists_request {d : Dispatch} {url : Url} (hparse : Url.parse d.url = .ok url)
    (hweb : url.isWeb = true) :
    ∃ r, Makes d r ∧ r.method = d.method ∧ r.url = url.takeUserinfo.1 ∧ r.body = d.body := by
  obtain ⟨-, hweb'⟩ := takeUserinfo_target url
  rw [hweb] at hweb'
  cases hname : url.takeUserinfo.1.isNameable with
  | true =>
    have hrequest : ∃ hs, d.request =
        .ok { method := d.method, url := url.takeUserinfo.1, headers := hs, body := d.body } := by
      simp only [Dispatch.request, hparse, mapError_ok, bind, Except.bind, hweb', hname,
        Bool.not_true, Bool.or_self, Bool.false_eq_true, if_false]
      exact ⟨_, rfl⟩
    obtain ⟨hs, hrequest⟩ := hrequest
    refine ⟨_, ⟨fun _ => hrequest, fun r' hr' => ?_⟩, rfl, rfl, rfl⟩
    exact Except.ok.inj (hr'.symm.trans hrequest)
  | false =>
    have hnone : ∀ r', d.request ≠ .ok r' := by
      intro r' hr'
      simp [Dispatch.request, hparse, bind, Except.bind, hname] at hr'
    refine ⟨{ method := d.method, url := url.takeUserinfo.1, headers := [], body := d.body },
      ⟨fun hfalse => ?_, fun r' hr' => absurd hr' (hnone r')⟩, rfl, rfl, rfl⟩
    rw [hname] at hfalse
    cases hfalse

/-- The call of an operation makes a request that asks for it. -/
theorem IsOrigin.exists_asking (horigin : IsOrigin c.baseUrl base) {call : Call}
    (ho : o.call = .ok call) (hcall : o.IsCallOf call) {d : Dispatch}
    (hmethod : d.method = call.method) (hurl : d.url = c.address call.endpoint)
    (hbody : d.body = bodyBytes call.body) (jar : Jar) :
    ∃ r, Makes d r ∧ o.IsAskedBy (r.withCookies jar) := by
  obtain ⟨path, query, hplain⟩ := Operation.call_endpoint ho
  obtain ⟨url, hparse, hweb, htarget⟩ := horigin.parse_address hplain
  rw [← hurl] at hparse
  obtain ⟨r, hmakes, hm, hu, hb⟩ := exists_request hparse hweb
  obtain ⟨hcm, hcu⟩ := withCookies_method_url r jar
  refine ⟨r, hmakes, ?_, ?_⟩
  · rw [hcm, hcu, hm, hu, (takeUserinfo_target url).1, htarget, hmethod]
    exact hcall.line
  · rw [withCookies_body, hb, hbody]
    exact Operation.isCarriedBy_of_call hcall

/-- An operation asks for itself, or its request does not arrive and nothing
happens. -/
theorem Client.perform_asks (horigin : IsOrigin c.baseUrl base) (ho : o.HasId)
    (hshow : w.CanShow) :
    ∃ first, o.IsAskedBy first ∧
      ((∃ later, ((c.perform o).run e w).2.traffic.requests =
          w.traffic.requests ++ first :: later) ∨
        ((c.perform o).run e w).2 = w ∧ c.Withholds e w first) := by
  obtain ⟨call, hok, hcall⟩ := Operation.exists_call ho
  obtain ⟨d, hd, hmethod, hurl, hbody, hdeadline, hcancellation⟩ := exists_dispatch hcall hshow
  obtain ⟨r, hmakes, hasked⟩ :=
    horigin.exists_asking hok hcall hmethod hurl hbody w.traffic.jar
  have hrun : ((c.perform o).run e w).2 = (w.perform e d).2 := by
    simp only [Client.perform, hok, Client.send, Client.start, Flow.run, hd]
  refine ⟨r.withCookies w.traffic.jar, hasked, ?_⟩
  rw [hrun]
  rcases World.perform_sent e d w with hsame | ⟨r', later, hr', hlater⟩
  · refine Or.inr ⟨hsame, ?_⟩
    by_contra hno
    simp only [Client.Withholds, not_or, Bool.not_eq_true, Bool.not_eq_false] at hno
    obtain ⟨htime, hname, hreachable⟩ := hno
    rw [(withCookies_method_url r w.traffic.jar).2] at hname
    rw [← hdeadline] at htime
    obtain ⟨later, hlater⟩ :=
      perform_arrived e.now (hmakes.made hname) hcancellation htime hreachable
    have hrequests : (w.perform e d).2.traffic.requests =
        w.traffic.requests ++ r.withCookies w.traffic.jar :: later := hlater
    rw [hsame] at hrequests
    simp at hrequests
  · obtain rfl := hmakes.only r' hr'
    exact Or.inl ⟨later, hlater⟩

/-! ## 3. From the user to the call -/

theorem Flow.run_map {α β : Type} (e : Surroundings) (p : Flow α) (f : α → β) (w : World) :
    (do let a ← p; return f a : Flow β).run e w = (f (p.run e w).1, (p.run e w).2) :=
  Flow.run_bind e p (fun a => .done (f a)) w

/-- An operation only adds to what has arrived. -/
theorem Client.perform_extends (c : Client) (o : Operation) (e : Surroundings) (w : World) :
    ∃ more, ((c.perform o).run e w).2.traffic.requests = w.traffic.requests ++ more := by
  rcases hrun : (c.perform o).run e w with ⟨result, w'⟩
  rcases Client.perform_sent hrun with hsame | ⟨first, later, -, hlater⟩
  · exact ⟨[], by rw [hsame, List.append_nil]⟩
  · exact ⟨_, hlater⟩

/-- With a token, signing in only adds to what has arrived. -/
theorem Client.signIn_extends {credentials : Credentials} {grant : Grant} {w₁ w' : World}
    {result : Except Failure Profile} (h : (c.signIn credentials).run e w = (result, w'))
    (htoken : (c.perform (.grantToken credentials)).run e w = (.ok grant, w₁)) :
    ∃ more, w'.traffic.requests = w₁.traffic.requests ++ more := by
  obtain ⟨more, hmore⟩ := c.perform_extends .identity e (w₁.withToken grant)
  refine ⟨more, ?_⟩
  rcases signIn_cases h with ⟨failure, hnone, -⟩ | ⟨grant', w₂, hsome, hrest⟩
  · cases (Prod.mk.inj (htoken.symm.trans hnone)).1
  · obtain ⟨hgrant, rfl⟩ := Prod.mk.inj (htoken.symm.trans hsome)
    obtain rfl := Except.ok.inj hgrant
    rcases hrest with ⟨failure, w₃, hidentity, -, rfl⟩ | ⟨profile, w₃, hidentity, -, rfl⟩
    · rw [hidentity] at hmore
      exact hmore
    · rw [hidentity] at hmore
      exact hmore

/-- Signing in sends nothing, or begins with asking for a token. -/
theorem Client.signIn_sent {credentials : Credentials} {w' : World}
    {result : Except Failure Profile} (h : (c.signIn credentials).run e w = (result, w')) :
    w'.traffic.requests = w.traffic.requests ∨ ∃ first later,
      c.Issues (.grantToken credentials) w.store.snapshot.credential? w.traffic.jar first ∧
      w'.traffic.requests = w.traffic.requests ++ first :: later := by
  rcases signIn_cases h with ⟨failure, htoken, -⟩ | ⟨grant, w₁, htoken, -⟩
  · rcases Client.perform_sent htoken with hsame | hsent
    · exact Or.inl (by rw [hsame])
    · exact Or.inr hsent
  · obtain ⟨first, later, hissues, hsent, -⟩ := Client.perform_ok grant_decodeNull htoken
    obtain ⟨more, hwhole⟩ := Client.signIn_extends h htoken
    refine Or.inr ⟨first, later ++ more, hissues, ?_⟩
    rw [hwhole, hsent, List.append_assoc, List.cons_append]

/-- Signing in begins with asking for the token, and goes on only when it has been
given. -/
theorem Client.signIn_asks (horigin : IsOrigin c.baseUrl base) (credentials : Credentials)
    (hshow : w.CanShow) :
    ∃ first, (Operation.grantToken credentials).IsAskedBy first ∧
      ((∃ later, ((c.signIn credentials).run e w).2.traffic.requests =
          w.traffic.requests ++ first :: later) ∨
        ((c.signIn credentials).run e w).2.traffic.requests = w.traffic.requests ∧
          c.Withholds e w first) := by
  have hid : (Operation.grantToken credentials).HasId := fun _ hid => nomatch hid
  obtain ⟨first, hasked, hsent⟩ := Client.perform_asks (e := e) horigin hid hshow
  refine ⟨first, hasked, ?_⟩
  rcases hrun : (c.signIn credentials).run e w with ⟨result, w'⟩
  rcases signIn_cases hrun with ⟨failure, htoken, -⟩ | ⟨grant, w₁, htoken, -⟩
  · rw [htoken] at hsent
    exact hsent.imp_right fun hkept => ⟨by rw [hkept.1], hkept.2⟩
  · -- the token has been given, so its request has arrived
    obtain ⟨post, afterPost, -, hposted, -⟩ := Client.perform_ok grant_decodeNull htoken
    rw [htoken] at hsent
    rcases hsent with ⟨later, hlater⟩ | ⟨hsame, -⟩
    · obtain ⟨more, hwhole⟩ := Client.signIn_extends hrun htoken
      refine Or.inl ⟨later ++ more, ?_⟩
      have hfirst : w₁.traffic.requests = w.traffic.requests ++ first :: later := hlater
      rw [hwhole, hfirst, List.append_assoc, List.cons_append]
    · have hnone : w₁ = w := hsame
      rw [hnone] at hposted
      simp at hposted

/-- Whatever a user asks for begins with its own request. -/
theorem Client.carryOut_asks (horigin : IsOrigin c.baseUrl base) (ho : o.HasId)
    (hshow : w.CanShow) :
    ∃ first, o.IsAskedBy first ∧
      (c.Sends o e w first ∨
        ((c.carryOut o).run e w).2.traffic.requests = w.traffic.requests ∧
          c.Withholds e w first) := by
  unfold Client.Sends Client.carryOut
  split
  · rename_i credentials
    rw [Flow.run_map]
    exact Client.signIn_asks horigin credentials hshow
  · obtain ⟨first, hasked, hsent⟩ := Client.perform_asks (e := e) horigin ho hshow
    have hrun : ((c.signOut).run e w).2.traffic =
        ((c.perform .revokeToken).run e w).2.traffic := by
      simp only [Client.signOut, bind, pure, Flow.run_bind, Flow.run_change, Flow.run_done]
    refine ⟨first, hasked, ?_⟩
    rw [hrun]
    exact hsent.imp_right fun hkept => ⟨by rw [hkept.1], hkept.2⟩
  · obtain ⟨first, hasked, hsent⟩ := Client.perform_asks (e := e) horigin ho hshow
    refine ⟨first, hasked, ?_⟩
    rw [Flow.run_map]
    exact hsent.imp_right fun hkept => ⟨by rw [hkept.1], hkept.2⟩

/-! ## 4. What is refused -/

/-- An operation with an id is carried out by itself. -/
theorem Client.carryOut_run {id : String} (hid : o.id? = some id) :
    (c.carryOut o).run e w =
      (((c.perform o).run e w).1.map (fun _ => ()), ((c.perform o).run e w).2) := by
  unfold Client.carryOut
  split
  · cases hid
  · cases hid
  · exact Flow.run_map e (c.perform o) _ w

/-- An operation whose id is one is never refused. -/
theorem Client.perform_ne_refused (ho : o.HasId) (hshow : w.CanShow) (refusal : Refusal) :
    ((c.perform o).run e w).1 ≠ .error (.refused refusal) := by
  intro hrefused
  obtain ⟨call, hok, hcall⟩ := Operation.exists_call ho
  obtain ⟨d, hd, -⟩ := exists_dispatch (c := c) hcall hshow
  rcases Client.perform_refused hrefused with hnone | ⟨call', hok', hnone⟩
  · rw [hok] at hnone
    cases hnone
  · obtain rfl := Except.ok.inj (hok.symm.trans hok')
    rw [hd] at hnone
    cases hnone

/-- An operation with an id is refused exactly if it is none, and then nothing
happens. -/
theorem Client.carryOut_refused_iff {id : String} (hid : o.id? = some id) (hshow : w.CanShow) :
    ((∃ refusal, ((c.carryOut o).run e w).1 = .error (.refused refusal)) ↔ ¬ IsId id) ∧
      (¬ IsId id → ((c.carryOut o).run e w).2 = w) := by
  rw [Client.carryOut_run hid]
  have hrun : ¬ IsId id → (c.perform o).run e w = (.error (.refused (.segment id)), w) := by
    intro hno
    simp only [Client.perform, Operation.call_of_not_isId hid hno, Flow.run_done]
  refine ⟨⟨?_, fun hno => ⟨.segment id, by rw [hrun hno]; rfl⟩⟩, fun hno => by rw [hrun hno]⟩
  rintro ⟨refusal, hrefused⟩ hyes
  have ho : o.HasId := fun id' hid' => by
    rw [hid] at hid'
    rwa [← Option.some.inj hid']
  cases hresult : ((c.perform o).run e w).1 with
  | ok a =>
    rw [hresult] at hrefused
    cases hrefused
  | error failure =>
    rw [hresult] at hrefused
    obtain rfl := Except.error.inj hrefused
    exact Client.perform_ne_refused ho hshow refusal hresult

/-! ## 5. Requests and calls -/

/-- What has arrived first is what the operation asks for. -/
theorem Client.Sends.isAskedBy {first : Request} (h : c.Sends o e w first)
    (horigin : IsOrigin c.baseUrl base) (hshow : w.CanShow) : o.HasId ∧ o.IsAskedBy first := by
  obtain ⟨later, hlater⟩ := h
  have ho : o.HasId := by
    intro id hid
    by_contra hno
    rw [(Client.carryOut_refused_iff hid hshow).2 hno] at hlater
    simp at hlater
  refine ⟨ho, ?_⟩
  obtain ⟨first', hasked, ⟨later', hlater'⟩ | ⟨hsame, -⟩⟩ :=
    Client.carryOut_asks (e := e) horigin ho hshow
  · rw [hlater] at hlater'
    obtain ⟨rfl, -⟩ := List.cons.inj (List.append_cancel_left hlater')
    exact hasked
  · rw [hlater] at hsame
    simp at hsame

end

/-- **Every call sends exactly its own request, and the request tells which call it
is.** At an origin, with no credential or one that fits into a header: what has an id is
refused exactly if that is none, and then nothing happens; otherwise the first request
that arrives, if it does not have to wait for a limit or for somebody to take it, is the
one the operation is documented to make. So different operations, and one operation with
different arguments, never send one method, path and body. -/
theorem calls_send_their_own_request {c : Client} {base : Url} (h : IsOrigin c.baseUrl base) :
    (∀ (o : Operation) (e : Surroundings) (w : World), w.CanShow →
      (∀ id, o.id? = some id →
        ((∃ refusal, ((c.carryOut o).run e w).1 = .error (.refused refusal)) ↔ ¬ IsId id) ∧
          (¬ IsId id → ((c.carryOut o).run e w).2 = w)) ∧
      (o.HasId → ∃ first, o.IsAskedBy first ∧
        (c.Sends o e w first ∨
          ((c.carryOut o).run e w).2.traffic.requests = w.traffic.requests ∧
            c.Withholds e w first))) ∧
    ∀ (o o' : Operation) (e e' : Surroundings) (w w' : World) (first first' : Request),
      w.CanShow → w'.CanShow → c.Sends o e w first → c.Sends o' e' w' first' →
        first.method = first'.method → first.url.target = first'.url.target →
          first.body = first'.body → o = o' := by
  refine ⟨fun o e w hshow => ⟨fun id hid => Client.carryOut_refused_iff hid hshow, fun ho =>
    Client.carryOut_asks h ho hshow⟩, ?_⟩
  intro o o' e e' w w' first first' hshow hshow' hsends hsends' hmethod htarget hbody
  obtain ⟨ho, hasked⟩ := hsends.isAskedBy h hshow
  obtain ⟨ho', hasked'⟩ := hsends'.isAskedBy h hshow'
  have hline : o.line = o'.line := by
    rw [← hasked.line, ← hasked'.line, hmethod, htarget]
  have hcarried := hasked'.body
  rw [← hbody] at hcarried
  exact Operation.eq_of_line ho ho' hline hasked.body hcarried

/-- A service at a port of its own, with more slashes behind it than it needs. -/
def portClient : Client := ⟨"https://service.example:8443//", .ofSeconds 30⟩

theorem isOrigin_portClient : ∃ base, IsOrigin portClient.baseUrl base :=
  exists_isOrigin "https".toList "service.example:8443".toList 2 (by decide +kernel) rfl
    (List.all_iff_forall_prop.mp (by decide)) (by decide)
    (List.all_iff_forall_prop.mp (by decide))

/-- The request that cancels one session is not the one that cancels another, and no
session has dots for an id. -/
theorem request_cancels_one_session :
    ∃ first, (Operation.cancelSession "a.b").IsAskedBy first ∧
      portClient.Sends (.cancelSession "a.b") (.answering []) .fresh first ∧
      ¬ portClient.Sends (.cancelSession "a-b") (.answering []) .fresh first ∧
      ((portClient.carryOut (.cancelSession "..")).run (.answering []) .fresh).2 = .fresh := by
  obtain ⟨base, horigin⟩ := isOrigin_portClient
  obtain ⟨hcalls, hdistinct⟩ := calls_send_their_own_request horigin
  have hshow : World.fresh.CanShow := fun _ hcredential => nomatch hcredential
  have hid : (Operation.cancelSession "a.b").HasId := by
    intro id hid
    rw [← Option.some.inj hid]
    decide
  have hdots : ¬ IsId ".." := fun h => h.2.2.1 rfl
  have harrived : ((portClient.carryOut (.cancelSession "a.b")).run (.answering [])
      .fresh).2.traffic.requests.length = 1 := by decide +kernel
  obtain ⟨first, hasked, hsends | ⟨hnone, -⟩⟩ := (hcalls _ (.answering []) .fresh hshow).2 hid
  · refine ⟨first, hasked, hsends, fun hother => ?_,
      ((hcalls _ (.answering []) .fresh hshow).1 ".." rfl).2 hdots⟩
    have hsame := hdistinct _ _ _ _ _ _ _ _ hshow hshow hsends hother rfl rfl rfl
    exact absurd hsame (by decide)
  · rw [hnone] at harrived
    cases harrived

end CoachClient.Service
