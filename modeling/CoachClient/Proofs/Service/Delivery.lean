/-
CoachClient.Proofs.Service.Delivery — a client that has got one request through.

* `isNameable_of_le` — of two URLs at one authority, a request can name the shorter one if
  it can name the longer one.
* `IsOrigin.canSend_of_le` — so it is with two endpoints of one service.
* `Client.Delivers` — the client has time for a request, and a request can name the place
  where users sign in; `signIn_delivers` — whoever is signed in by the client has seen that.
* `Client.Delivered` — a request has been taken, with only redirects behind it, or nobody
  was there to take it.
* `Client.perform_delivers` — so it is with every operation whose endpoint is no longer than
  that place.
-/
import CoachClient.Proofs.Service.Once
import CoachClient.Proofs.Service.Yield

/-! ## 1. Shorter names -/

namespace CoachClient.Url

open CoachClient.Text

/-- The text of a URL with an authority: what stands in front of its target, the target, and
the fragment. -/
theorem length_text {u : Url} {authority : List Char} (h : u.authority? = some authority) :
    u.text.length = u.scheme.length + authority.length + 3 + u.target.length +
      (marked '#' u.fragment).length := by
  simp only [Url.text, Url.target, Url.beforePath, h, String.length_ofList, List.length_append,
    List.length_cons]
  omega

/-- A request that can name a URL can name a shorter one at the same authority. -/
theorem isNameable_of_le {u v : Url} {authority : List Char} (hscheme : u.scheme = v.scheme)
    (hu : u.authority? = some authority) (hv : v.authority? = some authority)
    (hfragment : u.fragment = none) (hle : u.target.length ≤ v.target.length)
    (h : v.isNameable = true) : u.isNameable = true := by
  unfold isNameable at h ⊢
  rw [hv, length_text hv] at h
  rw [hu, length_text hu, hscheme, hfragment]
  simp only [Bool.and_eq_true, decide_eq_true_eq] at h ⊢
  obtain ⟨hlength, husable⟩ := h
  refine ⟨?_, husable⟩
  simp only [marked, List.length_nil]
  omega

/-- User information stands in front of where a URL goes on. -/
theorem takeUserinfo_goesOn (u : Url) (cs : List Char) :
    (u.goesOn cs).takeUserinfo.1 = u.takeUserinfo.1.goesOn cs := by
  have hname : (u.goesOn cs).username = u.username := rfl
  have hpassword : (u.goesOn cs).password = u.password := rfl
  unfold takeUserinfo
  rw [hname, hpassword]
  split
  · rfl
  · dsimp only
    split <;> rfl

/-- A URL of the web has an authority, without its user information too. -/
theorem exists_authority_of_web {text : String} {u : Url} (hparse : Url.parse text = .ok u)
    (hweb : u.isWeb = true) : ∃ authority, u.takeUserinfo.1.authority? = some authority := by
  rw [parse_eq_read] at hparse
  obtain ⟨scheme, rest, a, -, -, -, rfl⟩ := read_web hparse hweb
  unfold takeUserinfo
  split
  · exact ⟨_, rfl⟩
  · dsimp only
    split <;> exact ⟨_, rfl⟩

end CoachClient.Url

namespace CoachClient.Service

open CoachClient.Coaching CoachClient.Http CoachClient.Url

section
variable {c : Client} {base : Url} {o : Operation} {e : Surroundings} {w w' : World}

/-- If a call to an endpoint of a service can be sent, so can one to a shorter endpoint. -/
theorem IsOrigin.canSend_of_le (horigin : IsOrigin c.baseUrl base) {call longer : Call}
    {path path' : List Char} {query query' : Option (List Char)}
    (hplain : IsPlainEndpoint call.endpoint path query)
    (hlonger : IsPlainEndpoint longer.endpoint path' query')
    (hle : call.endpoint.length ≤ longer.endpoint.length) (h : c.CanSend longer) :
    c.CanSend call := by
  obtain ⟨rest, hparse, htarget, hfragment⟩ := horigin.exists_url hplain
  obtain ⟨rest', hparse', htarget', -⟩ := horigin.exists_url hlonger
  obtain ⟨url', hsame, -, hname⟩ := h
  obtain rfl := Except.ok.inj (hparse'.symm.trans hsame)
  obtain ⟨authority, hauthority⟩ := exists_authority_of_web horigin.parse horigin.isWeb
  refine ⟨_, hparse, horigin.isWeb, ?_⟩
  rw [takeUserinfo_goesOn] at hname ⊢
  have hshorter : (base.takeUserinfo.1.goesOn rest).target.length ≤
      (base.takeUserinfo.1.goesOn rest').target.length := by
    rw [← htarget, ← htarget'] at hle
    exact hle
  have hscheme : (base.takeUserinfo.1.goesOn rest).scheme =
      (base.takeUserinfo.1.goesOn rest').scheme := rfl
  exact isNameable_of_le hscheme hauthority hauthority hfragment hshorter hname

/-! ## 2. What has been got through -/

/-- The client has time for a request, and a request can name the place where users sign
in. -/
structure Client.Delivers (c : Client) : Prop where
  time : c.timeout.isZero = false
  name : c.CanSend (.post "/auth/login")

/-- A token comes from the service, so a request has got there. -/
theorem delivers_of_granted {credentials : Credentials} {grant : Grant}
    (h : (c.perform (.grantToken credentials)).run e w = (.ok grant, w')) : c.Delivers := by
  obtain ⟨call, d, status, body, hcall, hd, hanswered, -⟩ :=
    (Client.perform_ok_iff grant_decodeNull).mp (congrArg Prod.fst h)
  obtain rfl := Except.ok.inj hcall
  obtain ⟨htime, hmade⟩ := perform_answered_made hanswered
  rw [(dispatch_limits hd).2] at htime
  exact ⟨htime, (request_ok_iff hd).mp hmade⟩

/-- Where nobody else changes the session, signing in leaves it as it was, or the client has
got a request through. -/
theorem signIn_delivers {credentials : Credentials} {result : Except Failure Profile}
    (hquiet : e.Quiet) (h : (c.signIn credentials).run e w = (result, w')) :
    w'.store.snapshot = w.store.snapshot ∨ c.Delivers := by
  rcases signIn_cases h with ⟨failure, htoken, -⟩ | ⟨grant, w₁, htoken, -⟩
  · exact Or.inl (by rw [Client.perform_store hquiet htoken])
  · exact Or.inr (delivers_of_granted htoken)

/-! ## 3. What is got through -/

/-- What comes of the request of an operation: it has been taken, with only redirects behind
it, or nobody was there to take it and nothing has happened. -/
structure Client.Delivered (c : Client) (o : Operation) (e : Surroundings) (w : World)
    (first : Request) : Prop where
  taken : e.service w.traffic.requests first ≠ .unreachable →
    ∃ later, ((c.perform o).run e w).2.traffic.requests = w.traffic.requests ++ first :: later ∧
      LedOn e.service w.traffic.requests first later
  untaken : e.service w.traffic.requests first = .unreachable →
    (c.perform o).run e w = (.error (.transport (.noAnswer first.url)), w)

/-- A client that has got a request through gets every one through whose endpoint is no
longer. -/
theorem Client.perform_delivers (horigin : IsOrigin c.baseUrl base) (hdelivers : c.Delivers)
    (hshow : w.CanShow) (ho : o.HasId) (hle : o.line.2.length ≤ "/auth/login".length) :
    ∃ first, o.IsAskedBy first ∧ LeadsTo base first.url ∧ c.Delivered o e w first := by
  obtain ⟨call, hok, hcall⟩ := Operation.exists_call ho
  obtain ⟨path, query, hplain⟩ := Operation.call_endpoint hok
  have hendpoint : call.endpoint = o.line.2 := congrArg Prod.snd hcall.line
  rw [← hendpoint] at hle
  have hcan : c.CanSend call :=
    horigin.canSend_of_le hplain (isPlainEndpoint_of_path rfl (by decide)) hle hdelivers.name
  obtain ⟨d, hd, hmethod, hurl, hbody, hdeadline, hcancellation⟩ := exists_dispatch hcall hshow
  obtain ⟨r, hr⟩ := (request_ok_iff hd).mpr hcan
  obtain ⟨r', hmakes, hasked⟩ :=
    horigin.exists_asking hok hcall hmethod hurl hbody w.traffic.jar
  obtain rfl := hmakes.only r hr
  have htime : d.deadline.isZero = false := by
    rw [hdeadline]
    exact hdelivers.time
  have hrun : (c.perform o).run e w =
      (settle o.decoder call.endpoint d.deadline (w.perform e d).1, (w.perform e d).2) := by
    simp only [Client.perform, hok, Client.send, Client.start, Flow.run, hd]
  have hwhere : (r.withCookies w.traffic.jar).url = r.url :=
    (withCookies_method_url r w.traffic.jar).2
  refine ⟨r.withCookies w.traffic.jar, hasked, ?_, fun htaken => ?_, fun huntaken => ?_⟩
  · obtain ⟨-, url, hparse, hru⟩ := request_ok hr
    rw [hurl] at hparse
    obtain ⟨rest, rfl⟩ := parse_address horigin.parse horigin.isWeb hparse
    rw [hwhere, hru]
    exact (leadsTo_goesOn base rest).takeUserinfo
  · rw [hrun]
    obtain ⟨later, hlater, hfollowed⟩ :=
      perform_arrived_followedBy e.now hr hcancellation htime htaken
    exact ⟨later, hlater, hfollowed.ledOn⟩
  · have hperform := perform_unreachable e.now hr hcancellation htime huntaken
    have houtcome : (w.perform e d).1 = .failed (.noAnswer r.url) := congrArg Prod.fst hperform
    have hworld : (w.perform e d).2 = w := World.perform_eq_self (congrArg Prod.snd hperform)
    rw [hrun, houtcome, hworld, hwhere]
    rfl

end

end CoachClient.Service
