/-
CoachClient.Proofs.Http.Secrets — two exchanges that differ in a secret.

* `Secret` — the secret in which two runs differ: a credential, or a password.
* `Headers.Alike`, `Request.Alike` — the same but for that secret. A credential is the value
  of one header; a password is in the body of a request that is posted.
* `Service.playing` — a service with a fixed script: what it says depends on how many
  requests have come before, and on the URL.
* `Recorded` — two lists of requests that have arrived. Where their bodies differ, the
  request was entrusted with the password, or it repeats one before it because the service
  redirected that with 307 or 308.
* `step_alike`, `exchange_alike`, `perform_alike` — what is alike stays so, and comes to the
  same outcome.

A request whose answer is not waited for is cut off after it has arrived. That is why the
lists are related from the front: `Recorded.take`.
-/
import CoachClient.Proofs.Http.Exchange
import Mathlib.Data.List.Forall2
import Mathlib.Data.List.Induction

namespace CoachClient.Http

open CoachClient.Url

/-! ## 1. Headers -/

/-- The secret in which two runs differ. -/
inductive Secret where
  | credential
  | password

section
variable {secret : Secret}

/-- The same header, but for the value of the one that carries a secret credential. -/
def SameHeader (secret : Secret) (h h' : String × String) : Prop :=
  h.1 = h'.1 ∧ (h.2 = h'.2 ∨ secret = .credential ∧ h.1 = authorization)

/-- The same headers in the same order. -/
def Headers.Alike (secret : Secret) (hs hs' : Headers) : Prop :=
  List.Forall₂ (SameHeader secret) hs hs'

namespace Headers.Alike

variable {hs hs' : Headers}

theorem refl (hs : Headers) : Headers.Alike secret hs hs :=
  List.forall₂_same.mpr fun _ _ => ⟨rfl, Or.inl rfl⟩

/-- The same names are there. -/
theorem get?_isSome (h : Headers.Alike secret hs hs') (name : String) :
    (Headers.get? name hs).isSome = (Headers.get? name hs').isSome := by
  induction h with
  | nil => rfl
  | @cons p p' _ _ hhead _ ih =>
    obtain ⟨n, v⟩ := p
    obtain ⟨n', v'⟩ := p'
    obtain ⟨rfl, -⟩ : n = n' ∧ _ := hhead
    by_cases hn : n = name
    · simp [Headers.get?, hn]
    · simp [Headers.get?, hn, ih]

theorem set (h : Headers.Alike secret hs hs') {name value value' : String}
    (hvalue : value = value' ∨ secret = .credential ∧ name = authorization) :
    Headers.Alike secret (Headers.set name value hs) (Headers.set name value' hs') := by
  induction h with
  | nil => exact .cons ⟨rfl, hvalue⟩ .nil
  | @cons p p' _ _ hhead hrest ih =>
    obtain ⟨n, v⟩ := p
    obtain ⟨n', v'⟩ := p'
    obtain ⟨rfl, hsame⟩ : n = n' ∧ _ := hhead
    by_cases hn : n = name
    · simp only [Headers.set, hn, if_true]
      exact .cons ⟨rfl, hvalue⟩ hrest
    · simp only [Headers.set, hn, if_false]
      exact .cons ⟨rfl, hsame⟩ ih

theorem setDefault (h : Headers.Alike secret hs hs') (name value : String) :
    Headers.Alike secret (Headers.setDefault name value hs)
      (Headers.setDefault name value hs') := by
  unfold Headers.setDefault
  rw [h.get?_isSome name]
  split
  · exact h
  · exact h.set (Or.inl rfl)

theorem setAll {new new' : Headers} (hnew : Headers.Alike secret new new')
    (h : Headers.Alike secret hs hs') :
    Headers.Alike secret (Headers.setAll new hs) (Headers.setAll new' hs') := by
  unfold Headers.setAll
  induction hnew generalizing hs hs' with
  | nil => exact h
  | @cons p p' _ _ hhead _ ih =>
    obtain ⟨n, v⟩ := p
    obtain ⟨n', v'⟩ := p'
    obtain ⟨rfl, hsame⟩ : n = n' ∧ _ := hhead
    rw [List.foldl_cons, List.foldl_cons]
    exact ih (h.set hsame)

theorem remove (h : Headers.Alike secret hs hs') (name : String) :
    Headers.Alike secret (Headers.remove name hs) (Headers.remove name hs') := by
  unfold Headers.remove
  induction h with
  | nil => exact .nil
  | @cons p p' _ _ hhead _ ih =>
    obtain ⟨n, v⟩ := p
    obtain ⟨n', v'⟩ := p'
    obtain ⟨rfl, hsame⟩ : n = n' ∧ _ := hhead
    by_cases hn : n = name
    · simpa [hn] using ih
    · simp only [bne_iff_ne, ne_eq, hn, not_false_eq_true, List.filter_cons_of_pos]
      exact .cons ⟨rfl, hsame⟩ ih

theorem removeAll (h : Headers.Alike secret hs hs') (names : List String) :
    Headers.Alike secret (Headers.removeAll names hs) (Headers.removeAll names hs') := by
  unfold Headers.removeAll
  induction names generalizing hs hs' with
  | nil => exact h
  | cons name names ih => exact ih (h.remove name)

end Headers.Alike

/-! ## 2. Requests -/

/-- The same request, but for a secret. A password is in the body of a request that is
posted. -/
structure Request.Alike (secret : Secret) (r r' : Request) : Prop where
  method : r.method = r'.method
  url : r.url = r'.url
  headers : Headers.Alike secret r.headers r'.headers
  body : r.body = r'.body ∨ secret = .password ∧ r.method = "POST"

/-- The response has sent the request to another URL as it was. -/
structure Repeats (response : Response) (r next : Request) : Prop where
  code : response.status.code = 307 ∨ response.status.code = 308
  target : ∃ target, response.first? location = some target ∧ r.url.refer target = some next.url
  method : next.method = r.method
  body : next.body = r.body

/-- What a response with a target leads to. -/
theorem followUp_of_target {r next : Request} {response : Response} {target : String} {url : Url}
    (hnext : r.redirected response.status = some next)
    (htarget : response.first? location = some target) (hurl : r.url.refer target = some url) :
    followUp r response = some { next with
      url
      headers :=
        if sameHost r.url url then next.headers else next.headers.removeAll hostHeaders } := by
  simp only [followUp, hnext, htarget, hurl, Option.bind_eq_bind, Option.bind_some]

theorem Repeats.withCookies {response : Response} {r next : Request}
    (h : Repeats response r next) (jar jar' : Jar) :
    Repeats response (r.withCookies jar) (next.withCookies jar') := by
  obtain ⟨hm, hu⟩ := withCookies_method_url r jar
  obtain ⟨hm', hu'⟩ := withCookies_method_url next jar'
  refine ⟨h.code, ?_, by rw [hm, hm', h.method], ?_⟩
  · rw [hu, hu']
    exact h.target
  · rw [withCookies_body, withCookies_body, h.body]

namespace Request.Alike

variable {r r' : Request}

theorem refl (r : Request) : r.Alike secret r := ⟨rfl, rfl, .refl _, Or.inl rfl⟩

theorem withCookies (h : r.Alike secret r') (jar : Jar) :
    (r.withCookies jar).Alike secret (r'.withCookies jar) := by
  unfold Request.withCookies
  rw [h.url]
  cases jar.line r'.url with
  | none => exact h
  | some line => exact ⟨h.method, rfl, h.headers.setDefault cookie line, h.body⟩

/-- Without their bodies, and got instead of posted, they differ in no password. -/
theorem withoutBody (h : r.Alike secret r') (method : String) :
    Request.Alike secret { r.withoutBody with method } { r'.withoutBody with method } :=
  ⟨rfl, h.url, h.headers.removeAll bodyHeaders, Or.inl rfl⟩

/-- What has moved is got if it was posted. Otherwise it is asked for as before, but then
its body is no secret. -/
theorem moved (h : r.Alike secret r') :
    let next (r : Request) : Request :=
      if r.method == "POST" then { r.withoutBody with method := "GET" } else r
    (next r).Alike secret (next r') ∧ (next r).body = (next r').body := by
  intro next
  simp only [next, ← h.method, beq_iff_eq]
  by_cases hpost : r.method = "POST"
  · simp only [hpost, if_true]
    exact ⟨h.withoutBody "GET", rfl⟩
  · simp only [hpost, if_false]
    exact ⟨h, h.body.resolve_right fun hsecret => hpost hsecret.2⟩

/-- What is to be seen elsewhere is asked for without a body. -/
theorem seenElsewhere (h : r.Alike secret r') :
    let next (r : Request) : Request :=
      if r.method == "HEAD" then r.withoutBody else { r.withoutBody with method := "GET" }
    (next r).Alike secret (next r') ∧ (next r).body = (next r').body := by
  intro next
  simp only [next, ← h.method, beq_iff_eq]
  by_cases hhead : r.method = "HEAD"
  · simp only [hhead, if_true]
    exact ⟨⟨h.method, h.url, h.headers.removeAll bodyHeaders, Or.inl rfl⟩, rfl⟩
  · simp only [hhead, if_false]
    exact ⟨h.withoutBody "GET", rfl⟩

/-- A redirect wants both repeated or neither. It keeps a body that is secret only if it
keeps the whole request. -/
theorem redirected (h : r.Alike secret r') (status : Status) :
    (r.redirected status = none ∧ r'.redirected status = none) ∨
      ∃ next next', r.redirected status = some next ∧ r'.redirected status = some next' ∧
        next.Alike secret next' ∧
        (next.body = next'.body ∨
          (status.code = 307 ∨ status.code = 308) ∧ next = r ∧ next' = r') := by
  obtain ⟨hmoved, hmovedBody⟩ := h.moved
  obtain ⟨hseen, hseenBody⟩ := h.seenElsewhere
  unfold Request.redirected
  split
  case h_1 | h_2 => exact Or.inr ⟨_, _, rfl, rfl, hmoved, Or.inl hmovedBody⟩
  case h_3 => exact Or.inr ⟨_, _, rfl, rfl, hseen, Or.inl hseenBody⟩
  case h_4 hcode => exact Or.inr ⟨r, r', rfl, rfl, h, Or.inr ⟨Or.inl hcode, rfl, rfl⟩⟩
  case h_5 hcode => exact Or.inr ⟨r, r', rfl, rfl, h, Or.inr ⟨Or.inr hcode, rfl, rfl⟩⟩
  case h_6 => exact Or.inl ⟨rfl, rfl⟩

/-- A response leads both to requests that are alike, or neither. -/
theorem followUp (h : r.Alike secret r') (response : Response) :
    (Http.followUp r response = none ∧ Http.followUp r' response = none) ∨
      ∃ next next', Http.followUp r response = some next ∧
        Http.followUp r' response = some next' ∧ next.Alike secret next' ∧
        (next.body = next'.body ∨ Repeats response r next ∧ Repeats response r' next') := by
  rcases h.redirected response.status with
    ⟨hnone, hnone'⟩ | ⟨next, next', hsome, hsome', hnext, hbody⟩
  · exact Or.inl ⟨by simp [Http.followUp, hnone], by simp [Http.followUp, hnone']⟩
  cases htarget : response.first? location with
  | none => exact Or.inl ⟨by simp [Http.followUp, htarget], by simp [Http.followUp, htarget]⟩
  | some target =>
    cases hrefer : r.url.refer target with
    | none =>
      have hrefer' : r'.url.refer target = none := h.url ▸ hrefer
      exact Or.inl ⟨by simp [Http.followUp, htarget, hrefer],
        by simp [Http.followUp, htarget, hrefer']⟩
    | some url =>
      have hrefer' : r'.url.refer target = some url := h.url ▸ hrefer
      refine Or.inr ⟨_, _, followUp_of_target hsome htarget hrefer,
        followUp_of_target hsome' htarget hrefer', ⟨hnext.method, rfl, ?_, hnext.body⟩,
        hbody.imp id ?_⟩
      · rw [← h.url]
        cases sameHost r.url url with
        | true => exact hnext.headers
        | false => exact hnext.headers.removeAll hostHeaders
      · rintro ⟨hcode, rfl, rfl⟩
        exact ⟨⟨hcode, ⟨target, htarget, hrefer⟩, rfl, rfl⟩,
          ⟨hcode, ⟨target, htarget, hrefer'⟩, rfl, rfl⟩⟩

end Request.Alike

end

/-! ## 3. What has arrived -/

/-- What a service says, by the number of requests that have arrived before and by the
URL. -/
abbrev Script := Nat → Url → Answer

/-- A service that follows a script. -/
def Service.playing (script : Script) : Service := fun earlier r => script earlier.length r.url

/-- The requests that have arrived in two runs that differ in a secret. The password is in
those that were entrusted with it, and in those that repeat one before them. -/
inductive Recorded (secret : Secret) (script : Script) (entrusted : Request → Prop) :
    List Request → List Request → Prop
  | nothing : Recorded secret script entrusted [] []
  | plain {rs rs' : List Request} {r r' : Request}
      (earlier : Recorded secret script entrusted rs rs') (alike : r.Alike secret r') (body : r.body = r'.body) :
      Recorded secret script entrusted (rs ++ [r]) (rs' ++ [r'])
  | entrusted {rs rs' : List Request} {r r' : Request}
      (earlier : Recorded secret script entrusted rs rs') (alike : r.Alike secret r')
      (h : entrusted r) : Recorded secret script entrusted (rs ++ [r]) (rs' ++ [r'])
  | repeated {rs rs' : List Request} {r r' next next' : Request} {response : Response}
      (earlier : Recorded secret script entrusted (rs ++ [r]) (rs' ++ [r']))
      (alike : next.Alike secret next')
      (answer : script rs.length r.url = .full response ∨ script rs.length r.url = .broken response)
      (again : Repeats response r next) (again' : Repeats response r' next') :
      Recorded secret script entrusted (rs ++ [r] ++ [next]) (rs' ++ [r'] ++ [next'])

section
variable {secret : Secret} {script : Script} {entrusted : Request → Prop}

namespace Recorded

theorem refl (rs : List Request) : Recorded secret script entrusted rs rs := by
  induction rs using List.reverseRecOn with
  | nil => exact .nothing
  | append_singleton rs r ih => exact .plain ih (.refl r) rfl

theorem length_eq {rs rs' : List Request} (h : Recorded secret script entrusted rs rs') :
    rs.length = rs'.length := by
  induction h with
  | nothing => rfl
  | plain _ _ _ ih => simp [ih]
  | entrusted _ _ _ ih => simp [ih]
  | repeated _ _ _ _ _ ih => simpa using ih

/-- Every request is alike in both runs. -/
theorem forall₂ {rs rs' : List Request} (h : Recorded secret script entrusted rs rs') :
    List.Forall₂ (Request.Alike secret) rs rs' := by
  induction h with
  | nothing => exact .nil
  | plain _ alike _ ih => exact List.rel_append ih (.cons alike .nil)
  | entrusted _ alike _ ih => exact List.rel_append ih (.cons alike .nil)
  | repeated _ alike _ _ _ ih => exact List.rel_append ih (.cons alike .nil)

/-- What has arrived up to some moment. -/
theorem take {rs rs' : List Request} (h : Recorded secret script entrusted rs rs') (n : Nat) :
    Recorded secret script entrusted (rs.take n) (rs'.take n) := by
  have hlast : ∀ {as as' : List Request} {r r' : Request}, as.length = as'.length →
      Recorded secret script entrusted (as.take n) (as'.take n) →
      Recorded secret script entrusted (as ++ [r]) (as' ++ [r']) →
      Recorded secret script entrusted ((as ++ [r]).take n) ((as' ++ [r']).take n) := by
    intro as as' r r' hlength hbefore hall
    by_cases hn : n ≤ as.length
    · rwa [List.take_append_of_le_length hn, List.take_append_of_le_length (hlength ▸ hn)]
    · have hcovers : (as ++ [r]).length ≤ n := by simp; omega
      have hcovers' : (as' ++ [r']).length ≤ n := by simp; omega
      rwa [List.take_of_length_le hcovers, List.take_of_length_le hcovers']
  induction h with
  | nothing => simpa using .nothing
  | plain earlier alike body ih => exact hlast earlier.length_eq ih (.plain earlier alike body)
  | entrusted earlier alike h ih => exact hlast earlier.length_eq ih (.entrusted earlier alike h)
  | repeated earlier alike answer again again' ih =>
    exact hlast earlier.length_eq ih (.repeated earlier alike answer again again')

end Recorded

/-- The same cookies, and requests that differ in nothing but a secret. -/
structure Traffic.Alike (secret : Secret) (script : Script) (entrusted : Request → Prop)
    (t t' : Traffic) : Prop where
  jar : t.jar = t'.jar
  requests : Recorded secret script entrusted t.requests t'.requests

/-! ## 4. Exchanges -/

/-- Two requests that can be sent: they are alike, and so is what has arrived then. -/
structure Sendable (secret : Secret) (script : Script) (entrusted : Request → Prop)
    (r r' : Request) (t t' : Traffic) : Prop where
  traffic : t.Alike secret script entrusted t'
  alike : r.Alike secret r'
  sent : Recorded secret script entrusted (t.requests ++ [r.withCookies t.jar])
    (t'.requests ++ [r'.withCookies t'.jar])

variable {r r' : Request} {t t' : Traffic}

/-- Two steps that come to the same: to an end, or to requests that can be sent. -/
inductive SameStep (secret : Secret) (script : Script) (entrusted : Request → Prop) :
    Step × Traffic → Step × Traffic → Prop
  | final (ending : Ending) {t t' : Traffic} (h : t.Alike secret script entrusted t') :
      SameStep secret script entrusted (.over ending, t) (.over ending, t')
  | onward {next next' : Request} {t t' : Traffic}
      (h : Sendable secret script entrusted next next' t t') :
      SameStep secret script entrusted (.onward next, t) (.onward next', t')

/-- A response comes to the same for requests that are alike. -/
theorem Sendable.proceed (h : Sendable secret script entrusted r r' t t') {response : Response}
    (whole : Bool) (hanswer : script t.requests.length r.url = .full response ∨
      script t.requests.length r.url = .broken response) (jar : Jar) :
    SameStep secret script entrusted
      (r.proceed response whole, ⟨jar, t.requests ++ [r.withCookies t.jar]⟩)
      (r'.proceed response whole, ⟨jar, t'.requests ++ [r'.withCookies t'.jar]⟩) := by
  have harrived : Traffic.Alike secret script entrusted
      ⟨jar, t.requests ++ [r.withCookies t.jar]⟩ ⟨jar, t'.requests ++ [r'.withCookies t'.jar]⟩ :=
    ⟨rfl, h.sent⟩
  unfold Request.proceed
  rcases h.alike.followUp response with
    ⟨hnone, hnone'⟩ | ⟨next, next', hsome, hsome', hnext, hbody⟩
  · rw [hnone, hnone']
    have hending : ending r response whole = ending r' response whole := by
      simp only [ending, h.alike.method]
    rw [hending]
    exact .final _ harrived
  · rw [hsome, hsome']
    refine .onward ⟨harrived, hnext, ?_⟩
    have halike := hnext.withCookies jar
    rcases hbody with hsame | ⟨hrepeats, hrepeats'⟩
    · refine .plain h.sent halike ?_
      rw [withCookies_body, withCookies_body, hsame]
    · refine .repeated h.sent halike ?_ (hrepeats.withCookies t.jar jar)
        (hrepeats'.withCookies t'.jar jar)
      rwa [(withCookies_method_url r t.jar).2]

/-- Requests that are alike take the same step. -/
theorem step_alike (now : Int) (first : Url) (h : Sendable secret script entrusted r r' t t') :
    SameStep secret script entrusted (step (.playing script) now first r t)
      (step (.playing script) now first r' t') := by
  have hanswer : Service.playing script t'.requests (r'.withCookies t'.jar) =
      script t.requests.length r.url := by
    unfold Service.playing
    rw [(withCookies_method_url r' t'.jar).2, ← h.alike.url, ← h.traffic.requests.length_eq]
  have hanswer' : Service.playing script t.requests (r.withCookies t.jar) =
      script t.requests.length r.url := by
    unfold Service.playing
    rw [(withCookies_method_url r t.jar).2]
  have hstored : ∀ response : Response,
      t'.jar.store now r'.url (response.all setCookie) =
        t.jar.store now r.url (response.all setCookie) := fun response => by
    rw [h.traffic.jar, h.alike.url]
  cases hs : script t.requests.length r.url with
  | unreachable =>
    simp only [step, hanswer, hanswer', hs]
    exact .final _ h.traffic
  | closed =>
    simp only [step, hanswer, hanswer', hs]
    exact .final _ ⟨h.traffic.jar, h.sent⟩
  | silence =>
    simp only [step, hanswer, hanswer', hs]
    exact .final _ ⟨h.traffic.jar, h.sent⟩
  | full response =>
    simp only [step, hanswer, hanswer', hs, hstored]
    exact h.proceed true (Or.inl hs) _
  | broken response =>
    simp only [step, hanswer, hanswer', hs, hstored]
    exact h.proceed false (Or.inr hs) _

/-- Exchanges of requests that are alike end in the same way. -/
theorem exchange_alike (now : Int) (first : Url) (hops : Nat)
    (h : Sendable secret script entrusted r r' t t') :
    let x := exchange (.playing script) now first hops r t
    let x' := exchange (.playing script) now first hops r' t'
    x.1 = x'.1 ∧ x.2.Alike secret script entrusted x'.2 := by
  induction hops generalizing r r' t t' with
  | zero =>
    have hstep := step_alike now first h
    rcases hs : step (.playing script) now first r t with ⟨s, t₁⟩
    rcases hs' : step (.playing script) now first r' t' with ⟨s', t₁'⟩
    rw [hs, hs'] at hstep
    simp only [exchange, hs, hs']
    cases hstep with
    | final ending ht => exact ⟨rfl, ht⟩
    | onward hnext => exact ⟨by rw [h.alike.url], hnext.traffic⟩
  | succ hops ih =>
    have hstep := step_alike now first h
    rcases hs : step (.playing script) now first r t with ⟨s, t₁⟩
    rcases hs' : step (.playing script) now first r' t' with ⟨s', t₁'⟩
    rw [hs, hs'] at hstep
    simp only [exchange, hs, hs']
    cases hstep with
    | final ending ht => exact ⟨rfl, ht⟩
    | @onward next next' _ _ hnext =>
      simp only [← hnext.alike.url]
      cases next.url.isWeb with
      | false => exact ⟨rfl, hnext.traffic⟩
      | true => exact ih hnext

/-! ## 5. Dispatches -/

/-- The same dispatch, but for a secret. Where the bodies differ, its request is entrusted
with the password. -/
structure Dispatch.Alike (secret : Secret) (entrusted : Request → Prop) (d d' : Dispatch) :
    Prop where
  method : d.method = d'.method
  url : d.url = d'.url
  headers : Headers.Alike secret d.headers d'.headers
  body : d.body = d'.body ∨ secret = .password ∧ d.method = "POST" ∧
    ∀ r jar, d.request = .ok r → entrusted (r.withCookies jar)
  deadline : d.deadline = d'.deadline
  cancellation : d.cancellation = d'.cancellation

variable {d d' : Dispatch}

/-- Both come to a request, or neither, for the same reason. -/
theorem Dispatch.Alike.request (h : d.Alike secret entrusted d') :
    (∃ fault, d.request = .error fault ∧ d'.request = .error fault) ∨
      ∃ r r', d.request = .ok r ∧ d'.request = .ok r' ∧ r.Alike secret r' ∧
        r.body = d.body ∧ r'.body = d'.body := by
  unfold Dispatch.request
  rw [← h.url]
  cases hparse : Url.parse d.url with
  | error fault => exact Or.inl ⟨.unusableUrl, rfl, rfl⟩
  | ok url =>
    simp only [Except.mapError, bind, Except.bind]
    split
    · exact Or.inl ⟨_, rfl, rfl⟩
    · have hheaders : ∀ fromUrl : Headers,
          let filled (hs : Headers) : Headers :=
            ((Headers.setAll hs fromUrl).setDefault accept "*/*").setDefault userAgent agent
          Headers.Alike secret (filled d.headers) (filled d'.headers) :=
        fun fromUrl => ((h.headers.setAll (.refl fromUrl)).setDefault _ _).setDefault _ _
      have hbody : d.body = d'.body ∨ secret = .password ∧ d.method = "POST" :=
        h.body.imp id fun hsecret => ⟨hsecret.1, hsecret.2.1⟩
      exact Or.inr ⟨_, _, rfl, rfl, ⟨h.method, rfl, hheaders _, hbody⟩, rfl, rfl⟩

/-- Its request can be sent. -/
theorem Dispatch.Alike.sendable (h : d.Alike secret entrusted d') (hr : d.request = .ok r)
    (hr' : d'.request = .ok r') (ht : t.Alike secret script entrusted t') :
    Sendable secret script entrusted r r' t t' := by
  rcases h.request with ⟨fault, hfault, -⟩ | ⟨r₁, r₁', hr₁, hr₁', halike, hbody, hbody'⟩
  · cases hfault.symm.trans hr
  · obtain rfl := Except.ok.inj (hr.symm.trans hr₁)
    obtain rfl := Except.ok.inj (hr'.symm.trans hr₁')
    have hsent := halike.withCookies t.jar
    refine ⟨ht, halike, ?_⟩
    rw [← ht.jar]
    rcases h.body with hsame | ⟨-, -, hentrusted⟩
    · refine .plain ht.requests hsent ?_
      rw [withCookies_body, withCookies_body, hbody, hbody', hsame]
    · exact .entrusted ht.requests hsent (hentrusted r t.jar hr)

/-- **What is alike comes to the same outcome**, and leaves traffic that is alike. -/
theorem perform_alike (now : Int) (h : d.Alike secret entrusted d')
    (ht : t.Alike secret script entrusted t') :
    let p := perform (.playing script) now d t
    let p' := perform (.playing script) now d' t'
    p.1 = p'.1 ∧ p.2.Alike secret script entrusted p'.2 := by
  rcases h.request with ⟨fault, hfault, hfault'⟩ | ⟨r, r', hr, hr', halike, -, -⟩
  · simp only [perform, hfault, hfault', ← h.cancellation]
    cases d.cancellation <;> exact ⟨rfl, ht⟩
  · obtain ⟨hending, htraffic⟩ :=
      exchange_alike now r.url maxRedirects (h.sendable hr hr' ht)
    rcases hx : exchange (.playing script) now r.url maxRedirects r t with ⟨ending, t₁⟩
    rcases hx' : exchange (.playing script) now r.url maxRedirects r' t' with ⟨ending', t₁'⟩
    rw [hx, hx'] at hending htraffic
    obtain rfl : ending = ending' := hending
    -- an answer that is not waited for is cut off at the same place in both
    have hlength := ht.requests.length_eq
    have hlength₁ : t₁.requests.length = t₁'.requests.length := htraffic.requests.length_eq
    have hcut : Traffic.Alike secret script entrusted
        { t with requests := t₁.requests.take (t'.requests.length + 1) }
        { t' with requests := t₁'.requests.take (t'.requests.length + 1) } :=
      ⟨ht.jar, htraffic.requests.take _⟩
    simp only [perform, hr, hr', ← h.cancellation, ← h.deadline, hlength]
    cases d.cancellation with
    | before => exact ⟨rfl, ht⟩
    | never =>
      cases d.deadline.isZero with
      | true => exact ⟨rfl, ht⟩
      | false =>
        simp only [← halike.url, hx, hx', reduceCtorEq, decide_false, Bool.false_and,
          Bool.false_eq_true, if_false, true_and]
        exact htraffic
    | onArrival =>
      cases d.deadline.isZero with
      | true => exact ⟨rfl, ht⟩
      | false =>
        simp only [← halike.url, hx, hx', hlength₁]
        by_cases hmore : t'.requests.length < t₁'.requests.length
        · simpa [hmore] using hcut
        · simpa [hmore] using htraffic

end

end CoachClient.Http
