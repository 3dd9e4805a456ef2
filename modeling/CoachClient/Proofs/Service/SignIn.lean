/-
CoachClient.Proofs.Service.SignIn — what signing in leaves behind.

* `signIn_cases` — the three ways it can go: no token, a token but no identity,
  both.
* `SignedIn` — somebody is signed in with a granted token and with the roles of
  the identity, and has shown that token when asking for the identity.
* `signIn_signedIn_iff` — after signing in has succeeded this is so exactly when
  the granted token is not blank.
* `signIn_store` — who stays signed in has shown the credential.
* `blank_token_signs_nobody_in` — with a blank token signing in succeeds and
  nobody is signed in.

Others may change the session while a request is on its way. That has no
influence: what signing in reads of the session, it has written just before, and
its last step is to write the session.
-/
import CoachClient.Proofs.Service.Flow
import CoachClient.Proofs.Service.Script

namespace CoachClient.Service

open CoachClient.Access CoachClient.Coaching CoachClient.Http CoachClient.Json CoachClient.Text

/-! ## 1. The ways it can go -/

/-- The world after a token has been granted and put in place. -/
def World.withToken (w : World) (grant : Grant) : World :=
  { w with store := w.store.apply (.establish grant.accessToken []) }

/-- Signing in, step by step. -/
theorem signIn_cases {e : Surroundings} {c : Client} {credentials : Credentials} {w w' : World}
    {result : Except Failure Profile} (h : (c.signIn credentials).run e w = (result, w')) :
    (∃ failure, (c.perform (.grantToken credentials)).run e w = (.error failure, w') ∧
        result = .error failure) ∨
      ∃ grant w₁, (c.perform (.grantToken credentials)).run e w = (.ok grant, w₁) ∧
        ((∃ failure w₂, (c.perform .identity).run e (w₁.withToken grant) = (.error failure, w₂) ∧
            result = .error failure ∧ w' = { w₂ with store := w₂.store.apply .clear }) ∨
          ∃ profile w₂, (c.perform .identity).run e (w₁.withToken grant) = (.ok profile, w₂) ∧
            result = .ok profile ∧
            w' = { w₂ with
              store := w₂.store.apply (.establish grant.accessToken profile.roles) }) := by
  unfold Client.signIn at h
  simp only [bind, pure, Flow.run_bind] at h
  rcases htoken : (c.perform (.grantToken credentials)).run e w with ⟨token, w₁⟩
  rw [htoken] at h
  cases token with
  | error failure =>
    simp only [Flow.run_done, Prod.mk.injEq] at h
    obtain ⟨rfl, rfl⟩ := h
    exact Or.inl ⟨failure, rfl, rfl⟩
  | ok grant =>
    refine Or.inr ⟨grant, w₁, rfl, ?_⟩
    simp only [Flow.run_bind, Flow.run_change] at h
    rcases hme : (c.perform .identity).run e (w₁.withToken grant) with ⟨identity, w₂⟩
    rw [World.withToken] at hme
    rw [hme] at h
    cases identity with
    | error failure =>
      simp only [Flow.run_bind, Flow.run_change, Flow.run_done, Prod.mk.injEq] at h
      exact Or.inl ⟨failure, w₂, rfl, h.1.symm, h.2.symm⟩
    | ok profile =>
      simp only [Flow.run_bind, Flow.run_change, Flow.run_done, Prod.mk.injEq] at h
      exact Or.inr ⟨profile, w₂, rfl, h.1.symm, h.2.symm⟩

/-! ## 2. Who is signed in afterwards -/

/-- Somebody is signed in with the granted token and the roles of the identity,
and `get` showed that token. -/
structure SignedIn (w : World) (grant : Grant) (profile : Profile) (get : Request) : Prop where
  authenticated : w.store.snapshot.isAuthenticated = true
  credential : w.store.snapshot.credential? = some grant.accessToken
  roles : w.store.snapshot.roles = profile.roles
  shown : Headers.all authorization get.headers = [bearer grant.accessToken]

theorem result_establish_of_blank {token : String} (h : allBlank token = true)
    (roles : List String) : (Change.establish token roles).result = .anonymous := by
  simp [Change.result, h]

theorem result_establish_of_not_blank {token : String} (h : allBlank token = false)
    (roles : List String) : (Change.establish token roles).result = .signedIn token roles := by
  simp [Change.result, h]

theorem grant_decodeNull (a : Grant) : Grant.decoder.decodeNull ≠ .ok a := by
  simp [Grant.decoder, Record.decoder, Decoder.strict, Decoder.decodeNull]

theorem profile_decodeNull (a : Profile) : Profile.decoder.decodeNull ≠ .ok a := by
  simp [Profile.decoder, Record.decoder, Decoder.strict, Decoder.decodeNull]

/-- The world after signing in has succeeded is signed in exactly when the token
that was put in place is not blank; a blank one leaves nobody signed in. -/
theorem signedIn_iff {c : Client} {w : World} {grant : Grant} {profile : Profile} {jar : Jar}
    {get : Request}
    (hstore : w.store.snapshot = (Change.establish grant.accessToken profile.roles).result)
    (hget : c.Issues .identity (Change.establish grant.accessToken []).result.credential? jar get) :
    (SignedIn w grant profile get ↔ allBlank grant.accessToken = false) ∧
      (allBlank grant.accessToken = true → w.store.snapshot = .anonymous) := by
  cases hblank : allBlank grant.accessToken with
  | true =>
    rw [result_establish_of_blank hblank] at hstore
    refine ⟨⟨fun h => ?_, fun h => nomatch h⟩, fun _ => hstore⟩
    have hauth := h.authenticated
    simp [hstore, Snapshot.isAuthenticated, Snapshot.credential?] at hauth
  | false =>
    rw [result_establish_of_not_blank hblank] at hstore hget
    refine ⟨⟨fun _ => rfl, fun _ => ?_⟩, fun h => nomatch h⟩
    exact ⟨by rw [hstore]; rfl, by rw [hstore]; rfl, by rw [hstore]; rfl, hget.authorization⟩

/-- **Signing in signs the user in, unless the token is blank.** The first
request asks for a token, with whatever credential there was before; the second
one asks who this is. Both answers come from the service. -/
theorem signIn_signedIn_iff {e : Surroundings} {c : Client} {credentials : Credentials}
    {w w' : World} {profile : Profile}
    (h : (c.signIn credentials).run e w = (.ok profile, w')) :
    ∃ grant post afterPost get afterGet,
      w'.traffic.requests = w.traffic.requests ++ post :: afterPost ++ get :: afterGet ∧
      c.Asks "POST" "/auth/login" post ∧
      Returned e.service (w.traffic.requests ++ post :: afterPost) Grant.decoder grant ∧
      c.Asks "GET" "/auth/me" get ∧
      Returned e.service w'.traffic.requests Profile.decoder profile ∧
      (SignedIn w' grant profile get ↔ allBlank grant.accessToken = false) ∧
      (allBlank grant.accessToken = true → w'.store.snapshot = .anonymous) := by
  rcases signIn_cases h with ⟨_, -, hfail⟩ | ⟨grant, w₁, htoken, hrest⟩
  · cases hfail
  rcases hrest with ⟨_, _, -, hfail, -⟩ | ⟨profile', w₂, hme, hok, rfl⟩
  · cases hfail
  obtain rfl : profile = profile' := Except.ok.inj hok
  obtain ⟨post, afterPost, hpost, hsent, hgranted⟩ := Client.perform_ok grant_decodeNull htoken
  obtain ⟨get, afterGet, hget, hsent', hnamed⟩ := Client.perform_ok profile_decodeNull hme
  have hstore : (w₁.withToken grant).store.snapshot.credential? =
      (Change.establish grant.accessToken []).result.credential? := rfl
  rw [hstore] at hget
  refine ⟨grant, post, afterPost, get, afterGet, ?_, hpost.asks rfl, ?_, hget.asks rfl, hnamed,
    signedIn_iff rfl hget⟩
  · rw [← hsent]
    exact hsent'
  · rw [← hsent]
    exact hgranted

/-! ## 3. Who stays signed in -/

/-- When nobody else changes the session, signing in leaves who was signed in,
or nobody, or somebody whose credential has been shown. -/
theorem signIn_store {e : Surroundings} {c : Client} {credentials : Credentials} {w w' : World}
    {result : Except Failure Profile} (hquiet : e.Quiet)
    (h : (c.signIn credentials).run e w = (result, w')) :
    w'.store.snapshot = w.store.snapshot ∨ w'.store.snapshot = .anonymous ∨
      ∃ token roles, w'.store.snapshot = .signedIn token roles ∧
        isHeaderValue (bearer token) = true := by
  rcases signIn_cases h with ⟨_, htoken, -⟩ | ⟨grant, w₁, -, hrest⟩
  · exact Or.inl (by rw [Client.perform_store hquiet htoken])
  rcases hrest with ⟨_, w₂, -, -, rfl⟩ | ⟨profile, w₂, hme, -, rfl⟩
  · exact Or.inr (Or.inl rfl)
  obtain ⟨get, _, hget, -⟩ := Client.perform_ok profile_decodeNull hme
  have hcredential : (w₁.withToken grant).store.snapshot.credential? =
      (Change.establish grant.accessToken []).result.credential? := rfl
  rw [hcredential] at hget
  cases hblank : allBlank grant.accessToken with
  | true => exact Or.inr (Or.inl (result_establish_of_blank hblank profile.roles))
  | false =>
    rw [result_establish_of_not_blank hblank] at hget
    exact Or.inr (Or.inr ⟨grant.accessToken, profile.roles,
      result_establish_of_not_blank hblank profile.roles, hget.isHeaderValue⟩)

/-- After signing out nobody is signed in, whatever the service says. -/
theorem signOut_store (e : Surroundings) (c : Client) (w : World) :
    (c.signOut.run e w).2.store.snapshot = .anonymous := by
  simp only [Client.signOut, bind, pure, Flow.run_bind, Flow.run_change, Flow.run_done]
  rfl

/-! ## 4. Two runs -/

/-- A client of a service at a plain origin. -/
def plainClient : Client := ⟨"http://service", Time.Duration.ofSeconds 30⟩

/-- Signing in with a service that grants a token and names an administrator. -/
def signInWith (token : String) : Except Failure Profile × World :=
  (plainClient.signIn ⟨"e@x", "p"⟩).run
    (.answering (signInScript token ⟨"e@x", ["admin"]⟩)) World.fresh

theorem signInWith_tok :
    signInWith "tok" = (.ok ⟨"e@x", ["admin"]⟩, (signInWith "tok").2) :=
  eq_ok_of_fst (by decide +kernel)

/-- An ordinary token signs the user in. -/
theorem ordinary_token_signs_in :
    signInWith "tok" = (.ok ⟨"e@x", ["admin"]⟩, (signInWith "tok").2) ∧
      ∃ grant get, SignedIn (signInWith "tok").2 grant ⟨"e@x", ["admin"]⟩ get := by
  obtain ⟨grant, post, afterPost, get, afterGet, -, -, -, -, -, hiff, hblank⟩ :=
    signIn_signedIn_iff signInWith_tok
  refine ⟨signInWith_tok, grant, get, hiff.mpr ?_⟩
  cases h : allBlank grant.accessToken with
  | false => rfl
  | true => exact absurd (hblank h) (by decide +kernel)

/-- A blank token signs nobody in, and yet signing in succeeds. -/
theorem blank_token_signs_nobody_in :
    signInWith "   " = (.ok ⟨"e@x", ["admin"]⟩, (signInWith "   ").2) ∧
      ∀ grant profile get, ¬ SignedIn (signInWith "   ").2 grant profile get := by
  refine ⟨eq_ok_of_fst (by decide +kernel), fun grant profile get h => ?_⟩
  have hauth := h.authenticated
  revert hauth
  decide +kernel

end CoachClient.Service
