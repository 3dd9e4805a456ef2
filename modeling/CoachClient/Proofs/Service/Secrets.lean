/-
CoachClient.Proofs.Service.Secrets — secrets have no influence on anything but the wire.

* `SameSession`, `Call.Alike`, `World.Alike` — the same but for a secret.
* `Flow.Alike` — two programs that do the same in sessions that are the same but for a
  secret; `Flow.Alike.run` — run in worlds that are alike, they come to the same result and
  leave worlds that are alike.
* `send_alike`, `perform_operation_alike`, `signIn_alike`, `signOut_alike` — every program
  of a client is alike with itself, and signing in is alike for every password.
* `Errand`, `Finding`, `runErrands` — one call after another, and what comes of each: its
  result, and the roles in the session.
* `secrets_stay_on_the_wire` — with another credential, or another password, the findings
  are the same, and the requests differ in nothing but that secret.
* `moved_sign_in_repeats_password` — a sign-in that is redirected shows the password to more
  than the endpoint for signing in.
* `findings_of_two_secrets` — two credentials and two passwords.

Failures quote what the service has said, and what it says may depend on the number of
requests that have come, but not on what is in them. So everything that is quoted is the
same in both runs.
-/
import CoachClient.Proofs.Http.Secrets
import CoachClient.Proofs.Service.Flow
import CoachClient.Proofs.Service.Headers
import CoachClient.Proofs.Service.SignIn

namespace CoachClient.Service

open CoachClient.Access CoachClient.Coaching CoachClient.Http CoachClient.Json

/-! ## 1. Sessions and calls -/

/-- The same session, but for a secret credential. Both credentials fit into a header. -/
inductive SameSession (secret : Secret) : Snapshot → Snapshot → Prop
  | same (s : Snapshot) : SameSession secret s s
  | replaced (h : secret = .credential) {shown shown' : String} (roles : List String)
      (hshown : isHeaderValue (bearer shown) = true)
      (hshown' : isHeaderValue (bearer shown') = true) :
      SameSession secret (.signedIn shown roles) (.signedIn shown' roles)

/-- The same call, but for a secret password in the body of one that asks for a token. -/
inductive Call.Alike (secret : Secret) : Call → Call → Prop
  | same (call : Call) : Call.Alike secret call call
  | entrusted (h : secret = .password) (call : Call) (hmethod : call.method = "POST")
      (hendpoint : call.endpoint = "/auth/login") (body : Option Value) :
      Call.Alike secret call { call with body }

section
variable {secret : Secret} {s s' : Snapshot}

theorem SameSession.roles_eq (h : SameSession secret s s') : s.roles = s'.roles := by
  cases h <;> rfl

/-- Both sessions are refused, or neither, for the same reason. -/
theorem SameSession.refusal?_eq (h : SameSession secret s s') (extra : List (String × String)) :
    refusal? s.credential? extra = refusal? s'.credential? extra := by
  cases h with
  | same => rfl
  | replaced h roles hshown hshown' =>
    simp only [refusal?, Snapshot.credential?, credentialRefusal?, hshown, hshown', if_true]

theorem SameSession.mergedHeaders (h : SameSession secret s s') (extra : List (String × String)) :
    Headers.Alike secret (Service.mergedHeaders s.credential? extra)
      (Service.mergedHeaders s'.credential? extra) := by
  cases h with
  | same => exact .refl _
  | replaced h roles hshown hshown' => exact (Headers.Alike.refl _).set (Or.inr ⟨h, rfl⟩)

/-- The request is the one that asks for a token. -/
abbrev Client.AsksForToken (c : Client) (r : Request) : Prop := c.Asks "POST" "/auth/login" r

/-- Calls that are alike are dispatched alike, or refused for the same reason. -/
theorem dispatch_alike (c : Client) (hs : SameSession secret s s') {call call' : Call}
    (hcall : call.Alike secret call') :
    (∃ refusal, c.dispatch s.credential? call = .error refusal ∧
        c.dispatch s'.credential? call' = .error refusal) ∨
      ∃ d d', c.dispatch s.credential? call = .ok d ∧ c.dispatch s'.credential? call' = .ok d' ∧
        d.Alike secret c.AsksForToken d' := by
  have hheaders : call.headers = call'.headers := by cases hcall <;> rfl
  simp only [Client.dispatch, mergeHeaders_eq, ← hheaders, ← hs.refusal?_eq]
  cases refusal? s.credential? call.headers with
  | some refusal => exact Or.inl ⟨refusal, rfl, rfl⟩
  | none =>
    refine Or.inr ⟨_, _, rfl, rfl, ?_⟩
    have hmerged := hs.mergedHeaders call.headers
    cases hcall with
    | same => exact ⟨rfl, rfl, hmerged, Or.inl rfl, rfl, rfl⟩
    | entrusted h call hmethod hendpoint body =>
      refine ⟨rfl, rfl, hmerged, Or.inr ⟨h, hmethod, fun r jar hr => ?_⟩, rfl, rfl⟩
      obtain ⟨hrequest, url, hparse, hurl⟩ := request_ok hr
      obtain ⟨hm, hu⟩ := withCookies_method_url r jar
      rw [hendpoint] at hparse
      exact ⟨by rw [hm, hrequest, hmethod], url, hparse, by rw [hu, hurl]⟩

end

/-! ## 2. Programs -/

/-- Two programs that do the same, whichever the secret is. -/
inductive Flow.Alike (secret : Secret) (c : Client) {α : Type} : Flow α → Flow α → Prop
  | done (a : α) : Flow.Alike secret c (.done a) (.done a)
  | observe {next next' : Snapshot → Flow α}
      (h : ∀ s s', SameSession secret s s' → Flow.Alike secret c (next s) (next' s')) :
      Flow.Alike secret c (.observe next) (.observe next')
  | update (change : Change) {next next' : Flow α} (h : Flow.Alike secret c next next') :
      Flow.Alike secret c (.update change next) (.update change next')
  | exchange {d d' : Dispatch} {next next' : Outcome → Flow α}
      (hd : d.Alike secret c.AsksForToken d')
      (h : ∀ outcome, Flow.Alike secret c (next outcome) (next' outcome)) :
      Flow.Alike secret c (.exchange d next) (.exchange d' next')

/-- The same world, but for a secret. -/
structure World.Alike (secret : Secret) (script : Script) (c : Client) (w w' : World) : Prop where
  session : SameSession secret w.store.snapshot w'.store.snapshot
  changes : w.store.changes = w'.store.changes
  traffic : w.traffic.Alike secret script c.AsksForToken w'.traffic

section
variable {secret : Secret} {script : Script} {c : Client} {e : Surroundings} {w w' : World}

theorem World.Alike.apply (h : w.Alike secret script c w') (change : Change) :
    World.Alike secret script c { w with store := w.store.apply change }
      { w' with store := w'.store.apply change } :=
  ⟨.same _, congrArg (· + 1) h.changes, h.traffic⟩

/-- Changes that others make leave no trace of the credential that was there. -/
theorem applyAll_alike {s s' : Store} (hsession : SameSession secret s.snapshot s'.snapshot)
    (hchanges : s.changes = s'.changes) (changes : List Change) :
    SameSession secret (s.applyAll changes).snapshot (s'.applyAll changes).snapshot ∧
      (s.applyAll changes).changes = (s'.applyAll changes).changes := by
  unfold Store.applyAll
  induction changes generalizing s s' with
  | nil => exact ⟨hsession, hchanges⟩
  | cons change changes ih =>
    have hnext : SameSession secret (s.apply change).snapshot (s'.apply change).snapshot := .same _
    exact ih hnext (congrArg (· + 1) hchanges)

/-- A dispatch comes to the same outcome in both worlds. -/
theorem World.Alike.perform (hscript : e.service = .playing script)
    (h : w.Alike secret script c w') {d d' : Dispatch} (hd : d.Alike secret c.AsksForToken d') :
    (w.perform e d).1 = (w'.perform e d').1 ∧
      (w.perform e d).2.Alike secret script c (w'.perform e d').2 := by
  obtain ⟨houtcome, htraffic⟩ := perform_alike e.now hd h.traffic
  rw [← hscript] at houtcome htraffic
  obtain ⟨hsession, hchanges⟩ := applyAll_alike h.session h.changes
    (e.changes w.traffic.requests.length
      ((Http.perform e.service e.now d w.traffic).2.requests.length - w.traffic.requests.length))
  refine ⟨houtcome, ?_, ?_, htraffic⟩
  · simp only [World.perform, ← h.traffic.requests.length_eq, ← htraffic.requests.length_eq]
    exact hsession
  · simp only [World.perform, ← h.traffic.requests.length_eq, ← htraffic.requests.length_eq]
    exact hchanges

namespace Flow.Alike

variable {α β : Type} {p p' : Flow α}

/-- Programs that do the same come to the same, and leave worlds that are alike. -/
theorem run (hscript : e.service = .playing script) (hp : p.Alike secret c p')
    (h : w.Alike secret script c w') :
    (p.run e w).1 = (p'.run e w').1 ∧ (p.run e w).2.Alike secret script c (p'.run e w').2 := by
  induction hp generalizing w w' with
  | done a => exact ⟨rfl, h⟩
  | observe _ ih => exact ih _ _ h.session h
  | update change _ ih => exact ih (h.apply change)
  | exchange hd _ ih =>
    obtain ⟨houtcome, hworld⟩ := h.perform hscript hd
    simp only [Flow.run, ← houtcome]
    exact ih _ hworld

theorem bind (hp : p.Alike secret c p') {f f' : α → Flow β}
    (hf : ∀ a, (f a).Alike secret c (f' a)) : (p >>= f).Alike secret c (p' >>= f') := by
  induction hp with
  | done a => exact hf a
  | observe _ ih => exact .observe fun s s' hs => ih s s' hs
  | update change _ ih => exact .update change ih
  | exchange hd _ ih => exact .exchange hd fun outcome => ih outcome

theorem change (change : Change) : (Flow.change change).Alike secret c (Flow.change change) :=
  .update change (.done ())

end Flow.Alike

/-! ## 3. Programs of a client -/

/-- Calls that are alike are made by programs that do the same. -/
theorem send_alike {α : Type} (d : Decoder α) {call call' : Call}
    (hcall : call.Alike secret call') :
    (c.send d call).Alike secret c (c.send d call') := by
  have hendpoint : call.endpoint = call'.endpoint := by cases hcall <;> rfl
  refine .observe fun s s' hs => ?_
  unfold Client.start
  rcases dispatch_alike c hs hcall with ⟨refusal, hrefused, hrefused'⟩ | ⟨d, d', hd, hd', halike⟩
  · rw [hrefused, hrefused']
    exact .done _
  · rw [hd, hd', ← hendpoint]
    refine .exchange halike fun outcome => ?_
    rw [halike.deadline]
    exact .done _

/-- An operation does the same whatever the credential is. -/
theorem perform_operation_alike (o : Operation) :
    (c.perform o).Alike secret c (c.perform o) := by
  unfold Client.perform
  cases o.call with
  | error refusal => exact .done _
  | ok call => exact send_alike _ (.same call)

/-- Signing in does the same whatever the credential is, and whatever the password. -/
theorem signIn_alike {credentials credentials' : Credentials}
    (h : credentials = credentials' ∨ secret = .password) :
    (c.signIn credentials).Alike secret c (c.signIn credentials') := by
  have htoken : Flow.Alike secret c
      (c.send Grant.decoder ((Call.post "/auth/login").withBody credentials.toValue))
      (c.send Grant.decoder ((Call.post "/auth/login").withBody credentials'.toValue)) := by
    rcases h with rfl | hsecret
    · exact send_alike _ (.same _)
    · exact send_alike _ (.entrusted hsecret _ rfl rfl _)
  refine Flow.Alike.bind htoken fun token => ?_
  cases token with
  | error failure => exact .done _
  | ok grant =>
    refine (Flow.Alike.change _).bind fun _ => ?_
    refine (perform_operation_alike .identity).bind fun identity => ?_
    cases identity with
    | error failure => exact (Flow.Alike.change _).bind fun _ => .done _
    | ok profile => exact (Flow.Alike.change _).bind fun _ => .done _

theorem signOut_alike : (c.signOut).Alike secret c (c.signOut) := by
  refine (perform_operation_alike .revokeToken).bind fun result => ?_
  exact (Flow.Alike.change _).bind fun _ => .done _

end

/-! ## 4. One after another -/

/-- What a client can be asked for. -/
inductive Errand : Type 1 where
  | send {α : Type} (d : Decoder α) (call : Call)
  | perform (o : Operation)
  | signIn (credentials : Credentials)
  | signOut

namespace Errand

/-- What an errand gives back. -/
abbrev Result : Errand → Type
  | .send (α := α) _ _ => α
  | .perform o => o.Result
  | .signIn _ => Profile
  | .signOut => Unit

/-- The program of an errand. -/
def program (c : Client) : (x : Errand) → Flow (Except Failure x.Result)
  | .send d call => c.send d call
  | .perform o => c.perform o
  | .signIn credentials => c.signIn credentials
  | .signOut => c.signOut

/-- The same errand, but for a secret password. -/
inductive Alike (secret : Secret) : Errand → Errand → Prop
  | same (x : Errand) : Errand.Alike secret x x
  | signIn (h : secret = .password) (email password password' : String) :
      Errand.Alike secret (.signIn ⟨email, password⟩) (.signIn ⟨email, password'⟩)

end Errand

/-- What comes of an errand: its result, which says all that there is to say about a
failure, and the roles that the session has then. -/
structure Finding : Type 1 where
  Result : Type
  result : Except Failure Result
  roles : List String

/-- Run an errand. -/
def Errand.run (e : Surroundings) (c : Client) (x : Errand) (w : World) : Finding × World :=
  let (result, w') := (x.program c).run e w
  (⟨x.Result, result, w'.store.snapshot.roles⟩, w')

/-- Run one errand after another. -/
def runErrands (e : Surroundings) (c : Client) : List Errand → World → List Finding × World
  | [], w => ([], w)
  | x :: errands, w =>
    let (finding, w') := x.run e c w
    let (findings, w'') := runErrands e c errands w'
    (finding :: findings, w'')

section
variable {secret : Secret} {script : Script} {c : Client} {e : Surroundings} {w w' : World}

/-- An errand does the same, whichever the secret is. -/
theorem Errand.program_alike (x : Errand) : (x.program c).Alike secret c (x.program c) := by
  cases x with
  | send d call => exact send_alike d (.same call)
  | perform o => exact perform_operation_alike o
  | signIn credentials => exact signIn_alike (Or.inl rfl)
  | signOut => exact signOut_alike

/-- Programs that do the same are found to do the same. -/
theorem finding_alike {α : Type} {p p' : Flow (Except Failure α)}
    (hscript : e.service = .playing script) (hp : p.Alike secret c p')
    (h : w.Alike secret script c w') :
    (⟨α, (p.run e w).1, (p.run e w).2.store.snapshot.roles⟩ : Finding) =
        ⟨α, (p'.run e w').1, (p'.run e w').2.store.snapshot.roles⟩ ∧
      (p.run e w).2.Alike secret script c (p'.run e w').2 := by
  obtain ⟨hresult, hworld⟩ := hp.run hscript h
  exact ⟨by rw [hresult, hworld.session.roles_eq], hworld⟩

/-- Errands that are alike are found to do the same. -/
theorem Errand.Alike.run {x x' : Errand} (hscript : e.service = .playing script)
    (hx : x.Alike secret x') (h : w.Alike secret script c w') :
    (x.run e c w).1 = (x'.run e c w').1 ∧
      (x.run e c w).2.Alike secret script c (x'.run e c w').2 := by
  cases hx with
  | same x => exact finding_alike hscript x.program_alike h
  | signIn hsecret email password password' =>
    have hprogram : Flow.Alike secret c (c.signIn ⟨email, password⟩)
        (c.signIn ⟨email, password'⟩) := signIn_alike (Or.inr hsecret)
    have hfinding := finding_alike hscript hprogram h
    exact hfinding

/-- And so are lists of them, run one after another. -/
theorem runErrands_alike {errands errands' : List Errand} (hscript : e.service = .playing script)
    (herrands : List.Forall₂ (Errand.Alike secret) errands errands')
    (h : w.Alike secret script c w') :
    (runErrands e c errands w).1 = (runErrands e c errands' w').1 ∧
      (runErrands e c errands w).2.Alike secret script c (runErrands e c errands' w').2 := by
  induction herrands generalizing w w' with
  | nil => exact ⟨rfl, h⟩
  | cons hx _ ih =>
    obtain ⟨hfinding, hworld⟩ := hx.run hscript h
    obtain ⟨hfindings, hworlds⟩ := ih hworld
    simp only [runErrands]
    exact ⟨by rw [hfinding, hfindings], hworlds⟩

end

/-! ## 5. Secrets -/

/-- **Secrets have no influence on anything but the wire.** With another credential in the
session, every errand comes to the same, and the requests differ in nothing but the value of
the header that carries it. With other passwords to sign in with, every errand comes to the
same, and the requests differ in nothing but the bodies of those that ask for a token, and
of those that repeat them where the service has redirected them with 307 or 308. What is
written to a log does not depend on any secret. -/
theorem secrets_stay_on_the_wire (c : Client) (script : Script) (now : Int)
    (meanwhile : Nat → List Change) :
    let e : Surroundings := ⟨.playing script, now, meanwhile⟩
    (∀ (errands : List Errand) (traffic : Traffic) (changes : Nat) (roles : List String)
        (shown shown' : String),
      isHeaderValue (bearer shown) = true → isHeaderValue (bearer shown') = true →
      let ran := runErrands e c errands ⟨⟨.signedIn shown roles, changes⟩, traffic⟩
      let ran' := runErrands e c errands ⟨⟨.signedIn shown' roles, changes⟩, traffic⟩
      ran.1 = ran'.1 ∧
        List.Forall₂ (Request.Alike .credential) ran.2.traffic.requests ran'.2.traffic.requests) ∧
      (∀ (errands errands' : List Errand) (w : World),
        List.Forall₂ (Errand.Alike .password) errands errands' →
        let ran := runErrands e c errands w
        let ran' := runErrands e c errands' w
        ran.1 = ran'.1 ∧ Recorded .password script c.AsksForToken ran.2.traffic.requests
          ran'.2.traffic.requests) ∧
      (∀ shown shown' roles,
        (Snapshot.signedIn shown roles).debug = (Snapshot.signedIn shown' roles).debug) ∧
      (∀ email password password',
        Credentials.debug ⟨email, password⟩ = Credentials.debug ⟨email, password'⟩) ∧
      ∀ grant grant' : Grant, grant.debug = grant'.debug := by
  intro e
  refine ⟨fun errands traffic changes roles shown shown' hshown hshown' => ?_,
    fun errands errands' w herrands => ?_, fun _ _ _ => rfl, fun _ _ _ => rfl, fun _ _ => rfl⟩
  · have hworld : World.Alike .credential script c
        ⟨⟨.signedIn shown roles, changes⟩, traffic⟩ ⟨⟨.signedIn shown' roles, changes⟩, traffic⟩ :=
      ⟨.replaced rfl roles hshown hshown', rfl, rfl, .refl _⟩
    obtain ⟨hfindings, hworlds⟩ := runErrands_alike (e := e) rfl
      (List.forall₂_same.mpr fun x (_ : x ∈ errands) => .same x) hworld
    exact ⟨hfindings, hworlds.traffic.requests.forall₂⟩
  · have hworld : World.Alike .password script c w w := ⟨.same _, rfl, rfl, .refl _⟩
    obtain ⟨hfindings, hworlds⟩ := runErrands_alike (e := e) rfl herrands hworld
    exact ⟨hfindings, hworlds.traffic.requests⟩

/-- A service that sends whoever asks for a token elsewhere, and there refuses it. -/
def redirectingScript : Script
  | 0, _ => .full ⟨⟨307⟩, [("Location", "/moved")], []⟩
  | _, _ => .full ⟨⟨401⟩, [], []⟩

/-- Signing in there. -/
def signInMoved (password : String) : Except Failure Profile × World :=
  (plainClient.signIn ⟨"e@x", password⟩).run ⟨.playing redirectingScript, 0, fun _ => []⟩
    World.fresh

/-- Another password is seen in a request other than the one that asks for a token. -/
theorem moved_sign_in_repeats_password :
    ¬ List.Forall₂ (fun r r' => r = r' ∨ plainClient.AsksForToken r)
      (signInMoved "p").2.traffic.requests (signInMoved "q").2.traffic.requests := by
  intro h
  have hbody : ((signInMoved "p").2.traffic.requests.get ⟨1, by decide +kernel⟩).body ≠
      ((signInMoved "q").2.traffic.requests.get ⟨1, by decide +kernel⟩).body := by decide +kernel
  have hurl : (Url.parse (plainClient.address "/auth/login")).toOption.map (·.takeUserinfo.1) ≠
      some ((signInMoved "p").2.traffic.requests.get ⟨1, by decide +kernel⟩).url := by
    decide +kernel
  rcases (List.forall₂_iff_get.mp h).2 1 (by decide +kernel) (by decide +kernel) with
    hsame | ⟨-, url, hparse, htarget⟩
  · exact hbody (congrArg Request.body hsame)
  · rw [hparse, htarget] at hurl
    exact hurl rfl

/-- A service that grants a token, names its owner, and after that has nothing to say. -/
def grantingScript : Script := fun n _ => ((signInScript "tok" ⟨"e@x", ["coach"]⟩)[n]?).getD .closed

/-- What happens with a credential there: a sign-in with a password, and a list. -/
def ranWith (credential password : String) : List Finding × World :=
  runErrands ⟨.playing grantingScript, 0, fun _ => []⟩ plainClient
    [.signIn ⟨"e@x", password⟩, .perform .listSessions]
    ⟨⟨.signedIn credential ["admin"], 1⟩, Traffic.none⟩

/-- With another credential or another password the same is found, though not the same is
sent. -/
theorem findings_of_two_secrets :
    ((ranWith "old" "p").1 = (ranWith "new" "p").1 ∧
        (ranWith "old" "p").2.traffic.requests ≠ (ranWith "new" "p").2.traffic.requests) ∧
      (ranWith "old" "p").1 = (ranWith "old" "q").1 ∧
        (ranWith "old" "p").2.traffic.requests ≠ (ranWith "old" "q").2.traffic.requests := by
  obtain ⟨hcredential, hpassword, -⟩ :=
    secrets_stay_on_the_wire plainClient grantingScript 0 fun _ => []
  refine ⟨⟨(hcredential _ Traffic.none 1 ["admin"] "old" "new" (by decide +kernel)
    (by decide +kernel)).1, by decide +kernel⟩, ?_, by decide +kernel⟩
  refine (hpassword _ _ ⟨⟨.signedIn "old" ["admin"], 1⟩, Traffic.none⟩ ?_).1
  exact .cons (.signIn rfl "e@x" "p" "q") (.cons (.same _) .nil)

end CoachClient.Service
