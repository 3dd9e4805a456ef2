/-
CoachClient.Proofs.Shell.Creation — creating a session sends what was asked for, or
nothing.

* `Scene.Proven` — whoever is signed in, the client has got a request through;
  `after_proven` — as long as nobody else changes the session this is always so, because
  signing in has needed the service.
* `Creates` — what a command to create a session may have done.
* `creation_sends_what_was_asked_for` — it has done that, over all that has been done before
  and whatever the service does.

The request for a new session goes to a shorter URL than the one with which users sign in,
so where somebody is signed in, neither the length of a URL nor the time limit keeps it from
going out.
-/
import CoachClient.Proofs.Coaching.Rules
import CoachClient.Proofs.Service.Delivery
import CoachClient.Proofs.Shell.SignOut

namespace CoachClient.Shell

open CoachClient.Access CoachClient.Coaching CoachClient.Command CoachClient.Http
open CoachClient.Service CoachClient.Settings

/-! ## 1. Clients of those who are signed in -/

/-- Whoever is signed in, the client has got a request through. -/
def Scene.Proven (s : Scene) : Prop :=
  HasCredential s.world.store.snapshot → s.app.client.Delivers

namespace Scene.Proven

/-- One scene is proven if another one is. -/
def Passes (s s' : Scene) : Prop := s.Proven → s'.Proven

instance : IsPreorder Scene Passes where
  refl _ := id
  trans _ _ _ h h' := h' ∘ h

theorem of_same {s s' : Scene} (hs : s.Proven) (hclient : s'.app.client = s.app.client)
    (hsnapshot : s'.world.store.snapshot = s.world.store.snapshot) : s'.Proven := by
  unfold Scene.Proven
  rw [hclient, hsnapshot]
  exact hs

theorem of_anonymous {s : Scene} (h : s.world.store.snapshot = .anonymous) : s.Proven := by
  unfold Scene.Proven
  rw [h]
  exact fun ⟨_, hcredential⟩ => nomatch hcredential

/-- Without others, commands only leave somebody signed in whom the service has given a
token. -/
theorem allows {x : Context} (hquiet : x.surroundings.Quiet) : Allows x Passes where
  signIn credentials s hs := by
    rcases hrun : (s.app.client.signIn credentials).run x.surroundings s.world with ⟨result, w⟩
    have hcarried : (carryOut x (Client.signIn · credentials)).run s =
        (result, { s with world := w }) := carryOut_run hrun
    rw [hcarried]
    rcases signIn_delivers hquiet hrun with hsame | hdelivers
    · exact hs.of_same rfl hsame
    · exact fun _ => hdelivers
  signOut s _ := of_anonymous (signOut_store _ _ _)
  perform o s hs := by
    rcases hrun : (s.app.client.perform o).run x.surroundings s.world with ⟨result, w⟩
    have hcarried : (carryOut x (Client.perform · o)).run s =
        (result, { s with world := w }) := carryOut_run hrun
    rw [hcarried]
    exact hs.of_same rfl (congrArg Store.snapshot (Client.perform_store hquiet hrun))
  remember email s hs := by
    refine hs.of_same ?_ ?_ <;> unfold Scene.rememberEmail <;> split <;> rfl
  identify _ _ hs := hs
  input _ hs := hs

end Scene.Proven

/-- Whatever has been done, the client of somebody who is signed in has got a request
through. -/
theorem after_proven {settings : Settings} {persists : Bool} {files : Files} {input : List UInt8}
    {deeds : List (Context × Deed)} (hquiet : ∀ step ∈ deeds, step.1.surroundings.Quiet) :
    ((Scene.opening settings persists files input).after deeds).Proven :=
  Scene.after_induction
    (fun step hstep s hs =>
      Deed.act_keeps (Scene.Proven.allows (hquiet step hstep)) step.2 s hs)
    (Scene.Proven.of_anonymous rfl)

/-! ## 2. Creating a session -/

/-- What a command to create a session may have done at a scene, with a service at `base`. -/
structure Creates (base : Url) (x : Context) (s : Scene) (n : NewSession)
    (run : Except Trouble Outcome × Scene) : Prop where
  /-- If a rule is broken it fails for the first such one, and nothing happens. -/
  refused : ∀ fault, n.firstBroken? = some fault → run = (.error (.invalidSession fault), s)
  /-- Otherwise there is one request to create just this session, with nothing but redirects
  behind it. If nobody is there to take it, that is an error and nothing happens. -/
  sent : (∀ fault, ¬ n.Breaks fault) → ∃ post : Request,
    post.method = "POST" ∧ post.url.target = "/sessions" ∧ LeadsTo base post.url ∧
      n.IsSaidBy post.body ∧
      (x.surroundings.service s.world.traffic.requests post ≠ .unreachable →
        ∃ later, run.2.world.traffic.requests = s.world.traffic.requests ++ post :: later ∧
          LedOn x.surroundings.service s.world.traffic.requests post later) ∧
      (x.surroundings.service s.world.traffic.requests post = .unreachable →
        run = (.error (.service (.transport (.noAnswer post.url))), s))

/-- The body of the operation is the request. -/
theorem isSaidBy_of_isCarriedBy {n : NewSession} {body : List UInt8}
    (h : (Operation.createSession n).IsCarriedBy body) : n.IsSaidBy body := by
  obtain ⟨members, hobject, hperm⟩ := h.fields n.members rfl
  exact NewSession.isSaidBy_of_perm (h.session n rfl) hobject hperm

section
variable {base : Url} {x : Context} {s : Scene} {n : NewSession}

/-- Somebody who may run the command is refused for a rule, or asks for the session. -/
theorem view_createSession (x : Context) (n : NewSession) :
    view x (.createSession n) = match n.firstBroken? with
      | some fault => pure (.error (.invalidSession fault))
      | none => ask x (.createSession n) Display.session := by
  rw [← n.fault?_eq_firstBroken?]
  rfl

theorem runGuarded_creates (horigin : IsOrigin s.app.client.baseUrl base)
    (hmay : HasCredential s.world.store.snapshot) (hshow : s.Presentable) (hproven : s.Proven) :
    Creates base x s n ((runGuarded x (.createSession n)).run s) := by
  have hlet : MayBeRunBy s.world.store.snapshot (.createSession n) := hmay
  rw [runGuarded_of_may hlet, view_createSession]
  constructor
  · intro fault hfault
    rw [hfault]
    rfl
  · intro hsound
    rw [NewSession.firstBroken?_eq_none_iff.mpr hsound]
    have hid : (Operation.createSession n).HasId := fun _ hid => nomatch hid
    obtain ⟨post, hasked, hleads, hdelivered⟩ :=
      Client.perform_delivers (e := x.surroundings) horigin (hproven hmay) hshow hid
        (show "/sessions".length ≤ "/auth/login".length by decide)
    obtain ⟨hmethod, htarget⟩ := Prod.mk.inj hasked.line
    refine ⟨post, hmethod, htarget, hleads, isSaidBy_of_isCarriedBy hasked.body,
      fun htaken => ?_, fun huntaken => ?_⟩
    · rcases hrun : (s.app.client.perform (.createSession n)).run x.surroundings s.world with
        ⟨result, w⟩
      have hsent := hdelivered.taken htaken
      rw [hrun] at hsent
      rw [ask_run Display.session hrun]
      exact hsent
    · rw [ask_run Display.session (hdelivered.untaken huntaken)]
      rfl

end

/-- **Creating a session sends exactly what was asked for, or nothing.** For an application
at an origin with somebody signed in, whatever has been done with it before, whatever is asked
for and whatever the service does. -/
theorem creation_sends_what_was_asked_for {settings : Settings} {base : Url} {persists : Bool}
    {files : Files} {input : List UInt8} {deeds : List (Context × Deed)}
    (horigin : IsOrigin settings.baseUrl base)
    (hquiet : ∀ step ∈ deeds, step.1.surroundings.Quiet)
    (hmay : HasCredential
      ((Scene.opening settings persists files input).after deeds).world.store.snapshot)
    (x : Context) (n : NewSession) :
    Creates base x ((Scene.opening settings persists files input).after deeds) n
      ((runCommand x (.guarded (.createSession n))).run
        ((Scene.opening settings persists files input).after deeds)) := by
  obtain ⟨email, hsettings⟩ := after_settings (Scene.opening settings persists files input) deeds
  refine runGuarded_creates ?_ hmay (after_presentable hquiet) (after_proven hquiet)
  rw [App.client, hsettings]
  exact horigin

/-- A lesson of an hour and a half for anybody who comes. -/
def lesson : NewSession where
  title := "Serve practice"
  startsAt := ⟨⟨2026, 3, 1, by decide⟩, 36000, 0, by decide⟩
  endsAt := ⟨⟨2026, 3, 1, by decide⟩, 41400, 0, by decide⟩
  maxParticipants := none
  priceCents := some 2500
  currency := none

/-- A lesson that ends when it starts. -/
def emptyLesson : NewSession := { lesson with endsAt := lesson.startsAt }

/-- The settings of an application at an origin. -/
def originSettings : Settings := { Settings.initial with baseUrl := plainClient.baseUrl }

/-- A coach signs in. -/
def coachVisit : List (Context × Deed) :=
  deedsAmid (signInScript "tok" ⟨"c@x", ["coach"]⟩) [.signIn ⟨"c@x", "p"⟩]

/-- The application after that. -/
def coachAtOrigin : Scene := (Scene.opening originSettings false [] []).after coachVisit

theorem deafContext_takes (earlier : List Request) (r : Request) :
    deafContext.surroundings.service earlier r ≠ .unreachable := by
  simp [deafContext, Surroundings.answering]

/-- The coach asks for the lesson, with its price and without a number of participants; a
lesson that ends when it starts is not asked for. -/
theorem lesson_is_asked_for :
    (∃ base, IsOrigin originSettings.baseUrl base) ∧
      (∀ step ∈ coachVisit, step.1.surroundings.Quiet) ∧
      HasCredential coachAtOrigin.world.store.snapshot ∧
      (runCommand deafContext (.guarded (.createSession emptyLesson))).run coachAtOrigin =
        (.error (.invalidSession .endNotAfterStart), coachAtOrigin) ∧
      ∃ post later,
        ((runCommand deafContext (.guarded (.createSession lesson))).run
          coachAtOrigin).2.world.traffic.requests =
            coachAtOrigin.world.traffic.requests ++ post :: later ∧
        post.method = "POST" ∧ post.url.target = "/sessions" ∧ lesson.IsSaidBy post.body ∧
        lesson.Gives "price_cents" ∧ ¬ lesson.Gives "max_participants" := by
  have horigin : ∃ base, IsOrigin originSettings.baseUrl base := isOrigin_plainClient
  have hquiet : ∀ step ∈ coachVisit, step.1.surroundings.Quiet := deedsAmid_quiet _ _
  have hauth : ((Scene.opening originSettings false [] []).after
      coachVisit).world.store.snapshot.isAuthenticated = true := by decide +kernel
  have hmay := (isAuthenticated_iff _).mp hauth
  obtain ⟨base, hbase⟩ := horigin
  have hcreates := creation_sends_what_was_asked_for hbase hquiet hmay deafContext
  have hempty : emptyLesson.firstBroken? = some .endNotAfterStart := by decide +kernel
  have hsound : ∀ fault, ¬ lesson.Breaks fault :=
    NewSession.firstBroken?_eq_none_iff.mp (by decide +kernel)
  have hgives : lesson.Gives "price_cents" ∧ ¬ lesson.Gives "max_participants" := by
    simp [NewSession.Gives, lesson]
  unfold coachAtOrigin
  -- what has been done before does not matter any more
  generalize (Scene.opening originSettings false [] []).after coachVisit = s at hmay hcreates ⊢
  obtain ⟨post, hmethod, htarget, -, hsaid, htaken, -⟩ := (hcreates lesson).sent hsound
  obtain ⟨later, hsent, -⟩ := htaken (deafContext_takes _ post)
  exact ⟨⟨base, hbase⟩, hquiet, hmay, (hcreates emptyLesson).refused _ hempty, post, later,
    hsent, hmethod, htarget, hsaid, hgives⟩

end CoachClient.Shell
