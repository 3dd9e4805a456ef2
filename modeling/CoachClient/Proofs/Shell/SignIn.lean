/-
CoachClient.Proofs.Shell.SignIn — signing in, as the application does it.

* `Scene.welcome` — remember who has signed in.
* `signIn_run_error`, `signIn_run_ok` — signing in does what the client does, and
  remembers who it was if that succeeds; nothing else is changed.
* `failed_signIn_leaves` — signing in that fails changes neither what is remembered
  nor the files. If the service has not yielded a token, the session stays as it was
  and nothing has been asked for but a token; if it has, nobody is signed in.
* `admin_is_signed_out` — a second sign in that gets as far as the token and no
  further.
-/
import CoachClient.Proofs.Service.Script
import CoachClient.Proofs.Service.Yield
import CoachClient.Proofs.Shell.Frame

namespace CoachClient.Shell

open CoachClient.Access CoachClient.Coaching CoachClient.Http CoachClient.Service
open CoachClient.Settings

/-! ## 1. Remembering who has signed in -/

/-- Remember who has signed in, and with which email. -/
def Scene.welcome (x : Context) (email : String) (profile : Profile) (s : Scene) : Scene :=
  let s := s.rememberEmail x email
  { s with app := { s.app with identity := some profile } }

@[simp] theorem Scene.welcome_identity (x : Context) (email : String) (profile : Profile)
    (s : Scene) : (s.welcome x email profile).app.identity = some profile := rfl

@[simp] theorem Scene.welcome_world (x : Context) (email : String) (profile : Profile)
    (s : Scene) : (s.welcome x email profile).world = s.world := by
  unfold Scene.welcome Scene.rememberEmail
  split <;> rfl

section
variable {x : Context} {credentials : Credentials} {s : Scene} {w : World}

/-- Nothing is remembered of somebody who has not got in. -/
theorem signIn_run_error {failure : Failure}
    (h : (s.app.client.signIn credentials).run x.surroundings s.world = (.error failure, w)) :
    (signIn x credentials).run s = (.error failure, { s with world := w }) := by
  rw [signIn, run_bind_of (carryOut_run h)]
  rfl

theorem signIn_run_ok {profile : Profile}
    (h : (s.app.client.signIn credentials).run x.surroundings s.world = (.ok profile, w)) :
    (signIn x credentials).run s =
      (.ok profile, ({ s with world := w } : Scene).welcome x credentials.email profile) := by
  rw [signIn, run_bind_of (carryOut_run h)]
  rfl

end

/-! ## 2. Failures -/

/-- **Signing in that fails leaves a well-defined state.** Whoever was signed in
before, stays as long as the service has not yielded a token, and then nothing is
asked for but a token. With a token and no identity nobody is signed in. Either way
the application remembers what it did, and so do the files. -/
theorem failed_signIn_leaves {x : Context} {credentials : Credentials} {s s' : Scene}
    {failure : Failure} (h : (signIn x credentials).run s = (.error failure, s')) :
    s'.app = s.app ∧ s'.files = s.files ∧
      ((∀ grant,
          ¬ s.app.client.Yields (.grantToken credentials) x.surroundings s.world grant) →
        s'.world.store = s.world.store.applyAll (x.surroundings.others s.world s'.world) ∧
        (x.surroundings.Quiet → s'.world.store = s.world.store) ∧
        ∃ sent, s'.world.traffic.requests = s.world.traffic.requests ++ sent ∧
          s.app.client.AsksOnly x.surroundings.service "POST" "/auth/login"
            s.world.traffic.requests sent) ∧
      ((∃ grant, s.app.client.Yields (.grantToken credentials) x.surroundings s.world grant) →
        s'.world.store.snapshot.credential? = none ∧ s'.world.store.snapshot.roles = []) := by
  rcases hrun : (s.app.client.signIn credentials).run x.surroundings s.world with ⟨result, w⟩
  cases result with
  | ok profile =>
    rw [signIn_run_ok hrun] at h
    cases (Prod.mk.inj h).1
  | error failure' =>
    rw [signIn_run_error hrun] at h
    obtain ⟨-, rfl⟩ := Prod.mk.inj h
    obtain ⟨hnone, hsome⟩ := signIn_failed hrun
    refine ⟨rfl, rfl, fun htoken => ?_, fun htoken => ?_⟩
    · obtain ⟨hstore, hsent⟩ := hnone htoken
      refine ⟨hstore, fun hquiet => ?_, hsent⟩
      rw [hstore, hquiet.others_eq]
      rfl
    · rw [hsome htoken]
      exact ⟨rfl, rfl⟩

/-- A scene in which an administrator is signed in. -/
def adminScene : Scene where
  app := { settings := { Settings.initial with lastEmail := some "a@x" }
           identity := some ⟨"a@x", ["admin"]⟩ }
  world := ⟨⟨.signedIn "old" ["admin"], 2⟩, Traffic.none⟩

/-- A service that grants a token and then does not say whose it is. -/
def halfwayService : Surroundings :=
  .answering [answerOf (.object [("access_token", .text "new")]), .full ⟨⟨403⟩, [], []⟩]

/-- The scene after somebody has tried to sign in there. -/
def afterHalfway : Except Failure Profile × Scene :=
  (signIn { environment := [], surroundings := halfwayService } ⟨"c@x", "p"⟩).run adminScene

/-- The administrator is remembered and not signed in any more, and the new token is
not kept. -/
theorem admin_is_signed_out :
    ∃ failure, afterHalfway = (.error failure, afterHalfway.2) ∧
      (∃ grant, adminScene.app.client.Yields (.grantToken ⟨"c@x", "p"⟩) halfwayService
        adminScene.world grant) ∧
      afterHalfway.2.app.identity = some ⟨"a@x", ["admin"]⟩ ∧
      afterHalfway.2.world.store.snapshot.credential? = none ∧
      afterHalfway.2.world.store.snapshot.roles = [] := by
  obtain ⟨failure, hfailed⟩ := eq_error_of_fst (p := afterHalfway) (by decide +kernel)
  have hgranted : ((adminScene.app.client.perform (.grantToken ⟨"c@x", "p"⟩)).run halfwayService
      adminScene.world).1.toOption = some ⟨"new"⟩ := by decide +kernel
  have hyields : ∃ grant, adminScene.app.client.Yields (.grantToken ⟨"c@x", "p"⟩) halfwayService
      adminScene.world grant :=
    ⟨_, (Client.perform_ok_iff grant_decodeNull).mp (congrArg Prod.fst (eq_ok_of_fst hgranted))⟩
  obtain ⟨happ, -, -, hleft⟩ := failed_signIn_leaves (s := adminScene) hfailed
  have hidentity : afterHalfway.2.app.identity = some ⟨"a@x", ["admin"]⟩ := by rw [happ]; rfl
  exact ⟨failure, hfailed, hyields, hidentity, hleft hyields⟩

end CoachClient.Shell
