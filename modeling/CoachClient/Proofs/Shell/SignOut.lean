/-
CoachClient.Proofs.Shell.SignOut — signing out, as the application does it.

* `farewell`, `logout_run` — the command says what came of it, forgets who was signed in,
  and does nothing else but what the client does.
* `Deed.act_anonymous`, `after_anonymous` — as long as nobody signs in, nobody is signed
  in: a deed that comes to no sign in leaves the session or clears it, and a sign in that
  fails does the same.
* `logout_signs_out` — the command never fails and always signs out, and until somebody
  signs in again the guarded regions stay closed.
* `admin_cannot_return` — an administrator signs out of a service that is gone.

The session is cleared by the last step of the client and not by the answer of the
service, so what the service does only decides about the words.
-/
import CoachClient.Proofs.Service.SignOut
import CoachClient.Proofs.Shell.Prompt

namespace CoachClient.Shell

open CoachClient.Access CoachClient.Coaching CoachClient.Command CoachClient.Http
open CoachClient.Service CoachClient.Settings

/-! ## 1. The command -/

/-- What is said to somebody who has signed out. -/
def farewell : Except Failure Unit → String
  | .ok () => "Signed out."
  | .error failure => "Signed out locally; the service reported: " ++ failure.message

/-- The scene after somebody has signed out. -/
def Scene.withoutUser (s : Scene) (w : World) : Scene :=
  { s with app := { s.app with identity := none }, world := w }

theorem logout_run {x : Context} {s : Scene} {result : Except Failure Unit} {w : World}
    (h : s.app.client.signOut.run x.surroundings s.world = (result, w)) :
    (runCommand x .logout).run s = (.ok (.rendered (farewell result)), s.withoutUser w) := by
  have hcommand : (runLogout x).run s = (.rendered (farewell result), s.withoutUser w) := by
    rw [runLogout, run_bind_of (carryOut_run h)]
    cases result with
    | error failure => rfl
    | ok _ => rfl
  rw [runCommand, run_bind_of hcommand]
  rfl

/-! ## 2. Until somebody signs in -/

section
variable {x : Context} {s : Scene}

/-- A sign in that fails does not sign anybody in. -/
theorem failed_signIn_anonymous (hquiet : x.surroundings.Quiet) {credentials : Credentials}
    (hfailed : ((signIn x credentials).run s).1.toOption = none)
    (h : s.world.store.snapshot = .anonymous) :
    ((signIn x credentials).run s).2.world.store.snapshot = .anonymous := by
  rcases hrun : (s.app.client.signIn credentials).run x.surroundings s.world with ⟨result, w⟩
  rcases signIn_cases hrun with ⟨failure, htoken, rfl⟩ | ⟨grant, w₁, -, hrest⟩
  · rw [signIn_run_error hrun]
    show w.store.snapshot = .anonymous
    rw [Client.perform_store hquiet htoken, h]
  rcases hrest with ⟨failure, w₂, -, rfl, rfl⟩ | ⟨profile, w₂, -, rfl, rfl⟩
  · rw [signIn_run_error hrun]
    rfl
  · rw [signIn_run_ok hrun] at hfailed
    cases hfailed

/-- A deed by which nobody signs in leaves nobody signed in. -/
theorem Deed.act_anonymous (hquiet : x.surroundings.Quiet) {d : Deed}
    (hnobody : d.signedIn? x s = none) (h : s.world.store.snapshot = .anonymous) :
    ((d.act x).run s).2.world.store.snapshot = .anonymous := by
  cases hattempt : d.attempt? x s with
  | none =>
    rcases Deed.act_of_none hquiet hattempt with hsame | hnone
    · rw [hsame.snapshot, h]
    · exact hnone
  | some attempt =>
    obtain ⟨credentials, s'⟩ := attempt
    obtain ⟨hact, -, hworld⟩ := Deed.act_of_attempt hattempt
    simp only [Deed.signedIn?, hattempt, Option.bind_some] at hnobody
    rw [hact]
    exact failed_signIn_anonymous hquiet hnobody (by rw [hworld, h])

/-- And so do any number of them. -/
theorem after_anonymous {deeds : List (Context × Deed)}
    (hquiet : ∀ step ∈ deeds, step.1.surroundings.Quiet) (hnobody : s.signIns deeds = [])
    (h : s.world.store.snapshot = .anonymous) :
    (s.after deeds).world.store.snapshot = .anonymous := by
  induction deeds generalizing s with
  | nil => exact h
  | cons step deeds ih =>
    obtain ⟨x, d⟩ := step
    obtain ⟨hfirst, hrest⟩ := List.append_eq_nil_iff.mp hnobody
    have hstep := Deed.act_anonymous (hquiet _ List.mem_cons_self)
      (Option.toList_eq_nil_iff.mp hfirst) h
    exact ih (fun later hlater => hquiet later (List.mem_cons_of_mem _ hlater)) hrest hstep

/-- Nobody who is not signed in may run a guarded command. -/
theorem not_mayBeRunBy_anonymous (c : GuardedCommand) : ¬ MayBeRunBy .anonymous c := by
  intro hmay
  obtain ⟨credential, hcredential⟩ := hmay.hasCredential
  cases hcredential

end

/-! ## 3. Signing out -/

/-- What has happened when somebody has signed out. -/
structure SignsOut (x : Context) (s : Scene) (run : Except Trouble Outcome × Scene) : Prop where
  /-- It is never an error: the words say what came of it. -/
  outcome : run.1 =
    .ok (.rendered (farewell (s.app.client.signOut.run x.surroundings s.world).1))
  /-- The service has been asked for it with the credential that was in force, and for
  nothing else. -/
  request : ∃ sent, run.2.world.traffic.requests = s.world.traffic.requests ++ sent ∧
    s.app.client.AsksOnly x.surroundings.service "POST" "/auth/logout" s.world.traffic.requests
      sent ∧
    ∀ first ∈ sent.head?, s.app.client.Presents s.world.store.snapshot.credential? first
  credential : run.2.world.store.snapshot.credential? = none
  roles : run.2.world.store.snapshot.roles = []
  identity : run.2.app.identity = none
  /-- Until somebody signs in, guarded commands lead to where that can be done, and do
  nothing else. -/
  closed : ∀ deeds : List (Context × Deed), (∀ step ∈ deeds, step.1.surroundings.Quiet) →
    run.2.signIns deeds = [] → ∀ (x' : Context) (c : GuardedCommand),
      (runCommand x' (.guarded c)).run (run.2.after deeds) =
        (.ok (.redirected s.app.settings.loginPath), run.2.after deeds)

/-- **Signing out always signs out.** At every scene, and whatever the service does with
the request. For the client it is an error exactly if the service has not acknowledged it,
and the session is cleared then as well. -/
theorem logout_signs_out :
    (∀ (x : Context) (s : Scene), SignsOut x s ((runCommand x .logout).run s)) ∧
      ∀ (c : Client) (e : Surroundings) (w : World),
        ((∃ failure, (c.signOut.run e w).1 = .error failure) ↔ ¬ c.Acknowledges e w) ∧
          (c.signOut.run e w).2.store.snapshot = .anonymous := by
  constructor
  · intro x s
    rcases hrun : s.app.client.signOut.run x.surroundings s.world with ⟨result, w⟩
    have hnobody : w.store.snapshot = .anonymous := by
      have hstore := signOut_store x.surroundings s.app.client s.world
      rwa [hrun] at hstore
    have hsent := signOut_sent x.surroundings s.app.client s.world
    rw [logout_run hrun]
    rw [hrun] at hsent
    refine ⟨by rw [hrun], hsent, ?_, ?_, rfl, ?_⟩
    · exact congrArg Snapshot.credential? hnobody
    · exact congrArg Snapshot.roles hnobody
    · intro deeds hquiet hnone x' c
      have hafter : ((s.withoutUser w).after deeds).world.store.snapshot = .anonymous :=
        after_anonymous hquiet hnone hnobody
      obtain ⟨email, hsettings⟩ := after_settings (s.withoutUser w) deeds
      have hnot : ¬ MayBeRunBy ((s.withoutUser w).after deeds).world.store.snapshot c := by
        rw [hafter]
        exact not_mayBeRunBy_anonymous c
      rw [runCommand, runGuarded_of_not hnot, hsettings]
      rfl
  · intro c e w
    refine ⟨?_, signOut_store e c w⟩
    rw [← signOut_ok_iff]
    cases (c.signOut.run e w).1 with
    | error failure => simp
    | ok _ => simp

/-- A context with a service that closes every connection. -/
def deafContext : Context := { environment := [], surroundings := .answering [] }

/-- An administrator signs out of a service that is gone, tries to sign in again, and
cannot list the accounts. -/
theorem admin_cannot_return :
    let s := ((runCommand deafContext .logout).run adminScene).2
    let deeds := deedsAmid [] [.command .logout, .signIn ⟨"a@x", "p"⟩]
    (∀ step ∈ deeds, step.1.surroundings.Quiet) ∧ s.signIns deeds = [] ∧
      (runCommand deafContext (.guarded (.listAccounts .first))).run (s.after deeds) =
        (.ok (.redirected "/login"), s.after deeds) := by
  intro s deeds
  have hquiet : ∀ step ∈ deeds, step.1.surroundings.Quiet := by
    intro step hstep
    obtain ⟨d, -, rfl⟩ := List.mem_map.mp hstep
    intro n
    rfl
  have hnobody : s.signIns deeds = [] := by decide +kernel
  exact ⟨hquiet, hnobody,
    (logout_signs_out.1 deafContext adminScene).closed deeds hquiet hnobody deafContext _⟩

end CoachClient.Shell
