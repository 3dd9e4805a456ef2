/-
CoachClient.Proofs.Shell.Regions — who gets through to the service.

* `GuardedCommand.MayBeRunBy` — who may run a command: for each command by
  itself, whatever region it has been put into.
* `decide_guard` — the guard of its region decides just that.
* `GuardedCommand.operation`, `view_sent` — a command that is let in sends
  nothing, or begins with the request of its own operation.
* `guarded_authorized` — over all that has been done before: the request of a
  guarded command goes out only for those who may run it, with their credential
  as its one authorization header, and for the others nothing happens.
* `guarded_credential_accepted` — and the credential is never what keeps the
  request of somebody who may run the command from going out.
-/
import CoachClient.Proofs.Shell.Run

namespace CoachClient.Shell

open CoachClient.Access CoachClient.Command CoachClient.Http CoachClient.Service
open CoachClient.Settings

/-! ## 1. Who may run what -/

/-- Somebody is signed in. -/
def HasCredential (who : Snapshot) : Prop := ∃ credential, who.credential? = some credential

/-- The commands about oneself and one's sessions are for everybody with a
credential, those about accounts only for administrators among them. -/
def MayBeRunBy (who : Snapshot) : GuardedCommand → Prop
  | .whoami => HasCredential who
  | .listSessions => HasCredential who
  | .showSession _ => HasCredential who
  | .createSession _ => HasCredential who
  | .cancelSession _ => HasCredential who
  | .listAccounts _ => HasCredential who ∧ "admin" ∈ who.roles
  | .grantRole _ _ => HasCredential who ∧ "admin" ∈ who.roles
  | .revokeRole _ _ => HasCredential who ∧ "admin" ∈ who.roles
  | .disable _ _ => HasCredential who ∧ "admin" ∈ who.roles
  | .reenable _ => HasCredential who ∧ "admin" ∈ who.roles

theorem isAuthenticated_iff (who : Snapshot) : who.isAuthenticated = true ↔ HasCredential who :=
  Option.isSome_iff_exists

theorem decide_dashboard (a : App) (who : Snapshot) :
    ((a.guard .dashboard).decide who = .allow ∧ HasCredential who) ∨
      ((a.guard .dashboard).decide who = .redirect a.settings.loginPath ∧ ¬ HasCredential who) := by
  rw [← isAuthenticated_iff]
  cases h : who.isAuthenticated <;> simp [App.guard, Guard.decide, h]

theorem decide_administration (a : App) (who : Snapshot) :
    ((a.guard .administration).decide who = .allow ∧ HasCredential who ∧ "admin" ∈ who.roles) ∨
      ((a.guard .administration).decide who = .redirect a.settings.loginPath ∧
        ¬ (HasCredential who ∧ "admin" ∈ who.roles)) := by
  rw [← isAuthenticated_iff]
  cases h : who.isAuthenticated with
  | false => simp [App.guard, Guard.decide, h]
  | true =>
    by_cases hrole : "admin" ∈ who.roles <;>
      simp [App.guard, Guard.decide, Snapshot.hasAnyRole, Snapshot.hasRole, adminRole, h, hrole]

theorem mayBeRunBy_of_dashboard {c : GuardedCommand} (h : c.region = .dashboard)
    (who : Snapshot) : MayBeRunBy who c ↔ HasCredential who := by
  cases c <;> first | exact Iff.rfl | exact nomatch h

theorem mayBeRunBy_of_administration {c : GuardedCommand} (h : c.region = .administration)
    (who : Snapshot) : MayBeRunBy who c ↔ HasCredential who ∧ "admin" ∈ who.roles := by
  cases c <;> first | exact Iff.rfl | exact nomatch h

/-- The guard of the region of a command lets in exactly those who may run it. -/
theorem decide_guard (a : App) (c : GuardedCommand) (who : Snapshot) :
    ((a.guard c.region).decide who = .allow ∧ MayBeRunBy who c) ∨
      ((a.guard c.region).decide who = .redirect a.settings.loginPath ∧ ¬ MayBeRunBy who c) := by
  cases h : c.region with
  | dashboard =>
    rw [mayBeRunBy_of_dashboard h]
    exact decide_dashboard a who
  | administration =>
    rw [mayBeRunBy_of_administration h]
    exact decide_administration a who

theorem MayBeRunBy.hasCredential {who : Snapshot} {c : GuardedCommand} (h : MayBeRunBy who c) :
    HasCredential who := by
  cases hregion : c.region with
  | dashboard => exact (mayBeRunBy_of_dashboard hregion who).mp h
  | administration => exact ((mayBeRunBy_of_administration hregion who).mp h).1

/-! ## 2. What a command sends -/

/-- What a command asks of the service. -/
def operationOf : GuardedCommand → Operation
  | .whoami => .identity
  | .listSessions => .listSessions
  | .showSession id => .showSession id
  | .createSession session => .createSession session
  | .cancelSession id => .cancelSession id
  | .listAccounts page => .listAccounts page
  | .grantRole id role => .grantRole id role
  | .revokeRole id role => .revokeRole id role
  | .disable id reason => .disable id reason
  | .reenable id => .reenable id

/-- What is shown of a result. -/
def shownOf {α : Type} (render : α → String) : Except Failure α → Except Trouble String
  | .ok answer => .ok (render answer)
  | .error failure => .error (.service failure)

/-- Asking leaves the world that the operation leaves, and changes nothing else. -/
theorem ask_run {x : Context} {o : Operation} {s : Scene} {result : Except Failure o.Result}
    {w' : World} (render : o.Result → String)
    (h : (s.app.client.perform o).run x.surroundings s.world = (result, w')) :
    (ask x o render).run s = (shownOf render result, { s with world := w' }) := by
  rw [ask, run_bind_of (carryOut_run h)]
  cases result with
  | error failure => rfl
  | ok answer => rfl

/-- A command complains before anything is asked, or asks for its operation. -/
theorem view_cases (x : Context) (c : GuardedCommand) (s : Scene) :
    (∃ fault, (view x c).run s = (.error (.invalidSession fault), s)) ∨
      ∃ render, view x c = ask x (operationOf c) render := by
  cases c with
  | createSession session =>
    cases h : session.fault? with
    | some fault => exact Or.inl ⟨fault, by simp only [view, h]; rfl⟩
    | none => exact Or.inr ⟨Display.session, by simp only [view, h]; rfl⟩
  | _ => exact Or.inr ⟨_, rfl⟩

/-- A command that is let in sends nothing, or first of all the request of its
operation, with the credential of the moment. -/
theorem view_sent (x : Context) (c : GuardedCommand) (s : Scene) :
    ((view x c).run s).2.world = s.world ∨ ∃ first later,
      s.app.client.Issues (operationOf c) s.world.store.snapshot.credential? s.world.traffic.jar
        first ∧
      ((view x c).run s).2.world.traffic.requests =
        s.world.traffic.requests ++ first :: later := by
  rcases view_cases x c s with ⟨fault, hview⟩ | ⟨render, hview⟩
  · exact Or.inl (by rw [hview])
  · rcases h : (s.app.client.perform (operationOf c)).run x.surroundings s.world with ⟨result, w'⟩
    rw [hview, ask_run render h]
    exact Client.perform_sent h

/-! ## 3. Guarded commands -/

/-- Those who may not run a command are sent to where they can sign in, and that
is all. -/
theorem runGuarded_of_not {x : Context} {c : GuardedCommand} {s : Scene}
    (h : ¬ MayBeRunBy s.world.store.snapshot c) :
    (runGuarded x c).run s = (.ok (.redirected s.app.settings.loginPath), s) := by
  rcases decide_guard s.app c s.world.store.snapshot with ⟨-, hmay⟩ | ⟨hdecide, -⟩
  · exact absurd hmay h
  · simp only [runGuarded, Guard.enter, StateT.run_bind, StateT.run_get, pure_bind, hdecide]
    rfl

/-- For the others a command does what it does. -/
theorem runGuarded_of_may {x : Context} {c : GuardedCommand} {s : Scene}
    (h : MayBeRunBy s.world.store.snapshot c) :
    (runGuarded x c).run s =
      (((view x c).run s).1.map .rendered, ((view x c).run s).2) := by
  rcases decide_guard s.app c s.world.store.snapshot with ⟨hdecide, -⟩ | ⟨-, hnot⟩
  · simp only [runGuarded, Guard.enter, StateT.run_bind, StateT.run_get, pure_bind, hdecide]
    rfl
  · exact absurd h hnot

/-! ## 4. Over all that has been done before -/

/-- What a guarded command may have done at a scene, in an application with
given settings. -/
structure Authorized (settings : Settings) (s : Scene) (c : GuardedCommand)
    (run : Except Trouble Outcome × Scene) : Prop where
  /-- Its request goes out only for those who may run it, and shows nothing but
  their credential. -/
  request : ∃ sent, run.2.world.traffic.requests = s.world.traffic.requests ++ sent ∧
    ∀ first ∈ sent.head?, MayBeRunBy s.world.store.snapshot c ∧
      ∃ credential, s.world.store.snapshot.credential? = some credential ∧
        settings.client.Issues (operationOf c) (some credential) s.world.traffic.jar first ∧
        Headers.all authorization first.headers = [bearer credential]
  /-- For the others nothing is sent and nothing changes. -/
  turnedAway : ¬ MayBeRunBy s.world.store.snapshot c →
    run = (.ok (.redirected settings.loginPath), s)

theorem runGuarded_authorized {settings : Settings} {s : Scene} (x : Context) (c : GuardedCommand)
    (hclient : s.app.client = settings.client)
    (hpath : s.app.settings.loginPath = settings.loginPath) :
    Authorized settings s c ((runGuarded x c).run s) where
  request := by
    by_cases hmay : MayBeRunBy s.world.store.snapshot c
    · rw [runGuarded_of_may hmay]
      rcases view_sent x c s with hsame | ⟨first, later, hissues, hsent⟩
      · exact ⟨[], by simp [hsame], by simp⟩
      · obtain ⟨credential, hcredential⟩ := hmay.hasCredential
        rw [hclient, hcredential] at hissues
        refine ⟨first :: later, hsent, fun r hr => ?_⟩
        obtain rfl : first = r := Option.some.inj hr
        exact ⟨hmay, credential, hcredential, hissues, hissues.authorization⟩
    · rw [runGuarded_of_not hmay]
      exact ⟨[], by simp, by simp⟩
  turnedAway hnot := by rw [runGuarded_of_not hnot, hpath]

/-- **Guarded commands never reach the service without authorization.** Whatever
has been done with an application before, in whatever surroundings, and whatever
the service does. -/
theorem guarded_authorized (settings : Settings) (persists : Bool) (files : Files)
    (input : List UInt8) (deeds : List (Context × Deed)) (x : Context) (c : GuardedCommand) :
    Authorized settings ((Scene.opening settings persists files input).after deeds) c
      ((runCommand x (.guarded c)).run
        ((Scene.opening settings persists files input).after deeds)) := by
  obtain ⟨email, h⟩ := after_settings (Scene.opening settings persists files input) deeds
  refine runGuarded_authorized x c ?_ ?_
  · rw [App.client, h]
    rfl
  · rw [h]
    rfl

/-- As long as nobody else changes the session, it is never the credential that
keeps a guarded command from asking. -/
theorem guarded_credential_accepted {settings : Settings} {persists : Bool} {files : Files}
    {input : List UInt8} {deeds : List (Context × Deed)} (x : Context) (c : GuardedCommand)
    (hquiet : ∀ step ∈ deeds, step.1.surroundings.Quiet) :
    ((runCommand x (.guarded c)).run
      ((Scene.opening settings persists files input).after deeds)).1 ≠
        .error (.service (.refused .credential)) := by
  have hpresentable : ((Scene.opening settings persists files input).after deeds).Presentable :=
    after_presentable hquiet
  generalize (Scene.opening settings persists files input).after deeds = s at hpresentable ⊢
  show ((runGuarded x c).run s).1 ≠ _
  by_cases hmay : MayBeRunBy s.world.store.snapshot c
  · obtain ⟨credential, hcredential⟩ := hmay.hasCredential
    have hfits := hpresentable credential hcredential
    rw [runGuarded_of_may hmay]
    rcases view_cases x c s with ⟨fault, hview⟩ | ⟨render, hview⟩
    · rw [hview]
      simp [Except.map]
    · rcases h : (s.app.client.perform (operationOf c)).run x.surroundings s.world with ⟨result, w'⟩
      rw [hview, ask_run render h]
      cases result with
      | ok answer => simp [shownOf, Except.map]
      | error failure =>
        intro hrefused
        simp only [shownOf, Except.map, Except.error.injEq, Trouble.service.injEq] at hrefused
        subst hrefused
        have hrefuses := Client.perform_refused (congrArg Prod.fst h)
        rw [hcredential] at hrefuses
        exact not_refuses_credential hfits hrefuses
  · rw [runGuarded_of_not hmay]
    simp

end CoachClient.Shell
