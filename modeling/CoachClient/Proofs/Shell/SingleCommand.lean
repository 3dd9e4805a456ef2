/-
CoachClient.Proofs.Shell.SingleCommand — a run of the program for a single command.

* `runOnce_alone`, `runOnce_of_error`, `runOnce_of_ok` — a single command by itself, and
  behind a sign in that fails or succeeds.
* `Start.Runs`, `Start.Runs.run_eq` — the program is run for this command.
* `IsGuarded`, `runGuarded_isGuarded` — what a guarded command may do after all that.
* `runLogin_world` — the command to sign in does so once at most.
* `SignsInFirst`, `single_command_signs_in_first` — the whole run: signing in comes first
  and is the end of it if it fails.
* `coach_is_redirected` — a coach who asks for accounts.

All that may be sent is what the programs of the client send, one after the other: at most
a sign in from nothing, and behind it at most the operation of the command. The first is
over before the second begins, so what it has sent comes first.
-/
import CoachClient.Proofs.Service.Sending
import CoachClient.Proofs.Shell.Program
import CoachClient.Proofs.Shell.SignOut

namespace CoachClient.Shell

open CoachClient.Access CoachClient.Coaching CoachClient.Command CoachClient.Http
open CoachClient.Service CoachClient.Settings CoachClient.Text

/-! ## 1. A single command -/

/-- How the program ends with what its command produces. -/
def reported : Except Trouble Outcome → UInt32 × List Printed
  | .ok outcome => (0, outcome.printed)
  | .error trouble => (1, [complaint trouble.describe])

section
variable {x : Context} {c : Command} {s s' : Scene} {credentials : Credentials}

/-- Behind a first step that has not failed the command is run and reported on. -/
theorem runOnce_of_first {first : Option (Except Failure Profile)}
    (hfirst : (if signsInFirst c then signInFromEnvironment x else pure none).run s = (first, s'))
    (hfailed : ∀ failure, first ≠ some (.error failure)) :
    (runOnce x c).run s = (reported ((runCommand x c).run s').1, ((runCommand x c).run s').2) := by
  rcases hrun : (runCommand x c).run s' with ⟨result, s''⟩
  rw [runOnce, run_bind_of hfirst]
  split
  · rename_i failure
    exact absurd rfl (hfailed failure)
  · rw [run_bind_of hrun]
    cases result with
    | error trouble => rfl
    | ok outcome => rfl

/-- Without a sign in before it, a command is all there is. -/
theorem runOnce_alone (h : signsInFirst c = false ∨ credentialsOf? x.environment = none) :
    (runOnce x c).run s = (reported ((runCommand x c).run s).1, ((runCommand x c).run s).2) := by
  have hfirst : (if signsInFirst c then signInFromEnvironment x else pure none).run s =
      (none, s) := by
    rcases h with h | h
    · rw [h]
      rfl
    · split
      · simp only [signInFromEnvironment, h]
        rfl
      · rfl
  refine runOnce_of_first hfirst ?_
  intro failure hfailed
  cases hfailed

theorem signInFromEnvironment_run {result : Except Failure Profile} (hc : signsInFirst c = true)
    (hcredentials : credentialsOf? x.environment = some credentials)
    (h : (signIn x credentials).run s = (result, s')) :
    (if signsInFirst c then signInFromEnvironment x else pure none).run s = (some result, s') := by
  rw [hc, if_pos rfl]
  simp only [signInFromEnvironment, hcredentials]
  rw [run_bind_of h]
  rfl

/-- A sign in that fails is the end of the run. -/
theorem runOnce_of_error {failure : Failure} (hc : signsInFirst c = true)
    (hcredentials : credentialsOf? x.environment = some credentials)
    (h : (signIn x credentials).run s = (.error failure, s')) :
    (runOnce x c).run s = (reported (.error (.service failure)), s') := by
  rw [runOnce, run_bind_of (signInFromEnvironment_run hc hcredentials h)]
  rfl

/-- After one that succeeds the command is run. -/
theorem runOnce_of_ok {profile : Profile} (hc : signsInFirst c = true)
    (hcredentials : credentialsOf? x.environment = some credentials)
    (h : (signIn x credentials).run s = (.ok profile, s')) :
    (runOnce x c).run s =
      (reported ((runCommand x c).run s').1, ((runCommand x c).run s').2) := by
  refine runOnce_of_first (signInFromEnvironment_run hc hcredentials h) ?_
  intro failure hfailed
  cases hfailed

end

/-! ## 2. A run for a single command -/

/-- The program is run for a single command, with settings that are valid. -/
structure Start.Runs (start : Start) (settings : Settings) (c : Command) : Prop where
  reads : ∃ invocation, readInvocation start.arguments = .ok invocation ∧
    invocation.command = some c ∧
    settings =
      effectiveSettings start.machine start.fullEnvironment start.files invocation.overrides
  valid : settings.fault? = none
  single : c ≠ .shell

/-- The end of a run, from what is left of it. -/
def finishOf (final : (UInt32 × List Printed) × Scene) : Finish :=
  final.2.finish final.1.1 final.1.2

section
variable {start : Start} {settings : Settings} {c : Command}

/-- Then the run is that of the command at the scene of the start. -/
theorem Start.Runs.run_eq (h : start.Runs settings c) :
    run start = finishOf ((runOnce start.context c).run (start.scene settings)) := by
  obtain ⟨⟨invocation, hread, hcommand, rfl⟩, hvalid, hsingle⟩ := h
  unfold run
  rw [hread]
  simp only [hvalid, hcommand]
  have hinvocation : runInvocation start.context (some c) = runOnce start.context c := by
    cases c with
    | shell => exact absurd rfl hsingle
    | _ => rfl
  rw [← hinvocation]
  rfl

end

/-! ## 3. Guarded commands -/

/-- The end of a run that has come to a guarded command in the world `w`. -/
structure IsGuarded (settings : Settings) (e : Surroundings) (w : World) (g : GuardedCommand)
    (finish : Finish) : Prop where
  /-- Nothing is done but the operation of the command. -/
  own : finish.world = w ∨
    finish.world = ((settings.client.perform (operationOf g)).run e w).2
  /-- Its request is sent only for those who may run the command. -/
  request : ∃ sent, finish.world.traffic.requests = w.traffic.requests ++ sent ∧
    ∀ first ∈ sent.head?, MayBeRunBy w.store.snapshot g ∧
      settings.client.Issues (operationOf g) w.store.snapshot.credential? w.traffic.jar first
  /-- The others are told where to sign in, and that is all. -/
  turnedAway : ¬ MayBeRunBy w.store.snapshot g →
    finish.world = w ∧ finish.code = 0 ∧
      finish.printed = [.out ("redirect: " ++ settings.loginPath ++ "\n")]

/-- A guarded command does what it may, wherever it is run. -/
theorem runGuarded_isGuarded {settings : Settings} {s : Scene} (x : Context) (g : GuardedCommand)
    (hsettings : ∃ email, s.app.settings = { settings with lastEmail := email }) :
    IsGuarded settings x.surroundings s.world g
      (finishOf (reported ((runGuarded x g).run s).1, ((runGuarded x g).run s).2)) := by
  obtain ⟨email, hsettings⟩ := hsettings
  have hclient : s.app.client = settings.client := by
    rw [App.client, hsettings]
    rfl
  have hpath : s.app.settings.loginPath = settings.loginPath := by rw [hsettings]
  by_cases hmay : MayBeRunBy s.world.store.snapshot g
  · refine ⟨?_, ?_, fun hnot => absurd hmay hnot⟩
    · rw [runGuarded_of_may hmay]
      rcases view_cases x g s with ⟨fault, hview⟩ | ⟨render, hview⟩
      · rw [hview]
        exact Or.inl rfl
      · rcases hrun : (s.app.client.perform (operationOf g)).run x.surroundings s.world with
          ⟨result, w⟩
        rw [hview, ask_run render hrun, ← hclient, hrun]
        exact Or.inr rfl
    · rw [runGuarded_of_may hmay]
      rcases view_sent x g s with hsame | ⟨first, later, hissues, hsent⟩
      · exact ⟨[], by simp [finishOf, Scene.finish, hsame], by simp⟩
      · rw [hclient] at hissues
        refine ⟨first :: later, hsent, fun r hr => ?_⟩
        obtain rfl : first = r := Option.some.inj hr
        exact ⟨hmay, hissues⟩
  · rw [runGuarded_of_not hmay, hpath]
    refine ⟨Or.inl rfl, ⟨[], ?_, ?_⟩, fun _ => ⟨rfl, rfl, rfl⟩⟩
    · simp [finishOf, Scene.finish]
    · intro first hfirst
      cases hfirst

/-! ## 4. The command to sign in -/

/-- The command signs in once at most, with the email it is given, and sends nothing else. -/
theorem runLogin_world (x : Context) (given : Option String) (s : Scene) :
    ((runLogin x given).run s).2.world = s.world ∨
      ∃ credentials : Credentials, (∀ email, given = some email → credentials.email = email) ∧
        ((runLogin x given).run s).2.world =
          ((s.app.client.signIn credentials).run x.surroundings s.world).2 := by
  obtain ⟨result, rest, hemail⟩ := findEmail_run x given s
  cases result with
  | error trouble =>
    rw [runLogin, run_bind_of hemail]
    exact Or.inl rfl
  | ok email =>
    cases hpassword : findPassword x with
    | error trouble =>
      rw [runLogin, run_bind_of hemail]
      simp only [hpassword]
      exact Or.inl rfl
    | ok password =>
      refine Or.inr ⟨⟨email, password⟩, ?_, ?_⟩
      · rintro asked rfl
        exact (Except.ok.inj (congrArg Prod.fst hemail)).symm
      · rw [runLogin_of_ok hemail hpassword]
        rcases hrun : (s.app.client.signIn ⟨email, password⟩).run x.surroundings s.world with
          ⟨signedIn, w⟩
        cases signedIn with
        | error failure =>
          rw [signIn_run_error (s := { s with input := rest }) hrun]
        | ok profile =>
          rw [signIn_run_ok (s := { s with input := rest }) hrun]
          exact Scene.welcome_world ..

/-! ## 5. The whole run -/

/-- Signing in from nothing, as a run begins. -/
def signInAtFirst (settings : Settings) (e : Surroundings) (credentials : Credentials) :
    Except Failure Profile × World :=
  (settings.client.signIn credentials).run e World.fresh

/-- The end of a run that begins with signing in. -/
structure SignsInFirst (settings : Settings) (e : Surroundings) (credentials : Credentials)
    (c : Command) (finish : Finish) : Prop where
  /-- The requests of the sign in come first, -/
  begins : ∃ sent, finish.world.traffic.requests =
    (signInAtFirst settings e credentials).2.traffic.requests ++ sent
  /-- the first of all asks for a token with just these credentials. -/
  asks : ∀ first ∈ (signInAtFirst settings e credentials).2.traffic.requests.head?,
    settings.client.Issues (.grantToken credentials) none World.fresh.traffic.jar first
  /-- If it fails, so does the run, and nothing else is done. -/
  stops : ∀ failure, (signInAtFirst settings e credentials).1 = .error failure →
    finish.code = 1 ∧ finish.world = (signInAtFirst settings e credentials).2
  /-- If not, a guarded command does what it may. -/
  guarded : ∀ profile, (signInAtFirst settings e credentials).1 = .ok profile →
    ∀ g, c = .guarded g →
      IsGuarded settings e (signInAtFirst settings e credentials).2 g finish
  /-- Leaving is all the same to the service. -/
  leaves : c = .exit → finish.world = (signInAtFirst settings e credentials).2

section
variable {start : Start} {settings : Settings} {c : Command}

theorem credentialsOf?_of_filled {env : Environment} {email password : String}
    (hemail : env.filled? Environment.emailName = some email)
    (hpassword : env.filled? Environment.passwordName = some password) :
    credentialsOf? env = some ⟨email, password⟩ := by
  simp [credentialsOf?, hemail, hpassword]

theorem credentialsOf?_of_missing {env : Environment}
    (h : env.filled? Environment.emailName = none ∨ env.filled? Environment.passwordName = none) :
    credentialsOf? env = none := by
  rcases h with h | h
  · simp [credentialsOf?, h]
  · cases hemail : env.filled? Environment.emailName <;> simp [credentialsOf?, h, hemail]

/-- The first request of a sign in from nothing asks for a token. -/
theorem signInAtFirst_asks (settings : Settings) (e : Surroundings) (credentials : Credentials) :
    ∀ first ∈ (signInAtFirst settings e credentials).2.traffic.requests.head?,
      settings.client.Issues (.grantToken credentials) none World.fresh.traffic.jar first := by
  intro first hfirst
  rcases hrun : signInAtFirst settings e credentials with ⟨result, w⟩
  rw [hrun] at hfirst
  rcases Client.signIn_sent hrun with hsame | ⟨first', later, hissues, hsent⟩
  · rw [hsame] at hfirst
    cases hfirst
  · rw [hsent] at hfirst
    obtain rfl : first' = first := Option.some.inj hfirst
    exact hissues

/-- With credentials in the environment, a sign in that fails is all there is to the run. -/
theorem Start.Runs.signsInFirst_of_error (h : start.Runs settings c)
    (hc : Shell.signsInFirst c = true) {credentials : Credentials}
    (hcredentials : credentialsOf? start.fullEnvironment = some credentials) {failure : Failure}
    {w : World}
    (hrun : signInAtFirst settings start.surroundings credentials = (.error failure, w)) :
    SignsInFirst settings start.surroundings credentials c (run start) := by
  have hsignIn : (signIn start.context credentials).run (start.scene settings) =
      (.error failure, { start.scene settings with world := w }) := signIn_run_error hrun
  have hworld : (run start).world = w := by
    rw [h.run_eq, runOnce_of_error hc hcredentials hsignIn]
    rfl
  have hcode : (run start).code = 1 := by
    rw [h.run_eq, runOnce_of_error hc hcredentials hsignIn]
    rfl
  constructor
  · exact ⟨[], by rw [hworld, hrun, List.append_nil]⟩
  · exact signInAtFirst_asks settings start.surroundings credentials
  · exact fun _ _ => ⟨hcode, by rw [hworld, hrun]⟩
  · intro _ hok
    rw [hrun] at hok
    cases hok
  · exact fun _ => by rw [hworld, hrun]

/-- After a sign in that succeeds the command is run at the scene this leaves, with the
settings of the run but for the remembered email. -/
theorem Start.Runs.run_of_ok (h : start.Runs settings c) (hc : Shell.signsInFirst c = true)
    {credentials : Credentials}
    (hcredentials : credentialsOf? start.fullEnvironment = some credentials) {profile : Profile}
    {w : World} (hrun : signInAtFirst settings start.surroundings credentials = (.ok profile, w)) :
    ∃ s : Scene, s.world = w ∧
      (∃ email, s.app.settings = { settings with lastEmail := email }) ∧
      run start = finishOf (reported ((runCommand start.context c).run s).1,
        ((runCommand start.context c).run s).2) := by
  have hsignIn : (signIn start.context credentials).run (start.scene settings) =
      (.ok profile, Scene.welcome start.context credentials.email profile
        { start.scene settings with world := w }) := signIn_run_ok hrun
  have hsettings := (signIn_keeps (Remembers.allows start.context) credentials
    (start.scene settings)).settings
  rw [hsignIn] at hsettings
  refine ⟨_, Scene.welcome_world .., hsettings, ?_⟩
  rw [h.run_eq, runOnce_of_ok hc hcredentials hsignIn]

/-- And then a guarded command does what it may. -/
theorem Start.Runs.signsInFirst_of_ok (h : start.Runs settings c)
    (hcases : c = .exit ∨ ∃ g, c = .guarded g) {credentials : Credentials}
    (hcredentials : credentialsOf? start.fullEnvironment = some credentials) {profile : Profile}
    {w : World} (hrun : signInAtFirst settings start.surroundings credentials = (.ok profile, w)) :
    SignsInFirst settings start.surroundings credentials c (run start) := by
  have hasks := signInAtFirst_asks settings start.surroundings credentials
  have hstops : ∀ failure,
      (signInAtFirst settings start.surroundings credentials).1 ≠ .error failure := by
    intro failure hfailed
    rw [hrun] at hfailed
    cases hfailed
  rcases hcases with rfl | ⟨g, rfl⟩
  · obtain ⟨s, rfl, -, hfinish⟩ := h.run_of_ok rfl hcredentials hrun
    have hworld : (run start).world =
        (signInAtFirst settings start.surroundings credentials).2 := by
      rw [hfinish, hrun]
      rfl
    refine ⟨⟨[], ?_⟩, hasks, fun _ hfailed => absurd hfailed (hstops _), fun _ _ _ hg => ?_,
      fun _ => hworld⟩
    · rw [hworld, List.append_nil]
    · cases hg
  · obtain ⟨s, rfl, hsettings, hfinish⟩ := h.run_of_ok rfl hcredentials hrun
    have hguarded : IsGuarded settings start.surroundings
        (signInAtFirst settings start.surroundings credentials).2 g (run start) := by
      rw [hfinish, hrun]
      exact runGuarded_isGuarded start.context g hsettings
    obtain ⟨sent, hsent, -⟩ := hguarded.request
    refine ⟨⟨sent, hsent⟩, hasks, fun _ hfailed => absurd hfailed (hstops _), fun _ _ g' hg => ?_,
      fun hexit => ?_⟩
    · obtain rfl := Command.guarded.inj hg
      exact hguarded
    · cases hexit

/-- With credentials in the environment, signing in comes before the command. -/
theorem Start.Runs.signsInFirst (h : start.Runs settings c)
    (hcases : c = .exit ∨ ∃ g, c = .guarded g) {credentials : Credentials}
    (hcredentials : credentialsOf? start.fullEnvironment = some credentials) :
    SignsInFirst settings start.surroundings credentials c (run start) := by
  rcases hrun : signInAtFirst settings start.surroundings credentials with ⟨result, w⟩
  cases result with
  | error failure =>
    have hc : Shell.signsInFirst c = true := by
      rcases hcases with rfl | ⟨g, rfl⟩ <;> rfl
    exact h.signsInFirst_of_error hc hcredentials hrun
  | ok profile => exact h.signsInFirst_of_ok hcases hcredentials hrun

end

/-- **A single command signs in first, and that is all if it fails.** With an email and a
password in the environment that are not blank, a command that is not about signing in
comes behind a sign in with just these; it is run only if that succeeds, and if it is a
guarded one its request is sent only for those who may run it. With either of them
missing, a guarded command is turned away and nothing is sent. The commands to sign in and
to sign out do just that, once. -/
theorem single_command_signs_in_first {start : Start} {settings : Settings} {c : Command}
    (h : start.Runs settings c) :
    let env := start.fullEnvironment
    let e := start.surroundings
    (∀ email password, env.filled? Environment.emailName = some email →
        env.filled? Environment.passwordName = some password → (∀ given, c ≠ .login given) →
        c ≠ .logout → SignsInFirst settings e ⟨email, password⟩ c (run start)) ∧
      (∀ g, (env.filled? Environment.emailName = none ∨
          env.filled? Environment.passwordName = none) → c = .guarded g →
        (run start).world = World.fresh ∧ (run start).code = 0 ∧
          (run start).printed = [.out ("redirect: " ++ settings.loginPath ++ "\n")]) ∧
      (c = .logout → (run start).world = (settings.client.signOut.run e World.fresh).2) ∧
      ∀ given, c = .login given → (run start).world = World.fresh ∨
        ∃ credentials : Credentials, (∀ email, given = some email → credentials.email = email) ∧
          (run start).world = (signInAtFirst settings e credentials).2 := by
  intro env e
  refine ⟨fun email password hemail hpassword hlogin hlogout => ?_, fun g hmissing hg => ?_,
    fun hlogout => ?_, fun given hlogin => ?_⟩
  · have hcredentials : credentialsOf? start.fullEnvironment = some ⟨email, password⟩ :=
      credentialsOf?_of_filled hemail hpassword
    cases hcommand : c with
    | login given => exact absurd hcommand (hlogin given)
    | logout => exact absurd hcommand hlogout
    | shell => exact absurd hcommand h.single
    | exit =>
      rw [hcommand] at h
      exact h.signsInFirst (Or.inl rfl) hcredentials
    | guarded g =>
      rw [hcommand] at h
      exact h.signsInFirst (Or.inr ⟨g, rfl⟩) hcredentials
  · subst hg
    have hnone : credentialsOf? start.context.environment = none :=
      credentialsOf?_of_missing hmissing
    have hsettings : ∃ email,
        (start.scene settings).app.settings = { settings with lastEmail := email } :=
      ⟨settings.lastEmail, rfl⟩
    have hguarded : IsGuarded settings e World.fresh g (run start) := by
      rw [h.run_eq, runOnce_alone (Or.inr hnone)]
      exact runGuarded_isGuarded start.context g hsettings
    exact hguarded.turnedAway (not_mayBeRunBy_anonymous g)
  · subst hlogout
    rcases hrun : settings.client.signOut.run e World.fresh with ⟨result, w⟩
    have hlogout : (runCommand start.context .logout).run (start.scene settings) =
        (.ok (.rendered (farewell result)), (start.scene settings).withoutUser w) :=
      logout_run hrun
    rw [h.run_eq, runOnce_alone (Or.inl rfl), hlogout]
    rfl
  · subst hlogin
    rw [h.run_eq, runOnce_alone (Or.inl rfl)]
    exact runLogin_world start.context given (start.scene settings)

/-- A coach asks for accounts. -/
def coachStart : Start where
  arguments := ["admin", "users"]
  environment := [(Environment.emailName, "c@x"), (Environment.passwordName, "p")]
  files := []
  input := []
  surroundings := .answering (signInScript "tok" ⟨"c@x", ["coach"]⟩)

theorem coachStart_runs :
    coachStart.Runs Settings.initial (.guarded (.listAccounts .first)) where
  reads := by
    have hread : (readInvocation coachStart.arguments).toOption.map
        (fun i => (i.overrides, i.command)) =
          some ({}, some (.guarded (.listAccounts .first))) := by decide +kernel
    cases hinvocation : readInvocation coachStart.arguments with
    | error fault =>
      rw [hinvocation] at hread
      cases hread
    | ok invocation =>
      rw [hinvocation] at hread
      obtain ⟨hoverrides, hcommand⟩ := Prod.mk.inj (Option.some.inj hread)
      refine ⟨invocation, rfl, hcommand, ?_⟩
      simp only [hoverrides]
      decide +kernel
  valid := by decide +kernel
  single := by decide

/-- The coach is signed in and then told to sign in as somebody else. -/
theorem coach_is_redirected :
    coachStart.Runs Settings.initial (.guarded (.listAccounts .first)) ∧
      coachStart.fullEnvironment.filled? Environment.emailName = some "c@x" ∧
      coachStart.fullEnvironment.filled? Environment.passwordName = some "p" ∧
      (run coachStart).world.store.snapshot = .signedIn "tok" ["coach"] ∧
      (run coachStart).world.traffic.requests.length = 2 ∧
      (run coachStart).printed = [.out "redirect: /login\n"] := by
  have hemail : coachStart.fullEnvironment.filled? Environment.emailName = some "c@x" := by
    decide +kernel
  have hpassword : coachStart.fullEnvironment.filled? Environment.passwordName = some "p" := by
    decide +kernel
  have hfirst := (single_command_signs_in_first coachStart_runs).1 "c@x" "p" hemail hpassword
    (fun given => by simp) (by decide)
  have hok : (signInAtFirst Settings.initial coachStart.surroundings ⟨"c@x", "p"⟩).1 =
      .ok ⟨"c@x", ["coach"]⟩ := congrArg Prod.fst (eq_ok_of_fst (by decide +kernel))
  have hsnapshot : (signInAtFirst Settings.initial coachStart.surroundings
      ⟨"c@x", "p"⟩).2.store.snapshot = .signedIn "tok" ["coach"] := by decide +kernel
  have hlength : (signInAtFirst Settings.initial coachStart.surroundings
      ⟨"c@x", "p"⟩).2.traffic.requests.length = 2 := by decide +kernel
  have hnot : ¬ MayBeRunBy (signInAtFirst Settings.initial coachStart.surroundings
      ⟨"c@x", "p"⟩).2.store.snapshot (.listAccounts .first) := by
    rw [hsnapshot]
    rintro ⟨-, hrole⟩
    exact absurd hrole (by decide)
  obtain ⟨hworld, -, hprinted⟩ := (hfirst.guarded _ hok _ rfl).turnedAway hnot
  exact ⟨coachStart_runs, hemail, hpassword, by rw [hworld, hsnapshot], by rw [hworld, hlength],
    hprinted⟩

end CoachClient.Shell
