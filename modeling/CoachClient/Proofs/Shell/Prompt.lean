/-
CoachClient.Proofs.Shell.Prompt — the prompt tells who is signed in.

* `Deed.attempt?` — how a deed comes to sign in, if it does: with which credentials
  and at which scene. `Deed.signedIn?` — who got in then.
* `Scene.signIns` — everybody who has signed in over a run, in order.
* `Deed.act_of_attempt`, `Deed.act_of_none` — a deed is the sign in it comes to; a
  deed that comes to none changes nothing about who is signed in, or signs out.
* `Scene.Agrees` — whoever is signed in is the one remembered, has signed in last and
  has the roles of the session.
* `Deed.act_agrees`, `after_agrees` — every deed keeps it that way, and so does a run.
* `prompt_tells_who_is_signed_in` — so the prompt is made from the identity of whoever
  is signed in, and says nothing of anybody when nobody is.

Identity and session are written at different moments: by a sign in that succeeds
first the session and then the identity, by one that fails the session alone, by
signing out both. `Agrees` only speaks of a session somebody is signed in to, so an
identity that is remembered longer does no harm.
-/
import CoachClient.Proofs.Shell.Regions
import CoachClient.Proofs.Shell.SignIn

namespace CoachClient.Shell

open CoachClient.Access CoachClient.Coaching CoachClient.Command CoachClient.Http
open CoachClient.Service CoachClient.Settings

/-! ## 1. Signing in by deeds -/

/-- How a deed comes to sign in: with which credentials, and at which scene. -/
def Deed.attempt? (x : Context) (s : Scene) : Deed → Option (Credentials × Scene)
  | .signIn credentials => some (credentials, s)
  | .signInFromEnvironment => (credentialsOf? x.environment).map fun c => (c, s)
  | .command (.login given) =>
    match (findEmail x given).run s, findPassword x with
    | (.ok email, s'), .ok password => some (⟨email, password⟩, s')
    | _, _ => none
  | .command _ => none

/-- Who signs in by a deed. -/
def Deed.signedIn? (x : Context) (s : Scene) (d : Deed) : Option Profile :=
  (d.attempt? x s).bind fun attempt => ((Shell.signIn x attempt.1).run attempt.2).1.toOption

/-- Everybody who signs in by deeds done one after the other. -/
def Scene.signIns (s : Scene) : List (Context × Deed) → List Profile
  | [] => []
  | (x, d) :: deeds => (d.signedIn? x s).toList ++ ((d.act x).run s).2.signIns deeds

section
variable {x : Context} {s : Scene}

/-- Finding the email reads what is typed, at most. -/
theorem findEmail_run (x : Context) (given : Option String) (s : Scene) :
    ∃ result rest, (findEmail x given).run s = (result, { s with input := rest }) := by
  unfold findEmail
  split
  · exact ⟨_, s.input, rfl⟩
  · unfold askEmail
    rcases hnext : x.reader.next s.input with ⟨line, rest⟩
    simp only [StateT.run_bind, StateT.run_get, pure_bind, hnext]
    cases line with
    | error fault => exact ⟨_, rest, rfl⟩
    | ok typed => exact ⟨_, rest, rfl⟩

/-- The command signs in once it has an email and a password. -/
theorem runLogin_of_ok {given : Option String} {email password : String} {s' : Scene}
    (hemail : (findEmail x given).run s = (.ok email, s'))
    (hpassword : findPassword x = .ok password) :
    ((runLogin x given).run s).2 = ((signIn x ⟨email, password⟩).run s').2 := by
  rcases hrun : (signIn x ⟨email, password⟩).run s' with ⟨result, s''⟩
  rw [runLogin, run_bind_of hemail]
  simp only [hpassword]
  rw [run_bind_of hrun]
  cases result with
  | error failure => rfl
  | ok profile => rfl

/-- A deed that comes to sign in does nothing else. -/
theorem Deed.act_of_attempt {d : Deed} {credentials : Credentials} {s' : Scene}
    (h : d.attempt? x s = some (credentials, s')) :
    ((d.act x).run s).2 = ((Shell.signIn x credentials).run s').2 ∧ s'.app = s.app ∧
      s'.world = s.world := by
  cases d with
  | signIn given =>
    obtain ⟨rfl, rfl⟩ := Prod.mk.inj (Option.some.inj h)
    exact ⟨rfl, rfl, rfl⟩
  | signInFromEnvironment =>
    obtain ⟨given, hgiven, hsame⟩ := Option.map_eq_some_iff.mp h
    obtain ⟨rfl, rfl⟩ := Prod.mk.inj hsame
    refine ⟨?_, rfl, rfl⟩
    simp only [Deed.act, Shell.signInFromEnvironment, hgiven]
    rfl
  | command c =>
    cases c with
    | login given =>
      obtain ⟨result, rest, hemail⟩ := findEmail_run x given s
      simp only [Deed.attempt?, hemail] at h
      cases result with
      | error trouble => cases h
      | ok email =>
        cases hpassword : findPassword x with
        | error trouble =>
          rw [hpassword] at h
          cases h
        | ok password =>
          rw [hpassword] at h
          obtain ⟨rfl, rfl⟩ := Prod.mk.inj (Option.some.inj h)
          exact ⟨runLogin_of_ok hemail hpassword, rfl, rfl⟩
    | logout => cases h
    | shell => cases h
    | exit => cases h
    | guarded c => cases h

/-- The same person is signed in and remembered, if anybody. -/
structure Scene.SameUser (s s' : Scene) : Prop where
  identity : s'.app.identity = s.app.identity
  snapshot : s'.world.store.snapshot = s.world.store.snapshot

/-- A guarded command is run for a user and does not change who that is. -/
theorem runGuarded_sameUser (hquiet : x.surroundings.Quiet) (c : GuardedCommand) :
    s.SameUser ((runGuarded x c).run s).2 := by
  by_cases hmay : MayBeRunBy s.world.store.snapshot c
  · rw [runGuarded_of_may hmay]
    rcases view_cases x c s with ⟨fault, hview⟩ | ⟨render, hview⟩
    · rw [hview]
      exact ⟨rfl, rfl⟩
    · rcases hrun : (s.app.client.perform (operationOf c)).run x.surroundings s.world with
        ⟨result, w⟩
      rw [hview, ask_run render hrun]
      exact ⟨rfl, congrArg Store.snapshot (Client.perform_store hquiet hrun)⟩
  · rw [runGuarded_of_not hmay]
    exact ⟨rfl, rfl⟩

/-- After signing out nobody is signed in. -/
theorem runLogout_anonymous (x : Context) (s : Scene) :
    ((runLogout x).run s).2.world.store.snapshot = .anonymous := by
  have hnobody := signOut_store x.surroundings s.app.client s.world
  rcases hrun : s.app.client.signOut.run x.surroundings s.world with ⟨result, w⟩
  rw [hrun] at hnobody
  rw [runLogout, run_bind_of (carryOut_run hrun)]
  cases result with
  | error failure => exact hnobody
  | ok _ => exact hnobody

/-- A deed that does not come to sign in leaves who was signed in, or nobody. -/
theorem Deed.act_of_none {d : Deed} (hquiet : x.surroundings.Quiet)
    (h : d.attempt? x s = none) :
    s.SameUser ((d.act x).run s).2 ∨
      ((d.act x).run s).2.world.store.snapshot = .anonymous := by
  cases d with
  | signIn given => cases h
  | signInFromEnvironment =>
    refine Or.inl ?_
    simp only [Deed.act, Shell.signInFromEnvironment, Option.map_eq_none_iff.mp h]
    exact ⟨rfl, rfl⟩
  | command c =>
    cases c with
    | login given =>
      refine Or.inl ?_
      obtain ⟨result, rest, hemail⟩ := findEmail_run x given s
      simp only [Deed.attempt?, hemail] at h
      simp only [Deed.act, runCommand, runLogin, StateT.run_bind, hemail]
      cases result with
      | error trouble => exact ⟨rfl, rfl⟩
      | ok email =>
        cases hpassword : findPassword x with
        | error trouble => exact ⟨rfl, rfl⟩
        | ok password =>
          rw [hpassword] at h
          cases h
    | logout => exact Or.inr (runLogout_anonymous x s)
    | shell => exact Or.inl ⟨rfl, rfl⟩
    | exit => exact Or.inl ⟨rfl, rfl⟩
    | guarded c => exact Or.inl (runGuarded_sameUser hquiet c)

end

/-! ## 2. What agrees at every moment -/

/-- Whoever is signed in is remembered, has signed in last, and has the roles of the
session. -/
def Scene.Agrees (s : Scene) (last : Option Profile) : Prop :=
  ∀ token roles, s.world.store.snapshot = .signedIn token roles →
    ∃ profile, s.app.identity = some profile ∧ last = some profile ∧ profile.roles = roles

namespace Scene.Agrees

variable {s s' : Scene} {last : Option Profile}

theorem of_anonymous (h : s.world.store.snapshot = .anonymous) : s.Agrees last := by
  intro token roles hsome
  rw [h] at hsome
  cases hsome

theorem of_sameUser (hsame : s.SameUser s') (h : s.Agrees last) : s'.Agrees last := by
  intro token roles hsome
  rw [hsame.snapshot] at hsome
  rw [hsame.identity]
  exact h token roles hsome

/-- The session that a sign in leaves is that of the profile. -/
theorem of_establish {profile : Profile} (token : String)
    (hidentity : s.app.identity = some profile)
    (h : s.world.store.snapshot = (Change.establish token profile.roles).result) :
    s.Agrees (some profile) := by
  intro token' roles hsome
  rw [h, Change.result] at hsome
  split at hsome
  · cases hsome
  · obtain ⟨-, hroles⟩ := Snapshot.signedIn.inj hsome
    exact ⟨profile, hidentity, rfl, hroles⟩

end Scene.Agrees

section
variable {x : Context} {s : Scene} {last : Option Profile}

/-- A sign in leaves things in agreement, whether it succeeds or not. -/
theorem signIn_agrees (hquiet : x.surroundings.Quiet) (h : s.Agrees last)
    (credentials : Credentials) :
    ((signIn x credentials).run s).2.Agrees
      (((signIn x credentials).run s).1.toOption.or last) := by
  rcases hrun : (s.app.client.signIn credentials).run x.surroundings s.world with ⟨result, w⟩
  rcases signIn_cases hrun with ⟨failure, htoken, rfl⟩ | ⟨grant, w₁, -, hrest⟩
  · -- no token: nothing has been written
    rw [signIn_run_error hrun]
    have hsame : s.SameUser { s with world := w } :=
      ⟨rfl, congrArg Store.snapshot (Client.perform_store hquiet htoken)⟩
    exact h.of_sameUser hsame
  rcases hrest with ⟨failure, w₂, -, rfl, rfl⟩ | ⟨profile, w₂, -, rfl, rfl⟩
  · rw [signIn_run_error hrun]
    exact Scene.Agrees.of_anonymous rfl
  · rw [signIn_run_ok hrun]
    refine Scene.Agrees.of_establish grant.accessToken (Scene.welcome_identity ..) ?_
    rw [Scene.welcome_world]
    rfl

/-- A deed keeps things in agreement. -/
theorem Deed.act_agrees (hquiet : x.surroundings.Quiet) (h : s.Agrees last) (d : Deed) :
    ((d.act x).run s).2.Agrees ((d.signedIn? x s).or last) := by
  cases hattempt : d.attempt? x s with
  | none =>
    have hnobody : d.signedIn? x s = none := by simp [Deed.signedIn?, hattempt]
    rw [hnobody, Option.none_or]
    rcases Deed.act_of_none hquiet hattempt with hsame | hnone
    · exact h.of_sameUser hsame
    · exact Scene.Agrees.of_anonymous hnone
  | some attempt =>
    obtain ⟨credentials, s'⟩ := attempt
    obtain ⟨hact, happ, hworld⟩ := Deed.act_of_attempt hattempt
    have hsomebody : d.signedIn? x s = ((Shell.signIn x credentials).run s').1.toOption := by
      simp [Deed.signedIn?, hattempt]
    have hbefore : s'.Agrees last := h.of_sameUser ⟨by rw [happ], by rw [hworld]⟩
    rw [hact, hsomebody]
    exact signIn_agrees hquiet hbefore credentials

/-- And so does a run: `last` is who has signed in before it. -/
theorem after_agrees {deeds : List (Context × Deed)}
    (hquiet : ∀ step ∈ deeds, step.1.surroundings.Quiet) (h : s.Agrees last) :
    (s.after deeds).Agrees ((s.signIns deeds).getLast?.or last) := by
  induction deeds generalizing s last with
  | nil => exact h
  | cons step deeds ih =>
    obtain ⟨x, d⟩ := step
    have hstep := Deed.act_agrees (hquiet _ List.mem_cons_self) h d
    have hrest := ih (fun later hlater => hquiet later (List.mem_cons_of_mem _ hlater)) hstep
    have hlast : (d.signedIn? x s).toList.getLast? = d.signedIn? x s := by
      cases d.signedIn? x s <;> rfl
    rw [Scene.signIns, List.getLast?_append, hlast, Option.or_assoc]
    exact hrest

end

/-! ## 3. The prompt -/

/-- **The prompt never misreports who is signed in.** After any deeds: whoever is
signed in is the one who has signed in last, with the roles that the guards consult,
and the prompt is made from that profile. With nobody signed in it names nobody. -/
theorem prompt_tells_who_is_signed_in {settings : Settings} {persists : Bool} {files : Files}
    {input : List UInt8} {deeds : List (Context × Deed)}
    (hquiet : ∀ step ∈ deeds, step.1.surroundings.Quiet) :
    let opening := Scene.opening settings persists files input
    let s := opening.after deeds
    (s.world.store.snapshot.isAuthenticated = true →
        ∃ profile, s.app.identity = some profile ∧
          (opening.signIns deeds).getLast? = some profile ∧
          profile.roles = s.world.store.snapshot.roles ∧
          prompt s = profile.email ++
            (if profile.roles = [] then "" else " [" ++ ",".intercalate profile.roles ++ "]") ++
            "> ") ∧
      (s.world.store.snapshot.isAuthenticated = false → prompt s = "coachline> ") := by
  intro opening s
  have hagrees : s.Agrees ((opening.signIns deeds).getLast?.or none) :=
    after_agrees hquiet (Scene.Agrees.of_anonymous rfl)
  rw [Option.or_none] at hagrees
  constructor
  · intro hauth
    cases hsnapshot : s.world.store.snapshot with
    | anonymous =>
      rw [hsnapshot] at hauth
      cases hauth
    | signedIn token roles =>
      obtain ⟨profile, hidentity, hlast, hroles⟩ := hagrees token roles hsnapshot
      refine ⟨profile, hidentity, hlast, hroles, ?_⟩
      unfold prompt
      rw [hidentity, hauth]
      by_cases hempty : profile.roles = []
      · simp [hempty]
      · simp [hempty, String.append_assoc]
  · intro hauth
    unfold prompt
    rw [hauth]
    cases s.app.identity with
    | none => rfl
    | some profile => rfl

/-- Deeds with a service that says one thing after another. -/
def deedsAmid (script : List Answer) (deeds : List Deed) : List (Context × Deed) :=
  deeds.map fun d => ({ environment := [], surroundings := .answering script }, d)

/-- Nobody else is around then. -/
theorem deedsAmid_quiet (script : List Answer) (deeds : List Deed) :
    ∀ step ∈ deedsAmid script deeds, step.1.surroundings.Quiet := by
  intro step hstep
  obtain ⟨d, -, rfl⟩ := List.mem_map.mp hstep
  intro n
  rfl

/-- A user signs in, and a second sign in comes to nothing. -/
def coachDeeds : List (Context × Deed) :=
  deedsAmid (signInScript "tok" ⟨"c@x", ["coach", "user"]⟩ ++ [.closed])
    [.signIn ⟨"c@x", "p"⟩, .signIn ⟨"a@x", "p"⟩]

/-- The prompt goes on to name the user. -/
theorem prompt_names_coach :
    (∀ step ∈ coachDeeds, step.1.surroundings.Quiet) ∧
      prompt ((Scene.opening Settings.initial false [] []).after coachDeeds) =
        "c@x [coach,user]> " := by
  have hquiet : ∀ step ∈ coachDeeds, step.1.surroundings.Quiet := by
    intro step hstep
    obtain ⟨d, -, rfl⟩ := List.mem_map.mp hstep
    intro n
    rfl
  have hauth : ((Scene.opening Settings.initial false [] []).after
      coachDeeds).world.store.snapshot.isAuthenticated = true := by decide +kernel
  have hlast : ((Scene.opening Settings.initial false [] []).signIns coachDeeds).getLast? =
      some ⟨"c@x", ["coach", "user"]⟩ := by decide +kernel
  obtain ⟨profile, -, hsame, -, hprompt⟩ := (prompt_tells_who_is_signed_in hquiet).1 hauth
  obtain rfl := Option.some.inj (hlast.symm.trans hsame)
  refine ⟨hquiet, ?_⟩
  rw [hprompt]
  decide +kernel

end CoachClient.Shell
