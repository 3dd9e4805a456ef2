/-
CoachClient.Proofs.Shell.Run — the application over time.

* `Deed` — what is done with the application: a command, or signing in without
  one.
* `Scene.opening`, `Scene.after` — an application that has just been made, and
  the scene that deeds leave, each of them done in surroundings of its own.
* `Scene.after_induction` — what every deed preserves holds after any number.
* `after_settings` — the settings stay, but for the remembered email.
* `Scene.Presentable` — a credential that is kept fits into a header;
  `after_presentable` — as long as nobody else changes the session this is always
  so, because nobody stays signed in with a credential that has not been shown.
-/
import CoachClient.Proofs.Service.SignIn
import CoachClient.Proofs.Shell.Frame

namespace CoachClient.Shell

open CoachClient.Access CoachClient.Coaching CoachClient.Command CoachClient.Http
open CoachClient.Service CoachClient.Settings

/-! ## 1. Deeds -/

/-- What is done with the application. -/
inductive Deed where
  | command (c : Command)
  | signIn (credentials : Credentials)
  | signInFromEnvironment

/-- Do it; what it gives back is not looked at. -/
def Deed.act (x : Context) : Deed → Act Unit
  | .command c => do let _ ← runCommand x c
  | .signIn credentials => do let _ ← Shell.signIn x credentials
  | .signInFromEnvironment => do let _ ← Shell.signInFromEnvironment x

/-- An application that has just been made. -/
def Scene.opening (settings : Settings) (persists : Bool) (files : Files) (input : List UInt8) :
    Scene :=
  { app := { settings, persists }, files, input }

/-- The scene that deeds leave, done one after the other. -/
def Scene.after (s : Scene) (deeds : List (Context × Deed)) : Scene :=
  deeds.foldl (fun s step => ((step.2.act step.1).run s).2) s

theorem Deed.act_keeps {x : Context} {R : Scene → Scene → Prop} [IsPreorder Scene R]
    (h : Allows x R) (d : Deed) : Keeps R (d.act x) := by
  cases d with
  | command c => exact Keeps.bind (runCommand_keeps h c) fun _ => Keeps.pure _
  | signIn credentials => exact Keeps.bind (signIn_keeps h credentials) fun _ => Keeps.pure _
  | signInFromEnvironment => exact Keeps.bind (signInFromEnvironment_keeps h) fun _ => Keeps.pure _

/-- What every deed preserves holds after any number of them. -/
theorem Scene.after_induction {P : Scene → Prop} {deeds : List (Context × Deed)} {s : Scene}
    (hstep : ∀ step ∈ deeds, ∀ s, P s → P ((step.2.act step.1).run s).2) (h : P s) :
    P (s.after deeds) := by
  induction deeds generalizing s with
  | nil => exact h
  | cons step deeds ih =>
    refine ih (fun later hlater => hstep later (List.mem_cons_of_mem _ hlater)) ?_
    exact hstep step List.mem_cons_self s h

/-! ## 2. The settings -/

/-- Of the settings only the remembered email changes, wherever the files are. -/
theorem after_settings (s : Scene) (deeds : List (Context × Deed)) :
    ∃ email, (s.after deeds).app.settings = { s.app.settings with lastEmail := email } := by
  refine Scene.after_induction
    (P := fun s' => ∃ email, s'.app.settings = { s.app.settings with lastEmail := email })
    (fun step _ s' hs' => ?_) ⟨s.app.settings.lastEmail, rfl⟩
  obtain ⟨email, hs'⟩ := hs'
  obtain ⟨email', h⟩ := (Deed.act_keeps (Remembers.allows step.1) step.2 s').settings
  exact ⟨email', by rw [h, hs']⟩

/-! ## 3. Credentials that can be shown -/

/-- A credential that is kept fits into a header. -/
def Scene.Presentable (s : Scene) : Prop :=
  ∀ credential ∈ s.world.store.snapshot.credential?, isHeaderValue (bearer credential) = true

namespace Scene.Presentable

variable {s s' : Scene}

theorem of_store (h : s'.world.store.snapshot = s.world.store.snapshot) (hs : s.Presentable) :
    s'.Presentable := by
  unfold Scene.Presentable
  rw [h]
  exact hs

theorem of_anonymous (h : s.world.store.snapshot = .anonymous) : s.Presentable := by
  unfold Scene.Presentable
  rw [h]
  exact fun _ hc => nomatch hc

theorem of_signedIn {token : String} {roles : List String}
    (h : s.world.store.snapshot = .signedIn token roles)
    (hfits : isHeaderValue (bearer token) = true) : s.Presentable := by
  unfold Scene.Presentable
  rw [h]
  intro credential hc
  rw [← Option.some.inj hc]
  exact hfits

/-- One scene is presentable if another one is. -/
def Passes (s s' : Scene) : Prop := s.Presentable → s'.Presentable

instance : IsPreorder Scene Passes where
  refl _ := id
  trans _ _ _ h h' := h' ∘ h

/-- Without others, commands leave credentials that fit into a header. -/
theorem allows {x : Context} (hquiet : x.surroundings.Quiet) : Allows x Passes where
  signIn credentials s hs := by
    rcases signIn_store hquiet rfl with hsame | hnone | ⟨token, roles, hsome, hfits⟩
    · exact of_store hsame hs
    · exact of_anonymous hnone
    · exact of_signedIn hsome hfits
  signOut s _ := of_anonymous (signOut_store _ _ _)
  perform o s hs := of_store (congrArg Store.snapshot (Client.perform_store hquiet rfl)) hs
  remember email s hs := of_store (by unfold Scene.rememberEmail; split <;> rfl) hs
  identify _ _ hs := hs
  input _ hs := hs

end Scene.Presentable

/-- Whatever has been done, a credential that is kept fits into a header. -/
theorem after_presentable {settings : Settings} {persists : Bool} {files : Files}
    {input : List UInt8} {deeds : List (Context × Deed)}
    (hquiet : ∀ step ∈ deeds, step.1.surroundings.Quiet) :
    ((Scene.opening settings persists files input).after deeds).Presentable :=
  Scene.after_induction
    (fun step hstep s hs =>
      Deed.act_keeps (Scene.Presentable.allows (hquiet step hstep)) step.2 s hs)
    (Scene.Presentable.of_anonymous rfl)

end CoachClient.Shell
