/-
CoachClient.Proofs.Shell.Frame — what every command keeps.

* `Keeps` — every run of an act relates the scene before it to the one after;
  `Keeps.pure`, `Keeps.bind`, `Keeps.get_bind`, `Keeps.modify` are its rules for
  a relation that is reflexive and transitive.
* `run_bind_of`, `carryOut_run` — what one act after another and what a program of the
  client leave.
* `Allows` — a relation allows the few changes of which all commands are made.
* `signIn_keeps`, `runCommand_keeps` — what allows these is kept by signing in
  and by every command, one case per command.
* `Remembers` — such a relation: of the settings only the remembered email may
  change, and the files stay as they are but for the settings, written with such
  an email.

Where an act looks at the scene and then writes it, what it wrote has to be what
it saw, so `Keeps.get_bind` hands on the scene itself.
-/
import CoachClient.Shell.App
import Mathlib.Order.Defs.Unbundled

namespace CoachClient.Shell

open CoachClient.Command CoachClient.Coaching CoachClient.Service CoachClient.Settings

/-! ## 1. Acts that keep something -/

/-- Every run of the act relates the scene before it to the one after it. -/
def Keeps {α : Type} (R : Scene → Scene → Prop) (m : Act α) : Prop := ∀ s, R s (m.run s).2

namespace Keeps

variable {α β : Type} {R : Scene → Scene → Prop}

theorem pure [IsPreorder Scene R] (a : α) : Keeps R (Pure.pure a) := fun s => refl_of R s

theorem bind [IsPreorder Scene R] {m : Act α} {f : α → Act β} (hm : Keeps R m)
    (hf : ∀ a, Keeps R (f a)) : Keeps R (m >>= f) :=
  fun s => trans_of R (hm s) (hf (m.run s).1 (m.run s).2)

theorem get_bind {f : Scene → Act β} (hf : ∀ s, R s ((f s).run s).2) :
    Keeps R (MonadState.get >>= f) := hf

theorem modify {f : Scene → Scene} (hf : ∀ s, R s (f s)) :
    Keeps R (MonadState.modifyGet fun s => ((), f s) : Act Unit) := hf

end Keeps

/-- An act after another one is run in the scene the first one leaves. -/
theorem run_bind_of {α β : Type} {m : Act α} {s s' : Scene} {a : α} (h : m.run s = (a, s'))
    (f : α → Act β) : (m >>= f).run s = (f a).run s' := by
  rw [StateT.run_bind, h]
  rfl

/-- A program of the client leaves its world, and nothing else is changed. -/
theorem carryOut_run {α : Type} {x : Context} {program : Client → Flow α} {s : Scene} {a : α}
    {w : World} (h : (program s.app.client).run x.surroundings s.world = (a, w)) :
    (carryOut x program).run s = (a, { s with world := w }) := by
  simp only [carryOut, StateT.run, h]

/-! ## 2. What commands are made of -/

/-- The relation allows the changes of which all commands are made: what the
three kinds of programs do to the world, what is written beside it, and that a line is
read. -/
structure Allows (x : Context) (R : Scene → Scene → Prop) : Prop where
  signIn (credentials : Credentials) : Keeps R (carryOut x (Client.signIn · credentials))
  signOut : Keeps R (carryOut x Client.signOut)
  perform (o : Operation) : Keeps R (carryOut x (Client.perform · o))
  remember (email : String) (s : Scene) : R s (s.rememberEmail x email)
  identify (profile : Option Profile) (s : Scene) :
    R s { s with app := { s.app with identity := profile } }
  input (s : Scene) : R s { s with input := (x.reader.next s.input).2 }

/-! ## 3. Every command -/

section
variable {x : Context} {R : Scene → Scene → Prop}

theorem askEmail_keeps (h : Allows x R) : Keeps R (askEmail x) := by
  unfold askEmail
  refine Keeps.get_bind fun s => ?_
  have htyped := h.input s
  rcases hnext : x.reader.next s.input with ⟨line, rest⟩
  rw [hnext] at htyped
  cases line with
  | error fault => exact htyped
  | ok typed => exact htyped

variable [IsPreorder Scene R]

theorem signIn_keeps (h : Allows x R) (credentials : Credentials) :
    Keeps R (signIn x credentials) := by
  unfold signIn
  refine Keeps.bind (h.signIn credentials) fun result => ?_
  cases result with
  | error failure => exact Keeps.pure _
  | ok profile =>
    refine Keeps.bind (Keeps.modify (h.remember credentials.email)) fun _ => ?_
    refine Keeps.bind (Keeps.modify (h.identify (some profile))) fun _ => ?_
    exact Keeps.pure _

theorem signInFromEnvironment_keeps (h : Allows x R) : Keeps R (signInFromEnvironment x) := by
  unfold signInFromEnvironment
  split
  · exact Keeps.pure _
  · exact Keeps.bind (signIn_keeps h _) fun _ => Keeps.pure _

theorem runLogin_keeps (h : Allows x R) (given : Option String) : Keeps R (runLogin x given) := by
  unfold runLogin
  refine Keeps.bind ?_ fun found => ?_
  · unfold findEmail
    split
    · exact Keeps.pure _
    · exact askEmail_keeps h
  · cases found with
    | error trouble => exact Keeps.pure _
    | ok email =>
      simp only
      split
      · exact Keeps.pure _
      · refine Keeps.bind (signIn_keeps h _) fun result => ?_
        cases result with
        | error failure => exact Keeps.pure _
        | ok profile => exact Keeps.pure _

theorem runLogout_keeps (h : Allows x R) : Keeps R (runLogout x) := by
  unfold runLogout
  refine Keeps.bind h.signOut fun result => ?_
  refine Keeps.bind (Keeps.modify (h.identify none)) fun _ => ?_
  cases result with
  | error failure => exact Keeps.pure _
  | ok _ => exact Keeps.pure _

theorem ask_keeps (h : Allows x R) (o : Operation) (render : o.Result → String) :
    Keeps R (ask x o render) := by
  unfold ask
  refine Keeps.bind (h.perform o) fun result => ?_
  cases result with
  | error failure => exact Keeps.pure _
  | ok answer => exact Keeps.pure _

theorem view_keeps (h : Allows x R) (c : GuardedCommand) : Keeps R (view x c) := by
  cases c with
  | createSession session =>
    unfold view
    simp only
    split
    · exact Keeps.pure _
    · exact ask_keeps h _ _
  | _ => exact ask_keeps h _ _

theorem runGuarded_keeps (h : Allows x R) (c : GuardedCommand) : Keeps R (runGuarded x c) := by
  unfold runGuarded
  refine Keeps.get_bind fun s => ?_
  refine Keeps.bind ?_ (fun entered => ?_) s
  · unfold Access.Guard.enter
    split
    · exact Keeps.bind (view_keeps h c) fun _ => Keeps.pure _
    · exact Keeps.pure _
  · cases entered with
    | entered shown => exact Keeps.pure _
    | redirected target => exact Keeps.pure _

theorem runCommand_keeps (h : Allows x R) (c : Command) : Keeps R (runCommand x c) := by
  cases c with
  | login email => exact runLogin_keeps h email
  | logout => exact Keeps.bind (runLogout_keeps h) fun _ => Keeps.pure _
  | shell => exact Keeps.pure _
  | exit => exact Keeps.pure _
  | guarded c => exact runGuarded_keeps h c

end

/-! ## 4. The remembered email -/

theorem Files.write_write (fs : Files) (path : String) (old new : List UInt8) :
    (fs.write path old).write path new = fs.write path new := by
  simp [Files.write, List.filter_filter]

/-- Of two settings that are saved one after the other the last ones count. -/
theorem save_save (m : Machine) (env : Environment) (old new : Settings) (fs : Files) :
    save m env new (save m env old fs) = save m env new fs := by
  unfold save
  cases configPath m env with
  | none => rfl
  | some path =>
    dsimp only
    split
    · exact Files.write_write fs path _ _
    · rfl

/-- The settings are the same but for the remembered email, and what has been
written are these settings with an email. -/
structure Remembers (m : Machine) (env : Environment) (s s' : Scene) : Prop where
  settings : ∃ email, s'.app.settings = { s.app.settings with lastEmail := email }
  files : s'.files = s.files ∨
    ∃ email, s'.files = save m env { s.app.settings with lastEmail := some email } s.files

namespace Remembers

variable {m : Machine} {env : Environment} {s s' s'' : Scene}

theorem refl (m : Machine) (env : Environment) (s : Scene) : Remembers m env s s :=
  ⟨⟨s.app.settings.lastEmail, rfl⟩, Or.inl rfl⟩

theorem trans (h : Remembers m env s s') (h' : Remembers m env s' s'') :
    Remembers m env s s'' := by
  obtain ⟨⟨email, hs⟩, hf⟩ := h
  obtain ⟨⟨email', hs'⟩, hf'⟩ := h'
  refine ⟨⟨email', by rw [hs', hs]⟩, ?_⟩
  rcases hf' with hf' | ⟨saved, hf'⟩
  · rw [hf']
    exact hf
  · rw [hs] at hf'
    rcases hf with hf | ⟨before, hf⟩
    · exact Or.inr ⟨saved, by rw [hf', hf]⟩
    · exact Or.inr ⟨saved, by rw [hf', hf, save_save]⟩

instance (m : Machine) (env : Environment) : IsPreorder Scene (Remembers m env) where
  refl := refl m env
  trans _ _ _ := trans

/-- Whatever leaves settings and files alone. -/
theorem of_eq (hsettings : s'.app.settings = s.app.settings) (hfiles : s'.files = s.files) :
    Remembers m env s s' :=
  ⟨⟨s.app.settings.lastEmail, hsettings⟩, Or.inl hfiles⟩

theorem rememberEmail (x : Context) (email : String) (s : Scene) :
    Remembers x.machine x.environment s (s.rememberEmail x email) := by
  unfold Scene.rememberEmail
  split
  · exact refl _ _ s
  · refine ⟨⟨some email, rfl⟩, ?_⟩
    simp only
    split
    · exact Or.inr ⟨email, rfl⟩
    · exact Or.inl rfl

/-- Commands change nothing else of the settings and of the files. -/
theorem allows (x : Context) : Allows x (Remembers x.machine x.environment) where
  signIn _ _ := of_eq rfl rfl
  signOut _ := of_eq rfl rfl
  perform _ _ := of_eq rfl rfl
  remember := rememberEmail x
  identify _ _ := of_eq rfl rfl
  input _ := of_eq rfl rfl

end Remembers

end CoachClient.Shell
