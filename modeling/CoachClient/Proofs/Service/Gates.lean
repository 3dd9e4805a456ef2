/-
CoachClient.Proofs.Service.Gates — a guard decides on who is signed in at that moment.

* `Admits` — somebody is signed in, and has one of the roles that are required, if any are.
* `Guard.decide_allow_iff`, `Guard.decide_redirect_iff` — the decision on a snapshot.
* `Guard.enter_eq` — entering is building the view once, or nothing at all.
* `Gate`, `GateEvent`, `Grounds` — guards that look through handles, put up in the course of
  a run in which the session changes, guards are asked and views are entered.
* `Grounds.step_kept`, `Grounds.after_kept` — a step keeps all handles and guards at one
  session and makes its writes there, and so does a run.
* `gates_decide_on_last_write` — so a guard decides on the last write.

A guard keeps no answer and its handle keeps no copy, so there is nothing in a run that
could come between the last write and the decision: not the time at which the guard was put
up, and not what it has been asked before. What remains is the invariant of `Scene.Kept`,
carried over to the handles that guards have taken.
-/
import CoachClient.Access.Guard
import CoachClient.Proofs.Service.Handles

namespace CoachClient

open CoachClient.Access

namespace Access

/-! ## 1. Decisions -/

/-- Somebody is signed in, and one of the required roles has been granted, if there are
any. -/
def Admits (required : List String) (credential : Option String) (granted : List String) : Prop :=
  credential.isSome = true ∧ (required = [] ∨ ∃ role ∈ required, role ∈ granted)

/-- More granted roles never close a way that is open. -/
theorem Admits.grant {required granted granted' : List String} {credential : Option String}
    (h : Admits required credential granted) (hmore : granted ⊆ granted') :
    Admits required credential granted' := by
  obtain ⟨hcredential, hnone | ⟨role, hrequired, hgranted⟩⟩ := h
  · exact ⟨hcredential, .inl hnone⟩
  · exact ⟨hcredential, .inr ⟨role, hrequired, hmore hgranted⟩⟩

/-- Nor do more roles of which one is enough, if one has been required before. -/
theorem Admits.require {required required' granted : List String} {credential : Option String}
    (h : Admits required credential granted) (hsome : required ≠ [])
    (hmore : required ⊆ required') : Admits required' credential granted := by
  obtain ⟨hcredential, hnone | ⟨role, hrequired, hgranted⟩⟩ := h
  · exact absurd hnone hsome
  · exact ⟨hcredential, .inr ⟨role, hmore hrequired, hgranted⟩⟩

namespace Guard

theorem decide_cases (g : Guard) (s : Snapshot) :
    (g.decide s = .allow ∧ Admits g.required s.credential? s.roles) ∨
      (g.decide s = .redirect g.loginPath ∧ ¬ Admits g.required s.credential? s.roles) := by
  have hcondition : (s.isAuthenticated && (g.required.isEmpty || s.hasAnyRole g.required)) = true ↔
      Admits g.required s.credential? s.roles := by
    simp [Admits, Snapshot.isAuthenticated, Snapshot.hasAnyRole, Snapshot.hasRole]
  unfold decide
  split
  · rename_i hopen
    exact .inl ⟨rfl, hcondition.mp hopen⟩
  · rename_i hclosed
    exact .inr ⟨rfl, fun hadmits => hclosed (hcondition.mpr hadmits)⟩

/-- The way is open for those who are signed in and have one of the roles. -/
theorem decide_allow_iff {g : Guard} {s : Snapshot} :
    g.decide s = .allow ↔ Admits g.required s.credential? s.roles := by
  rcases g.decide_cases s with ⟨hdecide, hadmits⟩ | ⟨hdecide, hadmits⟩
  · simp [hdecide, hadmits]
  · simp [hdecide, hadmits]

/-- Everybody else is sent to sign in. -/
theorem decide_redirect_iff {g : Guard} {s : Snapshot} :
    g.decide s = .redirect g.loginPath ↔ ¬ Admits g.required s.credential? s.roles := by
  rcases g.decide_cases s with ⟨hdecide, hadmits⟩ | ⟨hdecide, hadmits⟩
  · simp [hdecide, hadmits]
  · simp [hdecide, hadmits]

/-- What entering does is what building the view does, once, or nothing. -/
theorem enter_eq {m : Type → Type} [Monad m] [LawfulMonad m] {α : Type} (g : Guard) (s : Snapshot)
    (build : m α) :
    (g.decide s = .allow → g.enter s build = Navigation.entered <$> build) ∧
      ∀ target, g.decide s = .redirect target → g.enter s build = pure (.redirected target) := by
  constructor
  · intro hallow
    simp [enter, hallow]
  · intro target hredirect
    simp [enter, hredirect]

end Guard

end Access

namespace Service

/-! ## 2. Guards in a run -/

/-- A guard with the handle that it looks through. -/
structure Gate where
  guard : Guard
  handle : Handle

namespace Gate

/-- Ask the guard. -/
def evaluate (g : Gate) (s : Scene) : Decision := g.guard.decide (g.handle.read s.stores)

/-- Enter if the guard lets in. -/
def enter {m : Type → Type} [Monad m] {α : Type} (g : Gate) (s : Scene) (build : m α) :
    m (Navigation α) :=
  g.guard.enter (g.handle.read s.stores) build

end Gate

/-- What can happen in a run. -/
inductive GateEvent where
  | use (u : Use)
  /-- Put up a guard that looks through one of the handles. -/
  | post (i : Nat) (g : Guard)
  | evaluate (k : Nat)
  /-- Try to enter; building the view does something with the handles. -/
  | enter (k : Nat) (build : List Use)

/-- The session with its handles, and the guards that have been put up, the last one
first. -/
structure Grounds where
  scene : Scene
  gates : List Gate

namespace Grounds

/-- A new session without guards. -/
def fresh : Grounds := ⟨Scene.fresh, []⟩

/-- What building a view does to the session. -/
def building (build : List Use) : StateM Scene Unit := modify fun s => s.after build

/-- One event. What cannot be done has no effect. -/
def step (s : Grounds) : GateEvent → Grounds
  | .use u => { s with scene := s.scene.use u }
  | .post i g => match s.scene.handles[i]? with
    | some h => { s with gates := ⟨g, h⟩ :: s.gates }
    | none => s
  | .evaluate _ => s
  | .enter k build => match s.gates[k]? with
    | some g => { s with scene := ((g.enter s.scene (building build)).run s.scene).2 }
    | none => s

/-- What is written then. -/
def stepWrites (s : Grounds) : GateEvent → List Change
  | .use u => s.scene.useWrites u
  | .post _ _ | .evaluate _ => []
  | .enter k build => match s.gates[k]? with
    | some g => if (g.evaluate s.scene).isAllowed then s.scene.writes build else []
    | none => []

/-- One event after the other. -/
def after (s : Grounds) (es : List GateEvent) : Grounds := es.foldl step s

/-- All that is written, in order. -/
def writes (s : Grounds) : List GateEvent → List Change
  | [] => []
  | e :: rest => s.stepWrites e ++ (s.step e).writes rest

/-- All handles, also those of the guards, are for the session at the first place, and
these are the writes to it. -/
structure Kept (s : Grounds) (ws : List Change) : Prop where
  scene : s.scene.Kept ws
  shared : ∀ g ∈ s.gates, g.handle.place = 0

section
variable {s : Grounds} {ws : List Change}

/-- Entering builds the view where the guard lets in. -/
theorem enter_scene (g : Gate) (s : Scene) (build : List Use) :
    ((g.enter s (building build)).run s).2 =
      if (g.evaluate s).isAllowed then s.after build else s := by
  obtain ⟨hallow, hredirect⟩ := g.guard.enter_eq (g.handle.read s.stores) (building build)
  cases hdecide : g.evaluate s with
  | allow =>
    rw [Gate.enter, hallow hdecide]
    rfl
  | redirect target =>
    rw [Gate.enter, hredirect target hdecide]
    rfl

theorem step_kept (hs : s.Kept ws) (e : GateEvent) : (s.step e).Kept (ws ++ s.stepWrites e) := by
  have hsame : s.Kept (ws ++ []) := by rwa [List.append_nil]
  cases e with
  | use u => exact ⟨Scene.use_kept hs.scene u, hs.shared⟩
  | post i g =>
    simp only [step, stepWrites]
    split
    · rename_i h hh
      refine ⟨hsame.scene, fun g' hg' => ?_⟩
      rcases List.mem_cons.mp hg' with rfl | hg'
      · exact hs.scene.shared h (List.mem_of_getElem? hh)
      · exact hs.shared g' hg'
    · exact hsame
  | evaluate k => exact hsame
  | enter k build =>
    simp only [step, stepWrites]
    split
    · rename_i g hg
      rw [enter_scene]
      split
      · exact ⟨Scene.after_kept hs.scene build, hs.shared⟩
      · exact hsame
    · exact hsame

theorem after_kept (hs : s.Kept ws) (es : List GateEvent) :
    (s.after es).Kept (ws ++ s.writes es) := by
  induction es generalizing s ws with
  | nil => rwa [writes, List.append_nil]
  | cons e es ih =>
    have hrest := ih (step_kept hs e)
    rwa [List.append_assoc] at hrest

end

theorem fresh_kept : fresh.Kept [] := ⟨Scene.fresh_kept, fun _ hg => nomatch hg⟩

/-- A guard that looks through a handle of the session sees the last write. -/
theorem Kept.read {s : Grounds} {ws : List Change} (hs : s.Kept ws) {g : Gate} (hg : g ∈ s.gates) :
    ((g.handle.read s.scene.stores).credential?, (g.handle.read s.scene.stores).roles) =
      lastWritten ws := by
  rw [Handle.read_eq, hs.shared g hg, hs.scene.store]
  exact fresh_applyAll ws

end Grounds

/-! ## 3. Every moment of a run -/

/-- **A guard decides on the current session and on nothing else.** Whenever it was put up
and whatever it has been asked before: the way is open exactly if the last write left a
credential and, where roles are required, one of them; everybody else is sent to the
guard's login path. Entering does what building the view does, once, if the way is open,
and otherwise nothing. More granted roles never close a way, and neither do more roles of
which one is enough. -/
theorem gates_decide_on_last_write (es : List GateEvent) (g : Gate)
    (hg : g ∈ (Grounds.fresh.after es).gates) :
    let scene := (Grounds.fresh.after es).scene
    let written := lastWritten (Grounds.fresh.writes es)
    let admitted := Admits g.guard.required written.1 written.2
    (g.evaluate scene = .allow ↔ admitted) ∧
    (g.evaluate scene = .redirect g.guard.loginPath ↔ ¬ admitted) ∧
    (∀ {m : Type → Type} [Monad m] [LawfulMonad m] {α : Type} (build : m α),
      (admitted → g.enter scene build = Navigation.entered <$> build) ∧
      (¬ admitted → g.enter scene build = pure (.redirected g.guard.loginPath))) ∧
    (∀ credential roles roles', roles ⊆ roles' →
      g.guard.decide (Change.establish credential roles).result = .allow →
      g.guard.decide (Change.establish credential roles').result = .allow) ∧
    ∀ required s, g.guard.required ≠ [] → g.guard.required ⊆ required →
      g.guard.decide s = .allow → { g.guard with required }.decide s = .allow := by
  intro scene written admitted
  have hseen := ((Grounds.after_kept Grounds.fresh_kept es).read hg)
  have hadmitted : Admits g.guard.required (g.handle.read scene.stores).credential?
      (g.handle.read scene.stores).roles ↔ admitted := by
    rw [(Prod.mk.inj hseen).1, (Prod.mk.inj hseen).2]
    rfl
  have hallow : g.evaluate scene = .allow ↔ admitted := Guard.decide_allow_iff.trans hadmitted
  have hredirect : g.evaluate scene = .redirect g.guard.loginPath ↔ ¬ admitted :=
    Guard.decide_redirect_iff.trans (not_congr hadmitted)
  refine ⟨hallow, hredirect, fun build => ?_, fun credential roles roles' hmore h => ?_,
    fun required s hsome hmore h => ?_⟩
  · obtain ⟨hentered, hredirected⟩ := g.guard.enter_eq (g.handle.read scene.stores) build
    exact ⟨fun h => hentered (hallow.mpr h), fun h => hredirected _ (hredirect.mpr h)⟩
  · rw [Guard.decide_allow_iff] at h ⊢
    rw [Change.result] at h ⊢
    split at h
    · cases h.1
    · rename_i hblank
      rw [if_neg hblank]
      exact h.grant hmore
  · rw [Guard.decide_allow_iff] at h ⊢
    exact h.require hsome hmore

/-- A guard is put up over a reader while nobody is signed in, and asked; then a coach signs
in, and somebody without roles; a view that is entered meanwhile signs out again. -/
def watchedEvents : List GateEvent :=
  [.use (.reader 0), .post 0 { required := ["admin", "coach"] }, .evaluate 0,
    .use (.act 1 (.change (.establish "tok" ["coach"]))), .enter 0 [.act 1 (.change .clear)],
    .enter 0 [.act 1 (.change (.establish "other" []))], .evaluate 0,
    .use (.act 1 (.change (.establish "tok" ["guest", "coach"])))]

/-- It lets in who has signed in last, and a view that counts how often it is built is built
once. -/
theorem reader_gate_lets_coach_in :
    let g : Gate := ⟨{ required := ["admin", "coach"] }, .reader 0 ⟨0⟩⟩
    g ∈ (Grounds.fresh.after watchedEvents).gates ∧
      Grounds.fresh.writes watchedEvents =
        [.establish "tok" ["coach"], .clear, .establish "tok" ["guest", "coach"]] ∧
      g.evaluate (Grounds.fresh.after watchedEvents).scene = .allow ∧
      (g.enter (Grounds.fresh.after watchedEvents).scene (modifyGet fun n => ("view", n + 1) :
        StateM Nat String)).run 0 = (.entered "view", 1) := by
  intro g
  have hmem : g ∈ (Grounds.fresh.after watchedEvents).gates := List.mem_singleton.mpr rfl
  have hwrites : Grounds.fresh.writes watchedEvents =
      [.establish "tok" ["coach"], .clear, .establish "tok" ["guest", "coach"]] := by
    decide +kernel
  obtain ⟨hallow, -, henter, -⟩ := gates_decide_on_last_write watchedEvents g hmem
  have hadmitted : Admits g.guard.required (lastWritten (Grounds.fresh.writes watchedEvents)).1
      (lastWritten (Grounds.fresh.writes watchedEvents)).2 := by
    rw [hwrites]
    exact ⟨rfl, .inr ⟨"coach", by decide, by decide⟩⟩
  refine ⟨hmem, hwrites, hallow.mpr hadmitted, ?_⟩
  rw [(henter _).1 hadmitted]
  rfl

end Service

end CoachClient
