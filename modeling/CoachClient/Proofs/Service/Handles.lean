/-
CoachClient.Proofs.Service.Handles — everybody who looks at the session sees the
last write.

* `Handle` — the session, a clone of it, a reader or a subscriber. It knows the
  place of its session; `Handle.read` is what is seen through it.
* `signInWrites`, `signOutWrites` — what signing in and out write, on each of
  their ways, and what others write meanwhile.
* `Act`, `Use`, `Scene` — what can be done with a session and with handles, and
  the sessions with the handles that have been given out.
* `lastWritten` — the credential and the roles of the last write as they were
  given, or nothing.
* `Scene.use_kept`, `Scene.after_kept` — a step keeps all handles at one place and
  makes its writes there and no others, and so does a run.
* `handles_read_last_write` — after any run every handle reads the last write,
  and a credential that is there is not blank.

The invariant of a run is `Kept`: all handles share one place, and what is there
is the fresh store with the writes so far. The induction is on the steps, with the
scene they start from left open. A store with writes is known by the last of them.
-/
import CoachClient.Proofs.Service.SignIn

namespace CoachClient.Service

open CoachClient.Access CoachClient.Coaching CoachClient.Http CoachClient.Json CoachClient.Text

/-! ## 1. Handles -/

/-- A way to look at the session that is kept at a place. -/
inductive Handle where
  /-- The session itself or a clone of it. -/
  | session (place : Nat)
  | reader (place : Nat) (w : Watcher)
  | subscriber (place : Nat) (w : Watcher)
  deriving DecidableEq, Repr

namespace Handle

/-- The place of the session. -/
def place : Handle → Nat
  | .session p | .reader p _ | .subscriber p _ => p

/-- What is seen through a handle. -/
def read (stores : Nat → Store) : Handle → Snapshot
  | .session p => (stores p).snapshot
  | .reader p w => w.peek (stores p)
  | .subscriber p w => (w.take (stores p)).1

/-- A subscriber takes notice of what it sees. -/
def notice (stores : Nat → Store) : Handle → Handle
  | .subscriber p w => .subscriber p (w.take (stores p)).2
  | h => h

/-- No handle keeps a copy of its own. -/
theorem read_eq (stores : Nat → Store) (h : Handle) :
    h.read stores = (stores h.place).snapshot := by
  cases h with
  | session p => rfl
  | reader p w => rfl
  | subscriber p w => rfl

@[simp] theorem place_notice (stores : Nat → Store) (h : Handle) :
    (h.notice stores).place = h.place := by
  cases h with
  | session p => rfl
  | reader p w => rfl
  | subscriber p w => rfl

end Handle

/-! ## 2. Writes -/

theorem applyAll_append (s : Store) (cs ds : List Change) :
    s.applyAll (cs ++ ds) = (s.applyAll cs).applyAll ds := List.foldl_append

/-- The last write decides what is there. -/
theorem applyAll_snapshot (s : Store) (cs : List Change) :
    (s.applyAll cs).snapshot = (cs.getLast?.map Change.result).getD s.snapshot := by
  rcases List.eq_nil_or_concat cs with rfl | ⟨before, c, rfl⟩
  · rfl
  · rw [List.concat_eq_append, applyAll_append, List.getLast?_concat]
    rfl

/-- What others write while requests arrive. -/
def Surroundings.others (e : Surroundings) (w w' : World) : List Change :=
  e.changes w.traffic.requests.length
    (w'.traffic.requests.length - w.traffic.requests.length)

theorem World.perform_others (e : Surroundings) (d : Dispatch) (w : World) :
    (w.perform e d).2.store = w.store.applyAll (e.others w (w.perform e d).2) := rfl

theorem others_self (e : Surroundings) (w : World) : e.others w w = [] := by
  simp [Surroundings.others, Surroundings.changes]

/-- An operation writes nothing itself. -/
theorem Client.perform_others {e : Surroundings} {c : Client} {o : Operation} {w w' : World}
    {result : Except Failure o.Result} (h : (c.perform o).run e w = (result, w')) :
    w'.store = w.store.applyAll (e.others w w') := by
  rcases Client.perform_cases h with ⟨refusal, -, -, rfl⟩ | ⟨call, d, -, -, -, rfl⟩
  · rw [others_self]
    rfl
  · exact World.perform_others e d w

/-- What is written when somebody signs in: nothing without a token; otherwise the
token without roles, and in the end the token with the roles of the identity, or
nobody when there is none. -/
def signInWrites (e : Surroundings) (c : Client) (credentials : Credentials) (w : World) :
    List Change :=
  match (c.perform (.grantToken credentials)).run e w with
  | (.error _, w₁) => e.others w w₁
  | (.ok grant, w₁) =>
    e.others w w₁ ++ .establish grant.accessToken [] ::
      match (c.perform .identity).run e (w₁.withToken grant) with
      | (.ok profile, w₂) => e.others w₁ w₂ ++ [.establish grant.accessToken profile.roles]
      | (.error _, w₂) => e.others w₁ w₂ ++ [.clear]

/-- What is written when somebody signs out, whatever the service says. -/
def signOutWrites (e : Surroundings) (c : Client) (w : World) : List Change :=
  e.others w ((c.perform .revokeToken).run e w).2 ++ [.clear]

theorem signIn_writes (e : Surroundings) (c : Client) (credentials : Credentials) (w : World) :
    ((c.signIn credentials).run e w).2.store =
      w.store.applyAll (signInWrites e c credentials w) := by
  rcases hrun : (c.signIn credentials).run e w with ⟨result, w'⟩
  rcases signIn_cases hrun with ⟨failure, htoken, -⟩ | ⟨grant, w₁, htoken, hrest⟩
  · simp only [signInWrites, htoken]
    exact Client.perform_others htoken
  · have hgranted := Client.perform_others htoken
    rcases hrest with ⟨failure, w₂, hidentity, -, rfl⟩ | ⟨profile, w₂, hidentity, -, rfl⟩
    · have hasked : w₂.store = (w₁.withToken grant).store.applyAll (e.others w₁ w₂) :=
        Client.perform_others hidentity
      simp only [signInWrites, htoken, hidentity]
      rw [applyAll_append, ← hgranted, hasked, ← List.cons_append, applyAll_append]
      rfl
    · have hasked : w₂.store = (w₁.withToken grant).store.applyAll (e.others w₁ w₂) :=
        Client.perform_others hidentity
      simp only [signInWrites, htoken, hidentity]
      rw [applyAll_append, ← hgranted, hasked, ← List.cons_append, applyAll_append]
      rfl

theorem signOut_writes (e : Surroundings) (c : Client) (w : World) :
    (c.signOut.run e w).2.store = w.store.applyAll (signOutWrites e c w) := by
  rcases hrun : (c.perform .revokeToken).run e w with ⟨result, w'⟩
  have htold := Client.perform_others hrun
  simp only [Client.signOut, bind, pure, Flow.run_bind, Flow.run_change, Flow.run_done,
    signOutWrites, hrun]
  rw [applyAll_append, ← htold]
  rfl

/-! ## 3. What can be done -/

/-- What is done with a session, in some surroundings if it takes time. -/
inductive Act where
  | change (c : Change)
  | signIn (c : Client) (credentials : Credentials) (e : Surroundings)
  | signOut (c : Client) (e : Surroundings)

namespace Act

/-- The world afterwards. -/
def run (w : World) : Act → World
  | .change c => { w with store := w.store.apply c }
  | .signIn c credentials e => ((c.signIn credentials).run e w).2
  | .signOut c e => (c.signOut.run e w).2

/-- What is written. -/
def writes (w : World) : Act → List Change
  | .change c => [c]
  | .signIn c credentials e => signInWrites e c credentials w
  | .signOut c e => signOutWrites e c w

theorem run_store (w : World) (a : Act) : (a.run w).store = w.store.applyAll (a.writes w) := by
  cases a with
  | change c => rfl
  | signIn c credentials e => exact signIn_writes e c credentials w
  | signOut c e => exact signOut_writes e c w

end Act

/-- What is done with one of the handles that have been given out. -/
inductive Use where
  /-- Do something with the session, if the handle is the session or a clone. -/
  | act (i : Nat) (a : Act)
  | clone (i : Nat)
  | reader (i : Nat)
  | subscribe (i : Nat)
  /-- Take notice of what is seen. -/
  | notice (i : Nat)

/-- What is kept at each place, the handles that have been given out, the last one
first, and what has gone over the wire. -/
structure Scene where
  stores : Nat → Store
  handles : List Handle
  traffic : Traffic

namespace Scene

/-- A new session and nothing else. -/
def fresh : Scene := ⟨fun _ => Store.fresh, [.session 0], Traffic.none⟩

/-- The place of a handle that is the session or a clone. -/
def session? (s : Scene) (i : Nat) : Option Nat :=
  match s.handles[i]? with
  | some (.session p) => some p
  | _ => none

/-- The world of the session at a place. -/
def worldAt (s : Scene) (p : Nat) : World := ⟨s.stores p, s.traffic⟩

/-- The session at a place after something has been done with it. -/
def put (s : Scene) (p : Nat) (w : World) : Scene :=
  { s with stores := fun q => if q = p then w.store else s.stores q, traffic := w.traffic }

/-- Give out a handle. -/
def giveOut (s : Scene) (h : Handle) : Scene := { s with handles := h :: s.handles }

/-- Do something with a handle. What cannot be done with it has no effect. -/
def use (s : Scene) : Use → Scene
  | .act i a => match s.session? i with
    | some p => s.put p (a.run (s.worldAt p))
    | none => s
  | .clone i => match s.handles[i]? with
    | some h => s.giveOut h
    | none => s
  | .reader i => match s.session? i with
    | some p => s.giveOut (.reader p (s.stores p).watch)
    | none => s
  | .subscribe i => match s.session? i with
    | some p => s.giveOut (.subscriber p (s.stores p).watch)
    | none => s
  | .notice i => match s.handles[i]? with
    | some h => { s with handles := s.handles.set i (h.notice s.stores) }
    | none => s

/-- What is written then. -/
def useWrites (s : Scene) : Use → List Change
  | .act i a => match s.session? i with
    | some p => a.writes (s.worldAt p)
    | none => []
  | .clone _ | .reader _ | .subscribe _ | .notice _ => []

/-- One thing after the other. -/
def after (s : Scene) (uses : List Use) : Scene := uses.foldl use s

/-- All that is written, in order. -/
def writes (s : Scene) : List Use → List Change
  | [] => []
  | u :: rest => s.useWrites u ++ (s.use u).writes rest

/-- All handles are for the session at the first place, and these are the writes
to it. -/
structure Kept (s : Scene) (writes : List Change) : Prop where
  shared : ∀ h ∈ s.handles, h.place = 0
  store : s.stores 0 = Store.fresh.applyAll writes

section
variable {s : Scene} {ws : List Change}

theorem Kept.session_place (hs : s.Kept ws) {i p : Nat} (h : s.session? i = some p) : p = 0 := by
  unfold session? at h
  split at h
  · rename_i q hq
    rw [← Option.some.inj h]
    exact hs.shared (.session q) (List.mem_of_getElem? hq)
  · cases h

/-- A handle that is given out leads to the session as well. -/
theorem Kept.giveOut (hs : s.Kept ws) {h : Handle} (hh : h.place = 0) :
    (s.giveOut h).Kept (ws ++ []) := by
  refine ⟨fun h' hmem => ?_, ?_⟩
  · rcases List.mem_cons.mp hmem with rfl | hmem
    · exact hh
    · exact hs.shared h' hmem
  · rw [List.append_nil]
    exact hs.store

/-- One step keeps the handles together, makes its writes and no others. -/
theorem use_kept (hs : s.Kept ws) (u : Use) : (s.use u).Kept (ws ++ s.useWrites u) := by
  have hsame : s.Kept (ws ++ []) := by rwa [List.append_nil]
  cases u with
  | act i a =>
    simp only [use, useWrites]
    split
    · rename_i p hp
      obtain rfl := hs.session_place hp
      refine ⟨hs.shared, ?_⟩
      have hput : (s.put 0 (a.run (s.worldAt 0))).stores 0 = (a.run (s.worldAt 0)).store := rfl
      rw [hput, a.run_store, applyAll_append, ← hs.store]
      rfl
    · exact hsame
  | clone i =>
    simp only [use, useWrites]
    split
    · rename_i h hh
      exact hs.giveOut (hs.shared h (List.mem_of_getElem? hh))
    · exact hsame
  | reader i =>
    simp only [use, useWrites]
    split
    · rename_i p hp
      exact hs.giveOut (hs.session_place hp)
    · exact hsame
  | subscribe i =>
    simp only [use, useWrites]
    split
    · rename_i p hp
      exact hs.giveOut (hs.session_place hp)
    · exact hsame
  | notice i =>
    simp only [use, useWrites]
    split
    · rename_i h hh
      refine ⟨fun h' hmem => ?_, hsame.store⟩
      rcases List.mem_or_eq_of_mem_set hmem with hmem | rfl
      · exact hs.shared h' hmem
      · rw [Handle.place_notice]
        exact hs.shared h (List.mem_of_getElem? hh)
    · exact hsame

theorem after_kept (hs : s.Kept ws) (uses : List Use) :
    (s.after uses).Kept (ws ++ s.writes uses) := by
  induction uses generalizing s ws with
  | nil => rwa [writes, List.append_nil]
  | cons u uses ih =>
    have hrest := ih (use_kept hs u)
    rwa [List.append_assoc] at hrest

end

/-- A new session has not been written to. -/
theorem fresh_kept : fresh.Kept [] := by
  refine ⟨fun h hmem => ?_, rfl⟩
  obtain rfl := List.mem_singleton.mp hmem
  rfl

end Scene

/-! ## 4. The last write -/

/-- Credential and roles of the last write as they were given, if it signed
somebody in: its credential has a character that is not blank. -/
def lastWritten (writes : List Change) : Option String × List String :=
  match writes.getLast? with
  | some (.establish credential roles) =>
    if credential.toList.any fun c => !isBlank c then (some credential, roles) else (none, [])
  | some .clear | none => (none, [])

theorem any_not_blank (credential : String) :
    (credential.toList.any fun c => !isBlank c) = !allBlank credential := by
  rw [allBlank, List.not_all_eq_any_not]

/-- The store knows the last write. -/
theorem fresh_applyAll (writes : List Change) :
    ((Store.fresh.applyAll writes).snapshot.credential?,
      (Store.fresh.applyAll writes).snapshot.roles) = lastWritten writes := by
  rw [applyAll_snapshot, lastWritten]
  cases writes.getLast? with
  | none => rfl
  | some c =>
    cases c with
    | clear => rfl
    | establish credential roles =>
      simp only [Option.map_some, Option.getD_some]
      cases hblank : allBlank credential with
      | true =>
        rw [result_establish_of_blank hblank, any_not_blank, hblank]
        rfl
      | false =>
        rw [result_establish_of_not_blank hblank, any_not_blank, hblank]
        rfl

/-- What has been written with a credential has one that is not blank. -/
theorem lastWritten_not_blank {writes : List Change} {credential : String}
    (h : (lastWritten writes).1 = some credential) :
    ∃ c ∈ credential.toList, isBlank c = false := by
  unfold lastWritten at h
  split at h
  · split at h
    · rename_i hblank
      rw [← Option.some.inj h]
      simpa using hblank
    · cases h
  · cases h
  · cases h

/-- And there are no roles without a credential. -/
theorem lastWritten_roles {writes : List Change} (h : (lastWritten writes).2 ≠ []) :
    (lastWritten writes).1.isSome = true := by
  unfold lastWritten at h ⊢
  split
  · split
    · rfl
    · simp_all
  · simp_all
  · simp_all

/-- After any run every handle, whenever it was given out, reads the last write. -/
theorem handles_read_last_write (uses : List Use) (h : Handle)
    (hh : h ∈ (Scene.fresh.after uses).handles) :
    let seen := h.read (Scene.fresh.after uses).stores
    (seen.credential?, seen.roles) = lastWritten (Scene.fresh.writes uses) ∧
      (seen.roles ≠ [] → seen.credential?.isSome = true) ∧
      ∀ credential, seen.credential? = some credential →
        ∃ c ∈ credential.toList, isBlank c = false := by
  intro seen
  have hkept := Scene.after_kept Scene.fresh_kept uses
  have hseen : seen = (Store.fresh.applyAll (Scene.fresh.writes uses)).snapshot := by
    have hread : seen = ((Scene.fresh.after uses).stores h.place).snapshot := h.read_eq _
    rw [hread, hkept.shared h hh, hkept.store]
    rfl
  have hpair : (seen.credential?, seen.roles) = lastWritten (Scene.fresh.writes uses) := by
    rw [hseen]
    exact fresh_applyAll _
  have hcredential : seen.credential? = (lastWritten (Scene.fresh.writes uses)).1 := by
    rw [← hpair]
  have hroles : seen.roles = (lastWritten (Scene.fresh.writes uses)).2 := by rw [← hpair]
  refine ⟨hpair, fun hne => ?_, fun credential hc => ?_⟩
  · rw [hcredential]
    exact lastWritten_roles (hroles ▸ hne)
  · rw [hcredential] at hc
    exact lastWritten_not_blank hc

/-- Somebody signs in through a clone, after a reader has been given out. -/
def signedInUses : List Use :=
  [.reader 0, .clone 1, .act 0 (.change (.establish "   " ["coach"])),
    .act 0 (.signIn plainClient ⟨"e@x", "p"⟩
      (.answering (signInScript "tok" ⟨"e@x", ["admin"]⟩)))]

/-- The reader sees who has signed in. -/
theorem early_reader_sees_sign_in :
    Handle.reader 0 ⟨0⟩ ∈ (Scene.fresh.after signedInUses).handles ∧
      let seen := (Handle.reader 0 ⟨0⟩).read (Scene.fresh.after signedInUses).stores
      (seen.credential?, seen.roles) = (some "tok", ["admin"]) := by
  have hmem : Handle.reader 0 ⟨0⟩ ∈ (Scene.fresh.after signedInUses).handles := by
    decide +kernel
  have hwritten : lastWritten (Scene.fresh.writes signedInUses) = (some "tok", ["admin"]) := by
    decide +kernel
  exact ⟨hmem, (handles_read_last_write signedInUses _ hmem).1.trans hwritten⟩

end CoachClient.Service
