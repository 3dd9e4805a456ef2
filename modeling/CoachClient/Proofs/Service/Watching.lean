/-
CoachClient.Proofs.Service.Watching — who watches the session misses no change of it.

* `Flow.Along`, `SignInMakes`, `signIn_along` — what a program has written at any moment,
  and what signing in has written, whatever comes of its requests.
* `Watched`, `Move` — a session with those who watch it and those who sign in, each of
  them taking one step at a time.
* `Told`, `Underway` — what holds at every moment of the watchers and of those who sign in,
  with a lemma for each thing that can be done; `move_told`, `move_underway` for whatever
  is done, and `after_told`, `after_underway` for a whole run.
* `Attentive`, `changes_are_noticed` — all of it together.

A watcher knows a number and nothing else, so `Told` ties that number to the events: it is
the number of writes so far exactly if no write is unnoticed. The writes are numbered by
the store, so it does not matter what they write, nor who writes.
-/
import CoachClient.Proofs.Service.Events

namespace CoachClient.Service

open CoachClient.Access CoachClient.Coaching CoachClient.Http

/-! ## 1. What signing in writes -/

/-- The result of a program that is done. -/
def Flow.result? {α : Type} : Flow α → Option α
  | .done a => some a
  | _ => none

/-- A program has written `made`. At every moment from now on what it has written until
then is as said, together with its result once it is done, whatever it sees and whatever
comes of its requests. -/
def Flow.Along {α : Type} (Q : List Change → Option α → Prop) : Flow α → List Change → Prop
  | .done a, made => Q made (some a)
  | .observe next, made => Q made none ∧ ∀ s, (next s).Along Q made
  | .update c next, made => Q made none ∧ next.Along Q (made ++ [c])
  | .exchange _ next, made => Q made none ∧ ∀ o, (next o).Along Q made

section
variable {α β : Type} {Q : List Change → Option β → Prop} {made : List Change}

theorem Flow.Along.now {p : Flow β} (h : p.Along Q made) : Q made p.result? := by
  cases p with
  | done a => exact h
  | observe next => exact h.1
  | update c next => exact h.1
  | exchange d next => exact h.1

/-- An operation writes nothing, so what holds before it holds until what follows it. -/
theorem along_perform {c : Client} {o : Operation} {f : Except Failure o.Result → Flow β}
    (hbefore : Q made none) (hafter : ∀ result, (f result).Along Q made) :
    ((c.perform o).bind f).Along Q made := by
  unfold Client.perform
  cases o.call with
  | error refusal => exact hafter _
  | ok call =>
    simp only [Client.send, Flow.bind, Flow.Along, Client.start]
    refine ⟨hbefore, fun s => ?_⟩
    cases c.dispatch s.credential? call with
    | error refusal => exact hafter _
    | ok d => exact ⟨hbefore, fun outcome => hafter _⟩

end

/-- What signing in has written, and its result: nothing until there is a token; then the
token without roles; and in the end the token with the roles of the identity, or nobody
if there is none. -/
inductive SignInMakes : List Change → Option (Except Failure Profile) → Prop where
  | asking : SignInMakes [] none
  | noToken (failure : Failure) : SignInMakes [] (some (.error failure))
  | token (token : String) : SignInMakes [.establish token []] none
  | noIdentity (token : String) (failure : Failure) :
      SignInMakes [.establish token [], .clear] (some (.error failure))
  | signedIn (token : String) (profile : Profile) :
      SignInMakes [.establish token [], .establish token profile.roles] (some (.ok profile))

theorem signIn_along (c : Client) (credentials : Credentials) :
    (c.signIn credentials).Along SignInMakes [] := by
  refine along_perform .asking fun result => ?_
  cases result with
  | error failure => exact .noToken failure
  | ok grant =>
    refine ⟨.asking, along_perform (.token grant.accessToken) fun result => ?_⟩
    cases result with
    | error failure =>
      exact ⟨.token grant.accessToken, .noIdentity grant.accessToken failure⟩
    | ok profile => exact ⟨.token grant.accessToken, .signedIn grant.accessToken profile⟩

/-! ## 2. A session that is watched -/

/-- A session, those who watch it, those who sign in with what is left for them to do, and
all that has happened. -/
structure Watched where
  store : Store := Store.fresh
  watchers : List Watcher := []
  signIns : List (Flow (Except Failure Profile)) := []
  log : List Event := []

/-- What somebody does next. -/
inductive Move where
  /-- Write to the session, by itself or by a clone. -/
  | write (c : Change)
  | signIn (c : Client) (credentials : Credentials)
  /-- One who signs in takes a step; if that is to wait, this is what comes of it. -/
  | goOn (i : Nat) (outcome : Outcome)
  | subscribe
  | look (i : Nat)
  | take (i : Nat)

namespace Watched

/-- The session after a write. -/
def put (s : Watched) (signIn? : Option Nat) (c : Change) : Watched :=
  { s with store := s.store.apply c, log := s.log ++ [.wrote signIn? c] }

/-- Somebody who signs in takes a step. -/
def goOn (s : Watched) (i : Nat) (outcome : Outcome) : Watched :=
  match s.signIns[i]? with
  | some (.observe next) => { s with signIns := s.signIns.set i (next s.store.snapshot) }
  | some (.update c next) => { s.put (some i) c with signIns := s.signIns.set i next }
  | some (.exchange _ next) => { s with signIns := s.signIns.set i (next outcome) }
  | some (.done _) | none => s

/-- Somebody does something. Who is not there does nothing. -/
def move (s : Watched) : Move → Watched
  | .write c => s.put none c
  | .signIn c credentials => { s with signIns := s.signIns ++ [c.signIn credentials] }
  | .goOn i outcome => s.goOn i outcome
  | .subscribe =>
    { s with watchers := s.watchers ++ [s.store.watch], log := s.log ++ [.subscribed] }
  | .look i => match s.watchers[i]? with
    | some w => { s with log := s.log ++ [.looked i (w.peek s.store)] }
    | none => s
  | .take i => match s.watchers[i]? with
    | some w =>
      let (seen, w') := w.take s.store
      { s with watchers := s.watchers.set i w', log := s.log ++ [.took i seen] }
    | none => s

/-- One thing after the other. -/
def after (s : Watched) (moves : List Move) : Watched := moves.foldl move s

end Watched

/-! ## 3. The watchers -/

section
variable {α : Type} {l : List α} {a b x : α} {i j : Nat}

theorem getElem?_concat_cases (h : (l ++ [a])[i]? = some b) :
    l[i]? = some b ∨ i = l.length ∧ b = a := by
  rcases Nat.lt_or_ge i l.length with hless | hmore
  · rw [List.getElem?_append_left hless] at h
    exact Or.inl h
  · rw [List.getElem?_append_right hmore] at h
    obtain ⟨hi, rfl⟩ := List.getElem?_eq_some_iff.mp h
    refine Or.inr ⟨?_, by simp⟩
    rw [List.length_singleton] at hi
    omega

theorem getElem?_set_cases (hi : l[i]? = some x) (h : (l.set i a)[j]? = some b) :
    i = j ∧ b = a ∨ i ≠ j ∧ l[j]? = some b := by
  by_cases hij : i = j
  · subst hij
    rw [List.getElem?_set_self (List.getElem?_eq_some_iff.mp hi).1] at h
    exact Or.inl ⟨rfl, (Option.some.inj h).symm⟩
  · rw [List.getElem?_set_ne hij] at h
    exact Or.inr ⟨hij, h⟩

end

/-- The store is the one with the writes so far, what has been seen is what was there, and
the number a watcher knows is that of the writes exactly if there is nothing to notice. -/
structure Told (store : Store) (watchers : List Watcher) (log : List Event) : Prop where
  written : store = Store.fresh.applyAll (changesOf log)
  count : watchers.length = subscriptions log
  notice : ∀ i w, watchers[i]? = some w →
    w.noticed ≤ store.changes ∧ (w.noticed ≠ store.changes ↔ Unnoticed i log)
  faithful : Faithful log

namespace Told

variable {store : Store} {watchers : List Watcher} {log : List Event} {i : Nat} {w : Watcher}

theorem fresh : Told Store.fresh [] [] where
  written := rfl
  count := rfl
  notice _ _ hw := nomatch hw
  faithful before e after i seen hlog _ := by simp at hlog

/-- What is there to be seen is the last write. -/
theorem snapshot (h : Told store watchers log) :
    pairOf store.snapshot = lastWritten (changesOf log) := by
  rw [h.written]
  exact fresh_applyAll _

/-- A write is news to everybody. -/
theorem put (h : Told store watchers log) (signIn? : Option Nat) (c : Change) :
    Told (store.apply c) watchers (log ++ [.wrote signIn? c]) where
  written := by
    rw [changesOf_concat, applyAll_append, ← h.written]
    rfl
  count := by simpa [subscriptions, Event.isSubscription] using h.count
  notice i w hw := by
    have hold : w.noticed ≤ store.changes := (h.notice i w hw).1
    have hone : (store.apply c).changes = store.changes + 1 := rfl
    have hthere : i < subscriptions log := by
      rw [← h.count]
      exact (List.getElem?_eq_some_iff.mp hw).1
    have hnews : Unnoticed i (log ++ [.wrote signIn? c]) :=
      unnoticed_concat.mpr (Or.inr ⟨signIn?, c, rfl, hthere⟩)
    exact ⟨by omega, fun _ => hnews, fun _ => by omega⟩
  faithful := faithful_concat.mpr ⟨h.faithful, fun _ _ hsight => nomatch hsight⟩

/-- Who subscribes begins with what is there. -/
theorem subscribe (h : Told store watchers log) :
    Told store (watchers ++ [store.watch]) (log ++ [.subscribed]) where
  written := by simpa [changesOf_concat, Event.write?] using h.written
  count := by simp [subscriptions, Event.isSubscription, List.countP_append, h.count]
  notice i w hw := by
    have hsame : Unnoticed i (log ++ [.subscribed]) ↔ Unnoticed i log := by
      simp [unnoticed_concat]
    rw [hsame]
    rcases getElem?_concat_cases hw with hw | ⟨rfl, rfl⟩
    · exact h.notice i w hw
    · refine ⟨Nat.le_refl _, fun hnews => absurd rfl hnews, fun hnews => ?_⟩
      rw [h.count] at hnews
      exact absurd hnews.lt_subscriptions (Nat.lt_irrefl _)
  faithful := faithful_concat.mpr ⟨h.faithful, fun _ _ hsight => nomatch hsight⟩

/-- Whoever looks sees what is there, and nobody is concerned. -/
theorem look (h : Told store watchers log) (i : Nat) :
    Told store watchers (log ++ [.looked i store.snapshot]) where
  written := by simpa [changesOf_concat, Event.write?] using h.written
  count := by simpa [subscriptions, Event.isSubscription] using h.count
  notice := by simpa [unnoticed_concat] using h.notice
  faithful := by
    refine faithful_concat.mpr ⟨h.faithful, fun j seen hsight => ?_⟩
    obtain ⟨-, rfl⟩ := Prod.mk.inj (Option.some.inj hsight)
    exact h.snapshot

/-- Who takes notice has nothing left to notice, and nobody else is concerned. -/
theorem take (h : Told store watchers log) (hw : watchers[i]? = some w) :
    Told store (watchers.set i store.watch) (log ++ [.took i store.snapshot]) where
  written := by simpa [changesOf_concat, Event.write?] using h.written
  count := by simpa [subscriptions, Event.isSubscription] using h.count
  notice j w' hw' := by
    rcases getElem?_set_cases hw hw' with ⟨rfl, rfl⟩ | ⟨hij, hw'⟩
    · refine ⟨Nat.le_refl _, fun hnews => absurd rfl hnews, fun hnews => ?_⟩
      simp [unnoticed_concat] at hnews
    · have hsame : Unnoticed j (log ++ [.took i store.snapshot]) ↔ Unnoticed j log := by
        simp [unnoticed_concat, hij]
      rw [hsame]
      exact h.notice j w' hw'
  faithful := by
    refine faithful_concat.mpr ⟨h.faithful, fun j seen hsight => ?_⟩
    obtain ⟨-, rfl⟩ := Prod.mk.inj (Option.some.inj hsight)
    exact h.snapshot

end Told

section
variable {s : Watched}

/-- Whatever is done. -/
theorem move_told (h : Told s.store s.watchers s.log) (m : Move) :
    Told (s.move m).store (s.move m).watchers (s.move m).log := by
  cases m with
  | write c => exact h.put none c
  | signIn c credentials => exact h
  | goOn i outcome =>
    simp only [Watched.move, Watched.goOn]
    split
    · exact h
    · rename_i c next hnext
      exact h.put (some i) c
    · exact h
    · exact h
    · exact h
  | subscribe => exact h.subscribe
  | look i =>
    simp only [Watched.move]
    split
    · exact h.look i
    · exact h
  | take i =>
    simp only [Watched.move]
    split
    · rename_i w hw
      exact h.take hw
    · exact h

theorem after_told (h : Told s.store s.watchers s.log) (moves : List Move) :
    Told (s.after moves).store (s.after moves).watchers (s.after moves).log := by
  induction moves generalizing s with
  | nil => exact h
  | cons m moves ih => exact ih (move_told h m)

end

/-! ## 4. Those who sign in -/

/-- Everybody who signs in is on one of its ways with what they have written, and nobody
else writes in their name. -/
structure Underway (signIns : List (Flow (Except Failure Profile))) (log : List Event) :
    Prop where
  ways : ∀ i (p : Flow (Except Failure Profile)), signIns[i]? = some p →
    p.Along SignInMakes (writesOf i log)
  absent : ∀ i, signIns.length ≤ i → writesOf i log = []

namespace Underway

variable {signIns : List (Flow (Except Failure Profile))} {log log' : List Event} {i : Nat}
  {p q : Flow (Except Failure Profile)}

theorem fresh : Underway [] [] where
  ways _ _ hp := nomatch hp
  absent _ _ := rfl

/-- What others do is of no concern. -/
theorem others (h : Underway signIns log) {e : Event} (he : ∀ i, e.writeBy? i = none) :
    Underway signIns (log ++ [e]) := by
  have hsame : ∀ i, writesOf i (log ++ [e]) = writesOf i log := by
    intro i
    simp [writesOf_concat, he]
  constructor
  · intro i p hp
    rw [hsame]
    exact h.ways i p hp
  · intro i hi
    rw [hsame]
    exact h.absent i hi

/-- Another one begins. -/
theorem signIn (h : Underway signIns log) (c : Client) (credentials : Credentials) :
    Underway (signIns ++ [c.signIn credentials]) log := by
  constructor
  · intro i p hp
    rcases getElem?_concat_cases hp with hp | ⟨rfl, rfl⟩
    · exact h.ways i p hp
    · rw [h.absent _ (Nat.le_refl _)]
      exact signIn_along c credentials
  · intro i hi
    rw [List.length_append, List.length_singleton] at hi
    exact h.absent i (by omega)

/-- One of them has taken a step. -/
theorem set (h : Underway signIns log) (hp : signIns[i]? = some p)
    (hq : q.Along SignInMakes (writesOf i log'))
    (hothers : ∀ j, i ≠ j → writesOf j log' = writesOf j log) :
    Underway (signIns.set i q) log' := by
  constructor
  · intro j p' hp'
    rcases getElem?_set_cases hp hp' with ⟨rfl, rfl⟩ | ⟨hij, hp'⟩
    · exact hq
    · rw [hothers j hij]
      exact h.ways j p' hp'
  · intro j hj
    have hi := (List.getElem?_eq_some_iff.mp hp).1
    rw [List.length_set] at hj
    rw [hothers j (by omega)]
    exact h.absent j hj

/-- And that step was a write. -/
theorem put {c : Change} {next : Flow (Except Failure Profile)} (h : Underway signIns log)
    (hp : signIns[i]? = some (.update c next)) :
    Underway (signIns.set i next) (log ++ [.wrote (some i) c]) := by
  refine h.set hp ?_ fun j hij => ?_
  · rw [writesOf_concat]
    simpa [Event.writeBy?] using (h.ways i _ hp).2
  · simp [writesOf_concat, Event.writeBy?, hij]

end Underway

section
variable {s : Watched} {i : Nat}

/-- Whatever is done. -/
theorem move_underway (h : Underway s.signIns s.log) (m : Move) :
    Underway (s.move m).signIns (s.move m).log := by
  cases m with
  | write c => exact h.others fun _ => rfl
  | signIn c credentials => exact h.signIn c credentials
  | goOn i outcome =>
    simp only [Watched.move, Watched.goOn]
    split
    · rename_i next hnext
      exact h.set hnext ((h.ways i _ hnext).2 _) fun _ _ => rfl
    · rename_i c next hnext
      exact h.put hnext
    · rename_i d next hnext
      exact h.set hnext ((h.ways i _ hnext).2 _) fun _ _ => rfl
    · exact h
    · exact h
  | subscribe => exact h.others fun _ => rfl
  | look i =>
    simp only [Watched.move]
    split
    · exact h.others fun _ => rfl
    · exact h
  | take i =>
    simp only [Watched.move]
    split
    · exact h.others fun _ => rfl
    · exact h

theorem after_underway (h : Underway s.signIns s.log) (moves : List Move) :
    Underway (s.after moves).signIns (s.after moves).log := by
  induction moves generalizing s with
  | nil => exact h
  | cons m moves ih => exact ih (move_underway h m)

/-- What somebody who signs in has written with a token has no roles, or it is the last
they have written and the roles are those of their identity. -/
theorem Underway.roles (h : Underway s.signIns s.log) {token : String} {roles : List String}
    (hmem : .establish token roles ∈ writesOf i s.log) :
    roles = [] ∨ ∃ profile, s.signIns[i]? = some (.done (.ok profile)) ∧ profile.roles = roles := by
  have hi : i < s.signIns.length := by
    by_contra hnot
    rw [h.absent i (Nat.not_lt.mp hnot)] at hmem
    cases hmem
  obtain ⟨p, hp⟩ : ∃ p, s.signIns[i]? = some p := ⟨_, List.getElem?_eq_getElem hi⟩
  have hmakes := (h.ways i p hp).now
  generalize writesOf i s.log = made at hmem hmakes
  generalize hresult : p.result? = result at hmakes
  cases hmakes with
  | asking => cases hmem
  | noToken failure => cases hmem
  | token token' => simp_all
  | noIdentity token' failure => simp_all
  | signedIn token' profile =>
    simp only [List.mem_cons, Change.establish.injEq, List.not_mem_nil, or_false] at hmem
    rcases hmem with ⟨-, rfl⟩ | ⟨-, rfl⟩
    · exact Or.inl rfl
    · refine Or.inr ⟨profile, ?_, rfl⟩
      cases p with
      | done a =>
        rw [hp]
        rw [Option.some.inj hresult]
      | observe next => cases hresult
      | update c next => cases hresult
      | exchange d next => cases hresult

end

/-! ## 5. All together -/

/-- A session where no change goes unnoticed and nobody is woken without one. -/
structure Attentive (s : Watched) : Prop where
  /-- The watchers are those who have subscribed. -/
  count : s.watchers.length = subscriptions s.log
  /-- A watcher has news exactly if there has been a write since it subscribed and last
  took notice. -/
  news : ∀ i w, s.watchers[i]? = some w → (w.hasNews s.store = true ↔ Unnoticed i s.log)
  /-- Looking does not change that. -/
  looking : ∀ i, (s.move (.look i)).watchers = s.watchers ∧ (s.move (.look i)).store = s.store
  /-- What is seen is what the last write has left. -/
  last : Faithful s.log
  /-- What a watcher sees are states of the session, in their order. -/
  order : ∀ i, ∃ marks : List Nat, marks.Pairwise (· ≤ ·) ∧
    (∀ n ∈ marks, n ≤ (changesOf s.log).length) ∧
    (sights i s.log).map pairOf = marks.map fun n => lastWritten ((changesOf s.log).take n)
  /-- Signing in with success is two writes. -/
  signIns : ∀ i p, s.signIns[i]? = some p → SignInMakes (writesOf i s.log) p.result?
  /-- Whoever is seen has been written last, with just these roles; if that was by signing
  in, there are no roles, or they are those of the identity. -/
  roles : ∀ before e after i token roles, s.log = before ++ e :: after →
    e.sight? = some (i, .signedIn token roles) →
    ∃ signIn?, (writesIn before).getLast? = some (signIn?, .establish token roles) ∧
      ∀ j, signIn? = some j → roles = [] ∨
        ∃ profile, s.signIns[j]? = some (.done (.ok profile)) ∧ profile.roles = roles

/-- **No change of the session goes unnoticed, and nobody is woken without one.** However
writes, by anybody and by those who sign in, are mixed with subscribing, looking and taking
notice. -/
theorem changes_are_noticed (moves : List Move) : Attentive (({} : Watched).after moves) := by
  have htold := after_told (s := {}) Told.fresh moves
  have hunderway := after_underway (s := {}) Underway.fresh moves
  generalize ({} : Watched).after moves = s at htold hunderway
  constructor
  · exact htold.count
  · intro i w hw
    rw [Watcher.hasNews, bne_iff_ne]
    exact (htold.notice i w hw).2
  · intro i
    simp only [Watched.move]
    split
    · exact ⟨rfl, rfl⟩
    · exact ⟨rfl, rfl⟩
  · exact htold.faithful
  · exact htold.faithful.marks
  · exact fun i p hp => (hunderway.ways i p hp).now
  · intro before e after i token roles hlog hsight
    obtain ⟨signIn?, hwrite⟩ := htold.faithful.written hlog hsight
    refine ⟨signIn?, hwrite, ?_⟩
    rintro j rfl
    have hmem : (some j, Change.establish token roles) ∈ writesIn s.log := by
      rw [hlog, writesIn, List.filterMap_append]
      exact List.mem_append_left _ (List.mem_of_getLast? hwrite)
    exact hunderway.roles (mem_writesOf hmem)

/-- A blank credential over nobody is news, though it leaves nobody as before. -/
example :
    let s := ({} : Watched).after
      [.subscribe, .subscribe, .write (.establish "  " ["coach"]), .look 0, .take 1]
    s.watchers.map (·.hasNews s.store) = [true, false] ∧
      sights 0 s.log = [.anonymous] ∧ sights 1 s.log = [.anonymous] := by decide

end CoachClient.Service
