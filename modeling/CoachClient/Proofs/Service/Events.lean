/-
CoachClient.Proofs.Service.Events — what happens to a session that is watched, in order.

* `Event` — a write, by somebody who signs in or by others, a subscription, and what a
  watcher sees, taking notice or not.
* `Unnoticed` — there is a write that a watcher has not taken notice of;
  `unnoticed_concat`, the same when one more thing has happened.
* `Faithful` — everything that is seen is what the last write has left;
  `faithful_concat`, when one more thing has happened.
* `Faithful.marks` — then what a watcher sees are states of the session, in their order.
* `Faithful.written` — and somebody who is seen there has just been written.

Both are said by cutting the log at the event in question. A log grows at its end, so one
lemma on where such a cut can be, `concat_eq_append_cons`, carries all of it.
-/
import CoachClient.Proofs.Service.Handles
import Mathlib.Data.List.Induction

namespace CoachClient.Service

open CoachClient.Access

/-! ## 1. Events -/

/-- What happens to a session that is watched. -/
inductive Event where
  /-- Somebody writes, as a step of signing in or otherwise. -/
  | wrote (signIn? : Option Nat) (c : Change)
  | subscribed
  | looked (watcher : Nat) (seen : Snapshot)
  | took (watcher : Nat) (seen : Snapshot)
  deriving DecidableEq, Repr

namespace Event

/-- What is written, and by whom. -/
def write? : Event → Option (Option Nat × Change)
  | .wrote signIn? c => some (signIn?, c)
  | _ => none

/-- What is written by one who signs in. -/
def writeBy? (i : Nat) : Event → Option Change
  | .wrote (some j) c => if j = i then some c else none
  | _ => none

/-- What is seen, and by whom. -/
def sight? : Event → Option (Nat × Snapshot)
  | .looked i seen | .took i seen => some (i, seen)
  | _ => none

/-- What is seen by a watcher. -/
def sightBy? (i : Nat) : Event → Option Snapshot
  | .looked j seen | .took j seen => if j = i then some seen else none
  | _ => none

/-- There is a watcher more. -/
def isSubscription : Event → Bool
  | .subscribed => true
  | _ => false

theorem sight?_of_sightBy? {e : Event} {i : Nat} {seen : Snapshot}
    (h : e.sightBy? i = some seen) : e.sight? = some (i, seen) := by
  cases e with
  | looked j seen' =>
    by_cases hj : j = i <;> simp_all [sightBy?, sight?]
  | took j seen' =>
    by_cases hj : j = i <;> simp_all [sightBy?, sight?]
  | wrote signIn? c => cases h
  | subscribed => cases h

end Event

/-- All that is written, and by whom. -/
def writesIn (log : List Event) : List (Option Nat × Change) := log.filterMap Event.write?

/-- All that is written. -/
def changesOf (log : List Event) : List Change := (writesIn log).map Prod.snd

/-- All that is written by one who signs in. -/
def writesOf (i : Nat) (log : List Event) : List Change := log.filterMap (Event.writeBy? i)

/-- All that a watcher sees, in order. -/
def sights (i : Nat) (log : List Event) : List Snapshot := log.filterMap (Event.sightBy? i)

/-- The number of those who have subscribed. -/
def subscriptions (log : List Event) : Nat := log.countP Event.isSubscription

/-- There has been a write since the watcher subscribed, and the watcher has not taken
notice since then. -/
def Unnoticed (i : Nat) (log : List Event) : Prop :=
  ∃ before signIn? c after, log = before ++ .wrote signIn? c :: after ∧
    i < subscriptions before ∧ ∀ seen, Event.took i seen ∉ after

/-- The credential and the roles of a snapshot. -/
def pairOf (s : Snapshot) : Option String × List String := (s.credential?, s.roles)

/-- What is seen is always what the last write before has left. -/
def Faithful (log : List Event) : Prop :=
  ∀ before e after i seen, log = before ++ e :: after → e.sight? = some (i, seen) →
    pairOf seen = lastWritten (changesOf before)

/-! ## 2. One more event -/

section
variable {log : List Event} {e : Event} {i : Nat}

/-- The last event is behind another one, or it is that one. -/
theorem concat_eq_append_cons {before after : List Event} {e' : Event} :
    log ++ [e] = before ++ e' :: after ↔
      (before = log ∧ e' = e ∧ after = []) ∨
        ∃ after', after = after' ++ [e] ∧ log = before ++ e' :: after' := by
  constructor
  · intro h
    rcases List.eq_nil_or_concat after with rfl | ⟨after', last, rfl⟩
    · obtain ⟨rfl, hlast⟩ := List.append_inj' h rfl
      exact Or.inl ⟨rfl, (List.cons.inj hlast).1.symm, rfl⟩
    · rw [List.concat_eq_append, ← List.cons_append, ← List.append_assoc] at h
      obtain ⟨rfl, hlast⟩ := List.append_inj' h rfl
      obtain rfl := (List.cons.inj hlast).1
      exact Or.inr ⟨after', List.concat_eq_append, rfl⟩
  · rintro (⟨rfl, rfl, rfl⟩ | ⟨after', rfl, rfl⟩)
    · rfl
    · simp

/-- A change is unnoticed after one more event if it was before and that event does not
take notice, or if the event is a change and the watcher was there. -/
theorem unnoticed_concat :
    Unnoticed i (log ++ [e]) ↔
      (Unnoticed i log ∧ ∀ seen, e ≠ .took i seen) ∨
        ∃ signIn? c, e = .wrote signIn? c ∧ i < subscriptions log := by
  constructor
  · rintro ⟨before, signIn?, c, after, hlog, hthere, hnot⟩
    rcases concat_eq_append_cons.mp hlog with ⟨rfl, rfl, -⟩ | ⟨after', rfl, hbefore⟩
    · exact Or.inr ⟨signIn?, c, rfl, hthere⟩
    · refine Or.inl ⟨⟨before, signIn?, c, after', hbefore, hthere, fun seen hmem => ?_⟩, ?_⟩
      · exact hnot seen (List.mem_append_left _ hmem)
      · rintro seen rfl
        exact hnot seen (List.mem_append_right _ (List.mem_singleton.mpr rfl))
  · rintro (⟨⟨before, signIn?, c, after, rfl, hthere, hnot⟩, hlast⟩ | ⟨signIn?, c, rfl, hthere⟩)
    · refine ⟨before, signIn?, c, after ++ [e], by simp, hthere, fun seen hmem => ?_⟩
      rcases List.mem_append.mp hmem with hmem | hmem
      · exact hnot seen hmem
      · exact hlast seen (List.mem_singleton.mp hmem).symm
    · exact ⟨log, signIn?, c, [], rfl, hthere, fun _ hmem => nomatch hmem⟩

/-- Nobody has anything to notice who has not subscribed. -/
theorem Unnoticed.lt_subscriptions (h : Unnoticed i log) : i < subscriptions log := by
  obtain ⟨before, signIn?, c, after, rfl, hthere, -⟩ := h
  refine Nat.lt_of_lt_of_le hthere ?_
  rw [subscriptions, subscriptions, List.countP_append]
  exact Nat.le_add_right _ _

theorem faithful_concat :
    Faithful (log ++ [e]) ↔ Faithful log ∧
      ∀ i seen, e.sight? = some (i, seen) → pairOf seen = lastWritten (changesOf log) := by
  constructor
  · intro h
    refine ⟨fun before e' after i seen hlog hsight => ?_, fun i seen hsight => ?_⟩
    · exact h before e' (after ++ [e]) i seen (by simp [hlog]) hsight
    · exact h log e [] i seen rfl hsight
  · rintro ⟨hbefore, hlast⟩ before e' after i seen hlog hsight
    rcases concat_eq_append_cons.mp hlog with ⟨rfl, rfl, -⟩ | ⟨after', -, hlog⟩
    · exact hlast i seen hsight
    · exact hbefore before e' after' i seen hlog hsight

theorem filterMap_concat {α : Type} (f : Event → Option α) (log : List Event) (e : Event) :
    (log ++ [e]).filterMap f = log.filterMap f ++ (f e).toList := by
  cases h : f e <;> simp [h]

theorem changesOf_concat (log : List Event) (e : Event) :
    changesOf (log ++ [e]) = changesOf log ++ (e.write?.map Prod.snd).toList := by
  rw [changesOf, writesIn, filterMap_concat, List.map_append]
  cases e.write? <;> rfl

theorem writesOf_concat (i : Nat) (log : List Event) (e : Event) :
    writesOf i (log ++ [e]) = writesOf i log ++ (e.writeBy? i).toList :=
  filterMap_concat (Event.writeBy? i) log e

/-- Who signs in has written what is written by a step of theirs. -/
theorem mem_writesOf {c : Change} (h : (some i, c) ∈ writesIn log) : c ∈ writesOf i log := by
  obtain ⟨e, he, hwrite⟩ := List.mem_filterMap.mp h
  refine List.mem_filterMap.mpr ⟨e, he, ?_⟩
  cases e with
  | wrote signIn? c' =>
    obtain ⟨rfl, rfl⟩ := Prod.mk.inj (Option.some.inj hwrite)
    simp [Event.writeBy?]
  | subscribed => cases hwrite
  | looked j seen => cases hwrite
  | took j seen => cases hwrite

/-! ## 3. What is seen -/

/-- **What a watcher sees are states of the session, in their order.** Each is the state
after some number of writes, and the numbers never go down. -/
theorem Faithful.marks (h : Faithful log) (i : Nat) :
    ∃ marks : List Nat, marks.Pairwise (· ≤ ·) ∧ (∀ n ∈ marks, n ≤ (changesOf log).length) ∧
      (sights i log).map pairOf = marks.map fun n => lastWritten ((changesOf log).take n) := by
  induction log using List.reverseRecOn with
  | nil => exact ⟨[], List.Pairwise.nil, (fun _ hn => nomatch hn), rfl⟩
  | append_singleton log e ih =>
    obtain ⟨hbefore, hlast⟩ := faithful_concat.mp h
    obtain ⟨marks, hsorted, hmarks, hsights⟩ := ih hbefore
    have hless : (changesOf log).length ≤ (changesOf (log ++ [e])).length := by
      rw [changesOf_concat, List.length_append]
      exact Nat.le_add_right _ _
    have hsame : ∀ n ≤ (changesOf log).length,
        (changesOf (log ++ [e])).take n = (changesOf log).take n := by
      intro n hn
      rw [changesOf_concat, List.take_append_of_le_length hn]
    have hold : (sights i log).map pairOf =
        marks.map fun n => lastWritten ((changesOf (log ++ [e])).take n) := by
      rw [hsights]
      exact List.map_congr_left fun n hn => by rw [hsame n (hmarks n hn)]
    rw [sights, filterMap_concat, ← sights]
    cases hsight : e.sightBy? i with
    | none =>
      refine ⟨marks, hsorted, fun n hn => Nat.le_trans (hmarks n hn) hless, ?_⟩
      simpa using hold
    | some seen =>
      -- one more sight: of all writes so far
      have hpair : pairOf seen = lastWritten (changesOf log) :=
        hlast i seen (Event.sight?_of_sightBy? hsight)
      refine ⟨marks ++ [(changesOf log).length], ?_, fun n hn => ?_, ?_⟩
      · refine List.pairwise_append.mpr ⟨hsorted, List.pairwise_singleton _ _, fun n hn m hm => ?_⟩
        rw [List.mem_singleton.mp hm]
        exact hmarks n hn
      · rcases List.mem_append.mp hn with hn | hn
        · exact Nat.le_trans (hmarks n hn) hless
        · rw [List.mem_singleton.mp hn]
          exact hless
      · rw [List.map_append, List.map_append, hold, Option.toList_some]
        simp [hpair, hsame _ (Nat.le_refl _)]

/-- Credential and roles that are there have been written together, last of all. -/
theorem getLast?_of_lastWritten {writes : List Change} {token : String} {roles : List String}
    (h : (some token, roles) = lastWritten writes) :
    writes.getLast? = some (.establish token roles) := by
  unfold lastWritten at h
  split at h
  · rename_i credential given hlast
    split at h
    · obtain ⟨hcredential, rfl⟩ := Prod.mk.inj h
      rw [hlast, Option.some.inj hcredential]
    · cases (Prod.mk.inj h).1
  · cases (Prod.mk.inj h).1
  · cases (Prod.mk.inj h).1

/-- A sight of somebody comes from the last write before it, of just these. -/
theorem Faithful.written {log before after : List Event} {e : Event} {i : Nat} {token : String}
    {roles : List String} (h : Faithful log) (hlog : log = before ++ e :: after)
    (hsight : e.sight? = some (i, .signedIn token roles)) :
    ∃ signIn?, (writesIn before).getLast? = some (signIn?, .establish token roles) := by
  have hlast : (changesOf before).getLast? = some (.establish token roles) :=
    getLast?_of_lastWritten (h before e after i _ hlog hsight)
  rw [changesOf, List.getLast?_map] at hlast
  obtain ⟨⟨signIn?, c⟩, hwrite, rfl⟩ := Option.map_eq_some_iff.mp hlast
  exact ⟨signIn?, hwrite⟩

end

end CoachClient.Service
