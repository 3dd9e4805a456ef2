/-
CoachClient.Proofs.Service.Together — several people at one session.

* `Visit`, `Visitor`, `Company` — what somebody does, how far they have got with it and what
  has arrived of them, and all who have come, with the session and the wire they share.
* `Turn`, `Company.after` — another one comes, or one of them gets on or is out of time, in
  any order. Between two turns everybody waits for something.
* `Company.Upheld`, `turn_upheld`, `after_upheld` — each of them is honest along their own
  arrivals, and the roles in the session have been named to one of them, at one turn and by
  induction over any turns.
* `roles_belong_to_credential` — the roles in the session are always those that the service
  has named to the token beside them.
* `crossed_sign_ins` — two who sign in at the same time.
-/
import CoachClient.Proofs.Service.Script
import CoachClient.Proofs.Service.SignIn
import CoachClient.Proofs.Service.Vouching

namespace CoachClient.Service

open CoachClient.Access CoachClient.Coaching CoachClient.Http

/-! ## 1. Several people -/

/-- Somebody who signs in or out. -/
inductive Visit where
  | signIn (credentials : Credentials)
  | signOut

/-- What they do; what it gives back is not looked at. -/
def Visit.flow (c : Client) : Visit → Flow Unit
  | .signIn credentials => (c.signIn credentials).bind fun _ => .done ()
  | .signOut => c.signOut.bind fun _ => .done ()

/-- Somebody on the way. -/
structure Visitor where
  flight : Flight Unit
  /-- What they have sent that has arrived. -/
  log : List Arrival := []

/-- All who have come, with the session and the wire that they share. -/
structure Company where
  visitors : List Visitor
  world : World

/-- What happens next. -/
inductive Turn where
  /-- Another one comes, and does what can be done without waiting. -/
  | join (v : Visit)
  /-- One of them gets on, at some hour. -/
  | goOn (i : Nat) (now : Int)
  /-- The time limit of one of them passes. -/
  | runOut (i : Nat)

namespace Company

/-- Something happens to one of them. -/
def pass (service : Http.Service) (now : Int) (m : Moment) (i : Nat) (s : Company) : Company :=
  match s.visitors[i]? with
  | none => s
  | some v =>
    let (flight, world) := m.pass service now (v.flight, s.world)
    let log := v.log ++ arrivals s.world.traffic world.traffic
    ⟨s.visitors.set i { flight, log }, world⟩

/-- What becomes of them at a turn. -/
def turn (c : Client) (service : Http.Service) (s : Company) : Turn → Company
  | .join v =>
    let (flight, store) := (v.flow c).depart s.world.store
    ⟨s.visitors ++ [{ flight }], { s.world with store }⟩
  | .goOn i now => s.pass service now .progress i
  | .runOut i => s.pass service 0 .expire i

/-- And after some turns. -/
def after (c : Client) (service : Http.Service) (turns : List Turn) (s : Company) : Company :=
  turns.foldl (turn c service) s

/-- Nobody has come, nobody is signed in, and something may have gone over the wire. -/
def opening (traffic : Traffic) : Company := ⟨[], ⟨Store.fresh, traffic⟩⟩

end Company

/-! ## 2. One of them -/

section
variable {α : Type} {c : Client} {service : Http.Service} {now : Int}

theorem visit_honest (v : Visit) (s : Store) (log : List Arrival) :
    (v.flow c).Honest c service s log := by
  cases v with
  | signIn credentials => exact (signIn_honest credentials s).forget ()
  | signOut => exact (signOut_honest s).forget ()

/-- One of them gets on, or is out of time. -/
theorem pass_moves (now : Int) {m : Moment} (hm : m = .progress ∨ m = .expire) {f : Flight α}
    {w : World} {log : List Arrival} (h : f.Honest c service log) :
    Moves c service log w (m.pass service now (f, w)) := by
  rcases hm with rfl | rfl
  · exact advance_moves h
  · cases f with
    | called d next => exact .of_same ⟨h, Or.inl rfl⟩ rfl
    | landed a => exact timeOut_moves h
    | sending leg next => exact timeOut_moves h
    | awaiting leg answer next => exact timeOut_moves h

/-- At one moment one request arrives, or none. -/
theorem advance_requests (f : Flight α) (w : World) :
    (f.advance service now w).2.traffic.requests = w.traffic.requests ∨
      ∃ r, (f.advance service now w).2.traffic.requests = w.traffic.requests ++ [r] := by
  cases f with
  | landed a => exact Or.inl rfl
  | called d next =>
    refine Or.inl ?_
    simp only [Flight.advance, Flight.begin]
    split
    · rfl
    · rfl
    · split <;> rfl
  | sending leg next =>
    by_cases hs : service w.traffic.requests (leg.request.withCookies w.traffic.jar) = .unreachable
    · simp only [Flight.advance, send_unreachable leg hs]
      exact Or.inl rfl
    · simp only [Flight.advance, send_arrived leg hs]
      split <;> exact Or.inr ⟨_, rfl⟩
  | awaiting leg answer next =>
    refine Or.inl ?_
    simp only [Flight.advance, proceed_traffic, answered_requests]

theorem pass_requests (service : Http.Service) (now : Int) {m : Moment}
    (hm : m = .progress ∨ m = .expire) (f : Flight α) (w : World) :
    (m.pass service now (f, w)).2.traffic.requests = w.traffic.requests ∨
      ∃ r, (m.pass service now (f, w)).2.traffic.requests = w.traffic.requests ++ [r] := by
  rcases hm with rfl | rfl
  · exact advance_requests f w
  · cases f <;> exact Or.inl rfl

/-! ## 3. All of them -/

/-- Nothing that has arrived is taken back. -/
theorem prefix_of_requests {t t' : Traffic}
    (ht : t'.requests = t.requests ∨ ∃ r, t'.requests = t.requests ++ [r]) :
    t.requests <+: t'.requests := by
  rcases ht with hsame | ⟨r, harrived⟩
  · exact hsame ▸ List.prefix_refl _
  · exact harrived ▸ List.prefix_append _ _

/-- All these arrivals are on the wire, each of them behind what had gone over it before. -/
def AreOn (t : Traffic) (log : List Arrival) : Prop :=
  ∀ a ∈ log, a.before.requests ++ [a.sent] <+: t.requests

theorem AreOn.mono {log : List Arrival} {t t' : Traffic} (h : AreOn t log)
    (ht : t.requests <+: t'.requests) : AreOn t' log :=
  fun a ha => (h a ha).trans ht

/-- What arrives at a moment is on the wire behind it. -/
theorem areOn_append_arrivals {log : List Arrival} {t t' : Traffic} (h : AreOn t log)
    (ht : t'.requests = t.requests ∨ ∃ r, t'.requests = t.requests ++ [r]) :
    AreOn t' (log ++ arrivals t t') := by
  have hbefore : AreOn t' log := h.mono (prefix_of_requests ht)
  rcases ht with hsame | ⟨r, harrived⟩
  · rw [arrivals_of_same hsame, List.append_nil]
    exact hbefore
  · rw [arrivals_of_arrived harrived]
    intro a ha
    rcases List.mem_append.mp ha with hold | hnew
    · exact hbefore a hold
    · obtain rfl := List.mem_singleton.mp hnew
      exact harrived ▸ List.prefix_refl _

/-- Everybody is honest along their own arrivals, and the roles in the session have been
named to one of them who showed the token beside them. -/
structure Company.Upheld (c : Client) (service : Http.Service) (s : Company) : Prop where
  honest : ∀ v ∈ s.visitors, v.flight.Honest c service v.log
  arrived : ∀ v ∈ s.visitors, AreOn s.world.traffic v.log
  session : ∀ token roles, s.world.store.snapshot = .signedIn token roles → roles ≠ [] →
    ∃ v ∈ s.visitors, c.Vouched service v.log token roles

/-- One of them has come or got on, with what has arrived meanwhile. The others are as they
were. -/
theorem Company.Upheld.next {s s' : Company} {v : Visitor} (h : s.Upheld c service)
    (hothers : ∀ u ∈ s'.visitors, u = v ∨ u ∈ s.visitors)
    (hstay : ∀ u ∈ s.visitors, ∃ u' ∈ s'.visitors, u.log <+: u'.log) (hv : v ∈ s'.visitors)
    (hmore : s.world.traffic.requests <+: s'.world.traffic.requests)
    (hon : AreOn s'.world.traffic v.log)
    (hown : Upholds c service v.log s.world.store (v.flight, s'.world)) :
    s'.Upheld c service where
  honest := by
    intro u hu
    rcases hothers u hu with rfl | hother
    · exact hown.1
    · exact h.honest u hother
  arrived := by
    intro u hu
    rcases hothers u hu with rfl | hother
    · exact hon
    · exact (h.arrived u hother).mono hmore
  session := by
    intro token roles hsnapshot hroles
    rcases hown.2 with hkept | hbacked
    · obtain ⟨u, hu, hvouched⟩ := h.session token roles (hkept ▸ hsnapshot) hroles
      obtain ⟨u', hu', hlog⟩ := hstay u hu
      exact ⟨u', hu', hvouched.mono hlog⟩
    · exact ⟨v, hv, hbacked token roles hsnapshot hroles⟩

/-- Whoever is not the one that gets on stays, and that one keeps what has arrived. -/
theorem exists_mem_set {vs : List Visitor} {i : Nat} {v v' : Visitor} (hi : vs[i]? = some v)
    (hv' : v' ∈ vs.set i v') (hlog : v.log <+: v'.log) :
    ∀ u ∈ vs, ∃ u' ∈ vs.set i v', u.log <+: u'.log := by
  intro u hu
  obtain ⟨j, hj⟩ := List.mem_iff_getElem?.mp hu
  by_cases hij : i = j
  · subst hij
    obtain rfl := Option.some.inj (hi.symm.trans hj)
    exact ⟨v', hv', hlog⟩
  · exact ⟨u, List.mem_of_getElem? ((List.getElem?_set_ne hij).trans hj), List.prefix_refl _⟩

theorem upheld_pass {m : Moment} (hm : m = .progress ∨ m = .expire) {s : Company}
    (h : s.Upheld c service) (i : Nat) : (s.pass service now m i).Upheld c service := by
  unfold Company.pass
  split
  · exact h
  · rename_i v hv
    have hmem : v ∈ s.visitors := List.mem_of_getElem? hv
    have hset := fun v' : Visitor => List.mem_set (List.getElem?_eq_some_iff.mp hv).1 v'
    have hone := pass_requests service now hm v.flight s.world
    refine h.next ?_ (exists_mem_set hv (hset _) (List.prefix_append _ _)) (hset _)
      (prefix_of_requests hone) (areOn_append_arrivals (h.arrived v hmem) hone)
      (pass_moves now hm (h.honest v hmem))
    intro u hu
    exact (List.mem_or_eq_of_mem_set hu).symm

/-- Whoever has the turn. -/
theorem turn_upheld {s : Company} (h : s.Upheld c service) (t : Turn) :
    (s.turn c service t).Upheld c service := by
  cases t with
  | join visit =>
    have hhonest : (visit.flow c).Honest c service s.world.store [] := visit_honest visit _ _
    refine h.next ?_ ?_ (List.mem_append_right _ (List.mem_singleton_self _))
      (List.prefix_refl _) ?_ (depart_honest hhonest)
    · intro u hu
      rcases List.mem_append.mp hu with hbefore | hnew
      · exact Or.inr hbefore
      · exact Or.inl (List.mem_singleton.mp hnew)
    · intro u hu
      exact ⟨u, List.mem_append_left _ hu, List.prefix_refl _⟩
    · intro a ha
      cases ha
  | goOn i now => exact upheld_pass (Or.inl rfl) h i
  | runOut i => exact upheld_pass (Or.inr rfl) h i

/-- And over any turns. -/
theorem after_upheld (turns : List Turn) {s : Company} (h : s.Upheld c service) :
    (s.after c service turns).Upheld c service := by
  induction turns generalizing s with
  | nil => exact h
  | cons t turns ih => exact ih (turn_upheld h t)

end

/-- **The roles in the session belong to the token beside them.** Any number of people sign
in and out at one session, and take their turns in any order: whenever there are roles, one
of them has asked for the identity and shown the token which is kept, and no other, and the
service has answered this very request, or those it redirected it to, with just these
roles. -/
theorem roles_belong_to_credential (c : Client) (service : Http.Service) (traffic : Traffic)
    (turns : List Turn) :
    let s := (Company.opening traffic).after c service turns
    ∀ token roles, s.world.store.snapshot = .signedIn token roles → roles ≠ [] →
      ∃ v ∈ s.visitors, AreOn s.world.traffic v.log ∧ c.Vouched service v.log token roles := by
  intro s token roles hsnapshot hroles
  have hopening : (Company.opening traffic).Upheld c service :=
    ⟨fun v hv => absurd hv List.not_mem_nil, fun v hv => absurd hv List.not_mem_nil,
      fun token roles hs => absurd hs.symm Snapshot.noConfusion⟩
  have hupheld := after_upheld turns hopening
  obtain ⟨v, hv, hvouched⟩ := hupheld.session token roles hsnapshot hroles
  exact ⟨v, hv, hupheld.arrived v hv, hvouched⟩

/-- A service that hands out one token after another, and to each the one role of its name. -/
def rolesByToken : Http.Service := fun earlier r =>
  match Headers.all authorization r.headers with
  | [] =>
    let token := if earlier.isEmpty then "first" else "second"
    answerOf (.object [("access_token", .text token)])
  | shown :: _ => answerOf (Profile.toValue ⟨"e@x", [shown]⟩)

/-- Two sign in at the same time. The second one's token comes first and is replaced by the
other's, and then the second one's roles come. -/
def crossedTurns : List Turn :=
  [.join (.signIn ⟨"e@x", "p"⟩), .join (.signIn ⟨"e@y", "q"⟩), .goOn 0 0, .goOn 0 0, .goOn 1 0,
    .goOn 1 0, .goOn 1 0, .goOn 0 0, .goOn 1 0, .goOn 1 0, .goOn 1 0]

/-- Those roles come with the token that they belong to, and not with the one in between. -/
theorem crossed_sign_ins :
    let before := (Company.opening Traffic.none).after plainClient rolesByToken
      (crossedTurns.take 8)
    let s := (Company.opening Traffic.none).after plainClient rolesByToken crossedTurns
    before.world.store.snapshot = .signedIn "first" [] ∧
      s.world.store.snapshot = .signedIn "second" ["Bearer second"] ∧
      ∃ v ∈ s.visitors, AreOn s.world.traffic v.log ∧
        plainClient.Vouched rolesByToken v.log "second" ["Bearer second"] := by
  have hsession : ((Company.opening Traffic.none).after plainClient rolesByToken
      crossedTurns).world.store.snapshot = .signedIn "second" ["Bearer second"] := by
    decide +kernel
  exact ⟨by decide +kernel, hsession, roles_belong_to_credential plainClient rolesByToken
    Traffic.none crossedTurns "second" ["Bearer second"] hsession (List.cons_ne_nil _ _)⟩

end CoachClient.Service
