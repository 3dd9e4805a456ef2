/-
CoachClient.Proofs.Service.Interference — what others do to the session has no
influence on a request that is on its way.

* `Flow.Detached` — a program that neither looks at the session nor changes it; what
  is left of a call once it has been made is such a program.
* `Heedless` — where a program gets, and what goes over the wire, whatever the session
  is; `advance_heedless` — so it is for the next thing that happens to a detached
  program, one case for each place where it can be.
* `pass_heedless`, `after_heedless` — changes that others make get into the session and
  nowhere else, at one moment and by induction over any moments.
* `progress_start` — a call that is left alone comes to its result.
* `request_keeps_its_credential` — a request is made with the credential of the moment
  of its call and takes its way whatever others do; the session is left to them.
-/
import CoachClient.Proofs.Service.Flight

namespace CoachClient.Service

open CoachClient.Access CoachClient.Http CoachClient.Json CoachClient.Text

/-! ## 1. Programs that leave the session alone -/

/-- The program neither looks at the session nor changes it. -/
inductive Flow.Detached {α : Type} : Flow α → Prop where
  | done (a : α) : Detached (.done a)
  | exchange (d : Dispatch) {next : Outcome → Flow α} (h : ∀ o, Detached (next o)) :
    Detached (.exchange d next)

/-- What is left of the program leaves the session alone. -/
def Flight.Detached {α : Type} : Flight α → Prop
  | .landed _ => True
  | .called _ next | .sending _ next | .awaiting _ _ next => ∀ o, (next o).Detached

/-- A call looks at the session when it is made, and then never again. -/
theorem start_detached {α : Type} (c : Client) (d : Decoder α) (call : Call)
    (credential : Option String) : (c.start d call credential).Detached := by
  unfold Client.start
  split
  · exact .done _
  · exact .exchange _ fun _ => .done _

section
variable {α : Type} {service : Http.Service} {now : Int}

theorem depart_detached {p : Flow α} (h : p.Detached) :
    ∃ f : Flight α, f.Detached ∧ ∀ s, p.depart s = (f, s) := by
  cases h with
  | done a => exact ⟨.landed a, trivial, fun _ => rfl⟩
  | exchange d hnext => exact ⟨.called d _, hnext, fun _ => rfl⟩

/-! ## 2. One moment -/

/-- Where a program gets and what goes over the wire is the same for every session, and
the session is not changed. -/
def Heedless (p : Store → Flight α × World) : Prop :=
  ∃ (f : Flight α) (t : Traffic), f.Detached ∧ ∀ s, p s = (f, ⟨s, t⟩)

theorem resume_heedless {next : Outcome → Flow α} (h : ∀ o, (next o).Detached) (o : Outcome)
    (t : Traffic) : Heedless fun s => Flight.resume next o ⟨s, t⟩ := by
  obtain ⟨f, hf, hdepart⟩ := depart_detached (h o)
  exact ⟨f, t, hf, fun s => by simp only [Flight.resume, hdepart]⟩

theorem begin_heedless {next : Outcome → Flow α} (h : ∀ o, (next o).Detached) (d : Dispatch)
    (t : Traffic) : Heedless fun s => Flight.begin d next ⟨s, t⟩ := by
  unfold Flight.begin
  split
  · exact resume_heedless h _ t
  · exact resume_heedless h _ t
  · split
    · exact resume_heedless h _ t
    · exact ⟨.sending _ next, t, h, fun _ => rfl⟩

theorem send_heedless {next : Outcome → Flow α} (h : ∀ o, (next o).Detached) (leg : Leg)
    (t : Traffic) : Heedless fun s => Flight.send service leg next ⟨s, t⟩ := by
  unfold Flight.send
  simp only
  split
  · exact resume_heedless h _ t
  · split
    · exact resume_heedless h _ _
    · exact ⟨.awaiting leg _ next, _, h, fun _ => rfl⟩

theorem proceed_heedless {next : Outcome → Flow α} (h : ∀ o, (next o).Detached) (leg : Leg)
    (step : Step) (t : Traffic) : Heedless fun s => Flight.proceed leg next step ⟨s, t⟩ := by
  unfold Flight.proceed
  split
  · exact resume_heedless h _ t
  · exact resume_heedless h _ t
  · split
    · exact ⟨.sending _ next, t, h, fun _ => rfl⟩
    · exact resume_heedless h _ t

theorem advance_heedless {f : Flight α} (h : f.Detached) (t : Traffic) :
    Heedless fun s => f.advance service now ⟨s, t⟩ := by
  cases f with
  | landed a => exact ⟨.landed a, t, h, fun _ => rfl⟩
  | called d next => exact begin_heedless h d t
  | sending leg next => exact send_heedless h leg t
  | awaiting leg answer next =>
    let received := Flight.answered now leg answer t
    exact proceed_heedless h leg received.1 received.2

theorem cutShort_heedless {f : Flight α} (h : f.Detached) (o : Outcome) (t : Traffic) :
    Heedless fun s => f.cutShort o ⟨s, t⟩ := by
  cases f with
  | landed a => exact ⟨.landed a, t, h, fun _ => rfl⟩
  | called d next => exact resume_heedless h o t
  | sending leg next => exact resume_heedless h o t
  | awaiting leg answer next => exact resume_heedless h o t

variable (service now)

/-- A moment that is no change by others. -/
theorem pass_heedless {m : Moment} (hm : m.isChange = false) {f : Flight α} (h : f.Detached)
    (t : Traffic) : Heedless fun s => m.pass service now (f, ⟨s, t⟩) := by
  cases m with
  | progress => exact advance_heedless h t
  | change c => cases hm
  | abort => exact cutShort_heedless h .cancelled t
  | expire =>
    cases f with
    | called d next => exact ⟨.called d next, t, h, fun _ => rfl⟩
    | landed a => exact cutShort_heedless h .timedOut t
    | sending leg next => exact cutShort_heedless h .timedOut t
    | awaiting leg answer next => exact cutShort_heedless h .timedOut t

/-! ## 3. Any moments -/

/-- Where a program gets that leaves the session alone, with and without the changes
that others make. -/
theorem after_heedless (ms : List Moment) {f : Flight α} (h : f.Detached) (t : Traffic) :
    ∃ (f' : Flight α) (t' : Traffic), ∀ s,
      Flight.after service now ms (f, ⟨s, t⟩) = (f', ⟨s.applyAll (changesIn ms), t'⟩) ∧
        Flight.after service now (undisturbed ms) (f, ⟨s, t⟩) = (f', ⟨s, t'⟩) := by
  induction ms generalizing f t with
  | nil => exact ⟨f, t, fun s => ⟨rfl, rfl⟩⟩
  | cons m ms ih =>
    cases hm : m.isChange with
    | false =>
      obtain ⟨f₁, t₁, hf₁, hpass⟩ := pass_heedless service now hm h t
      obtain ⟨f', t', hrest⟩ := ih hf₁ t₁
      have hchanges : changesIn (m :: ms) = changesIn ms := by
        cases m with
        | change c => cases hm
        | progress => rfl
        | abort => rfl
        | expire => rfl
      have hkept : undisturbed (m :: ms) = m :: undisturbed ms := by simp [undisturbed, hm]
      refine ⟨f', t', fun s => ?_⟩
      rw [hchanges, hkept]
      simp only [Flight.after, List.foldl_cons, hpass s]
      exact hrest s
    | true =>
      obtain ⟨f', t', hrest⟩ := ih h t
      cases m with
      | change c => exact ⟨f', t', fun s => ⟨(hrest (s.apply c)).1, (hrest s).2⟩⟩
      | progress => cases hm
      | abort => cases hm
      | expire => cases hm

end

/-! ## 4. Calls -/

/-- The same surroundings without anybody else. -/
def Surroundings.alone (e : Surroundings) : Surroundings := { e with meanwhile := fun _ => [] }

/-- Alone, an exchange leaves the session alone. -/
theorem World.perform_alone (e : Surroundings) (d : Dispatch) (w : World) :
    w.perform e.alone d =
      ((Http.perform e.service e.now d w.traffic).1,
        { w with traffic := (Http.perform e.service e.now d w.traffic).2 }) := by
  have hquiet : e.alone.Quiet := fun _ => rfl
  have hstore : (w.perform e.alone d).2.store = w.store := World.perform_store hquiet d w
  rcases hp : Http.perform e.service e.now d w.traffic with ⟨outcome, t⟩
  have hperform : w.perform e.alone d = (outcome, ⟨(w.perform e.alone d).2.store, t⟩) := by
    simp only [World.perform, Surroundings.alone, hp]
  rw [hperform, hstore]

section
variable {α : Type} (c : Client) (d : Decoder α) (call : Call) (e : Surroundings) (w : World)

/-- A call that has been made comes to its result, if it is left alone. -/
theorem progress_start (credential : Option String) :
    ∃ n ≤ patience,
      Flight.after e.service e.now (progress n) (((c.start d call credential).depart w.store).1, w) =
        (.landed ((c.start d call credential).run e.alone w).1,
          ((c.start d call credential).run e.alone w).2) := by
  unfold Client.start
  cases hd : c.dispatch credential call with
  | error refusal => exact ⟨0, Nat.zero_le _, rfl⟩
  | ok dispatch =>
    obtain ⟨n, hn, hrun⟩ := progress_perform e.service e.now dispatch
      (fun outcome => .done (settle d call.endpoint dispatch.deadline outcome)) w
    refine ⟨n, hn, ?_⟩
    simp only [Flow.depart, Flow.run, World.perform_alone]
    exact hrun

/-- And then it stays with it. -/
theorem start_lands (credential : Option String) {n : Nat} (hn : patience ≤ n) :
    Flight.after e.service e.now (progress n) (((c.start d call credential).depart w.store).1, w) =
      (.landed ((c.start d call credential).run e.alone w).1,
        ((c.start d call credential).run e.alone w).2) := by
  obtain ⟨m, hm, hland⟩ := progress_start c d call e w credential
  obtain ⟨rest, rfl⟩ := Nat.exists_eq_add_of_le (Nat.le_trans hm hn)
  rw [after_progress_add, hland]
  exact after_landed rest _ _

theorem start_store (credential : Option String) :
    ((c.start d call credential).run e.alone w).2.store = w.store := by
  unfold Client.start
  cases hd : c.dispatch credential call with
  | error refusal => rfl
  | ok dispatch => simp only [Flow.run, World.perform_alone]

/-- The call as a whole, with changes by others before anything is done about it and
whenever a request arrives. -/
theorem start_run_amid (credential : Option String) (before : List Change) :
    (c.start d call credential).run e { w with store := w.store.applyAll before } =
      let alone := (c.start d call credential).run e.alone w
      (alone.1,
        ⟨(w.store.applyAll before).applyAll (e.others w alone.2), alone.2.traffic⟩) := by
  unfold Client.start
  cases hd : c.dispatch credential call with
  | error refusal =>
    simp only [Flow.run_done, others_self]
    rfl
  | ok dispatch =>
    simp only [Flow.run, World.perform_alone]
    rfl

end

/-- The moments are nothing but progress and changes by others. -/
def Uninterrupted (ms : List Moment) : Prop := ∀ m ∈ ms, m = .progress ∨ m.isChange = true

theorem undisturbed_of_uninterrupted {ms : List Moment} (h : Uninterrupted ms) :
    undisturbed ms = progress (ms.count .progress) := by
  induction ms with
  | nil => rfl
  | cons m ms ih =>
    have hrest := ih fun m' hm' => h m' (List.mem_cons_of_mem m hm')
    rcases h m List.mem_cons_self with rfl | hchange
    · simp only [undisturbed, progress, List.count_cons_self, List.replicate_succ] at hrest ⊢
      rw [List.filter_cons_of_pos rfl, hrest]
    · have hne : m ≠ .progress := by
        rintro rfl
        cases hchange
      rw [List.count_cons_of_ne hne, ← hrest]
      simp [undisturbed, hchange]

/-- **A request keeps the credential it was called with.** Once a call has been made,
whatever happens to it comes out the same with and without the changes that others make
to the session: where it is, its result and what goes over the wire. The session is what
these changes leave; the call itself leaves it alone. When nobody gives up waiting, it
comes to the result that it has by itself, and so it does as a whole, with changes before
it is begun with and whenever a request arrives. -/
theorem request_keeps_its_credential {α : Type} (c : Client) (d : Decoder α) (call : Call)
    (e : Surroundings) (w : World) :
    let made := (c.send d call).depart w.store
    let alone := (c.send d call).run e.alone w
    made.2 = w.store ∧ alone.2.store = w.store ∧
      (∀ ms,
        let disturbed := Flight.after e.service e.now ms (made.1, w)
        let calm := Flight.after e.service e.now (undisturbed ms) (made.1, w)
        disturbed.1 = calm.1 ∧ disturbed.2.traffic = calm.2.traffic ∧
          calm.2.store = w.store ∧ disturbed.2.store = w.store.applyAll (changesIn ms)) ∧
      (∀ ms, Uninterrupted ms → patience ≤ ms.count .progress →
        Flight.after e.service e.now ms (made.1, w) =
          (.landed alone.1, ⟨w.store.applyAll (changesIn ms), alone.2.traffic⟩)) ∧
      ∀ before,
        (c.start d call w.store.snapshot.credential?).run e
            { w with store := w.store.applyAll before } =
          (alone.1,
            ⟨(w.store.applyAll before).applyAll (e.others w alone.2), alone.2.traffic⟩) := by
  intro made alone
  have hstart := start_detached c d call w.store.snapshot.credential?
  obtain ⟨f, hf, hdepart⟩ := depart_detached hstart
  have hmade : made = (f, w.store) := hdepart w.store
  have hafter := fun ms =>
    after_heedless e.service e.now ms hf w.traffic
  have hlands : ∀ {n}, patience ≤ n →
      Flight.after e.service e.now (progress n) (f, w) = (.landed alone.1, alone.2) := by
    intro n hn
    have hland := start_lands c d call e w w.store.snapshot.credential? hn
    rw [hdepart] at hland
    exact hland
  refine ⟨by rw [hmade], start_store c d call e w _, fun ms => ?_, fun ms hms hn => ?_,
    fun before => ?_⟩
  · obtain ⟨f', t', hboth⟩ := hafter ms
    obtain ⟨hdisturbed, hcalm⟩ := hboth w.store
    simp only [hmade]
    rw [hdisturbed, hcalm]
    exact ⟨rfl, rfl, rfl, rfl⟩
  · obtain ⟨f', t', hboth⟩ := hafter ms
    obtain ⟨hdisturbed, hcalm⟩ := hboth w.store
    have hland := hlands hn
    rw [← undisturbed_of_uninterrupted hms] at hland
    rw [hcalm] at hland
    obtain ⟨rfl, hworld⟩ := Prod.mk.inj hland
    rw [hmade, hdisturbed, ← hworld]
  · exact start_run_amid c d call e w _ before

/-! ## 5. A call with others at work -/

/-- Somebody is signed in. -/
def coachWorld : World := ⟨⟨.signedIn "tok" ["coach"], 1⟩, Traffic.none⟩

/-- The service sends the client on, and then answers. -/
def movedScript : List Answer := [.full ⟨⟨302⟩, [("Location", "/moved")], []⟩, answerOf (.bool true)]

/-- Signing out before anything is done about the call, and signing in as somebody else
while its first answer is on the way. -/
def busyMoments : List Moment :=
  [.change .clear, .progress, .progress, .change (.establish "other" ["admin"])] ++
    progress patience

/-- Both requests show the credential of the call. -/
theorem request_shows_old_credential :
    Uninterrupted busyMoments ∧ patience ≤ busyMoments.count .progress ∧
      let made := ((plainClient.send Decoder.value (.get "/sessions")).depart coachWorld.store).1
      let final := Flight.after (Surroundings.answering movedScript).service 0 busyMoments
        (made, coachWorld)
      (∃ result, final.1 = .landed result) ∧
        final.2.traffic.requests.map (fun r => Headers.all authorization r.headers) =
          [["Bearer tok"], ["Bearer tok"]] ∧
        final.2.store.snapshot = .signedIn "other" ["admin"] := by
  have hms : Uninterrupted busyMoments := by
    unfold Uninterrupted
    decide
  have hn : patience ≤ busyMoments.count .progress := by decide
  obtain ⟨-, -, -, hlands, -⟩ := request_keeps_its_credential plainClient Decoder.value
    (.get "/sessions") (.answering movedScript) coachWorld
  have hland := hlands busyMoments hms hn
  refine ⟨hms, hn, ?_⟩
  intro made final
  have hfinal : final = _ := hland
  rw [hfinal]
  exact ⟨⟨_, rfl⟩, by decide +kernel, by decide⟩

end CoachClient.Service
