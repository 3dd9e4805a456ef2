/-
CoachClient.Proofs.Service.Once — a call is tried once, or not at all.

* `Call.IsUnfit` — a header of the call is invalid, or the credential fits into no
  header; `dispatch_error_iff` — just these are not prepared.
* `Client.CanSend` — a request can name the URL of the call; `request_ok_iff` — otherwise
  there is no request.
* `Call.AbortedFirst` — the call is aborted before anything is done about it.
* `refused_after`, `aborted_after`, `unsendable_after` — in these cases nothing goes over
  the wire, and the session is left to others.
* `call_settled` — no call is tried too often, and one that is left alone is tried often
  enough.
* `call_is_tried_once` — all of that: there is one request, and one more for every redirect
  that is followed; nothing else is a reason to send anything.
* `moved_call_is_tried_twice` — a call whose first answer is a redirect.
* `long_endpoint_is_not_sent` — a URL of the web that no request can name.

Between the call and the first thing that is done about it others may act and time may
pass. What counts is whether that first thing is progress or an abort.
-/
import CoachClient.Proofs.Service.Attempts
import CoachClient.Proofs.Service.Sending

namespace CoachClient.Service

open CoachClient.Access CoachClient.Http CoachClient.Json CoachClient.Text CoachClient.Url

/-! ## 1. Calls that cannot be prepared -/

/-- A header that a call cannot have. The one for the credential is not looked at. -/
def IsUnfitHeader (header : String × String) : Prop :=
  isHeaderName header.1 = false ∨
    headerName header.1 ≠ authorization ∧ isHeaderValue header.2 = false

/-- The call cannot be prepared for somebody with a credential. -/
def Call.IsUnfit (call : Call) (credential : Option String) : Prop :=
  (∃ header ∈ call.headers, IsUnfitHeader header) ∨
    ∃ shown, credential = some shown ∧ isHeaderValue (bearer shown) = false

theorem not_fits_iff {credential : Option String} {extra : List (String × String)} :
    ¬ Fits credential extra ↔ (∃ header ∈ extra, IsUnfitHeader header) ∨
      ∃ shown, credential = some shown ∧ isHeaderValue (bearer shown) = false := by
  constructor
  · intro hunfit
    by_contra hnone
    simp only [IsUnfitHeader, not_or, not_exists, not_and, Bool.not_eq_false] at hnone
    exact hunfit ⟨fun header h => (hnone.1 header h).1, fun header h => (hnone.1 header h).2,
      hnone.2⟩
  · rintro (⟨header, hheader, hname | ⟨hcredential, hvalue⟩⟩ | ⟨shown, hshown, hvalue⟩) hfits
    · simp [hfits.names header hheader] at hname
    · simp [hfits.values header hheader hcredential] at hvalue
    · simp [hfits.credential shown hshown] at hvalue

/-- Just these calls are not prepared. -/
theorem dispatch_error_iff {c : Client} {credential : Option String} {call : Call} :
    (∃ refusal, c.dispatch credential call = .error refusal) ↔ call.IsUnfit credential := by
  unfold Call.IsUnfit
  rw [← not_fits_iff, ← refusal?_eq_none_iff]
  simp only [Client.dispatch, mergeHeaders_eq]
  cases refusal? credential call.headers with
  | some refusal => simp [bind, Except.bind]
  | none => simp [bind, Except.bind]

/-! ## 2. Calls that cannot be sent -/

/-- The URL of the call parses, it is one of the web, and a request can name it. -/
def Client.CanSend (c : Client) (call : Call) : Prop :=
  ∃ url, Url.parse (c.address call.endpoint) = .ok url ∧ url.isWeb = true ∧
    url.takeUserinfo.1.isNameable = true

/-- Otherwise there is no request. -/
theorem request_ok_iff {c : Client} {credential : Option String} {call : Call} {d : Dispatch}
    (h : c.dispatch credential call = .ok d) : (∃ r, d.request = .ok r) ↔ c.CanSend call := by
  obtain ⟨-, -, hurl⟩ := dispatch_ok h
  unfold Client.CanSend
  rw [← hurl]
  cases hparse : Url.parse d.url with
  | error fault => simp [Dispatch.request, hparse, bind, Except.bind]
  | ok url =>
    have hweb := (takeUserinfo_target url).2
    constructor
    · rintro ⟨r, hr⟩
      simp only [Dispatch.request, hparse, mapError_ok, bind, Except.bind] at hr
      split at hr
      · cases hr
      · rename_i hfits
        simp only [Bool.or_eq_true, Bool.not_eq_true', not_or, Bool.not_eq_false] at hfits
        exact ⟨url, rfl, hweb ▸ hfits.1, hfits.2⟩
    · rintro ⟨url', hsame, hweb', hname⟩
      obtain rfl := Except.ok.inj hsame
      rw [← hweb] at hweb'
      simp [Dispatch.request, hparse, bind, Except.bind, hweb', hname]

/-! ## 3. The first thing that is done -/

/-- Something is done about a program that has been called. -/
def Moment.isDecisive : Moment → Bool
  | .progress | .abort => true
  | .change _ | .expire => false

/-- The call is aborted before anything else is done about it: then, or beforehand. -/
def Call.AbortedFirst (call : Call) (ms : List Moment) : Prop :=
  ms.find? Moment.isDecisive = some .abort ∨
    call.cancellation = .before ∧ ms.find? Moment.isDecisive = some .progress

/-- The world with the changes that others make meanwhile. -/
def World.amid (w : World) (ms : List Moment) : World :=
  { w with store := w.store.applyAll (changesIn ms) }

section
variable {α : Type} {service : Http.Service} {now : Int}

theorem World.amid_cons (w : World) (m : Moment) (ms : List Moment) :
    w.amid (m :: ms) = (w.amid [m]).amid ms := by
  unfold World.amid changesIn
  simp only [List.flatMap_cons, List.flatMap_nil, List.append_nil, applyAll_append]

/-- Nothing happens any more to a program that is done. -/
theorem after_landed_amid (ms : List Moment) (a : α) (w : World) :
    Flight.after service now ms (.landed a, w) = (.landed a, w.amid ms) := by
  induction ms generalizing w with
  | nil => rfl
  | cons m ms ih =>
    have hpass : m.pass service now ((.landed a : Flight α), w) = (.landed a, w.amid [m]) := by
      cases m <;> rfl
    rw [World.amid_cons, ← ih (w.amid [m]), ← hpass]
    rfl

/-- A program that has been called stays so, and sends nothing, until it is aborted or
begun with. -/
theorem after_called (service : Http.Service) (now : Int) (d : Dispatch) (next : Outcome → Flow α)
    (ms : List Moment) (w : World) :
    (ms.find? Moment.isDecisive = none ∧
        Flight.after service now ms (.called d next, w) = (.called d next, w.amid ms) ∧
        Flight.attempts service now ms (.called d next, w) = 0) ∨
      ∃ m before rest, ms = before ++ m :: rest ∧ ms.find? Moment.isDecisive = some m ∧
        let p := m.pass service now (.called d next, w.amid before)
        Flight.after service now ms (.called d next, w) = Flight.after service now rest p ∧
          Flight.attempts service now ms (.called d next, w) =
            Flight.attempts service now rest p := by
  induction ms generalizing w with
  | nil => exact Or.inl ⟨rfl, rfl, rfl⟩
  | cons m ms ih =>
    have hattempts : Flight.attempts service now (m :: ms) (.called d next, w) =
        Flight.attempts service now ms (m.pass service now (.called d next, w)) := Nat.zero_add _
    cases hm : m.isDecisive with
    | true => exact Or.inr ⟨m, [], ms, rfl, List.find?_cons_of_pos hm, rfl, hattempts⟩
    | false =>
      have hpass : m.pass service now (Flight.called d next, w) = (.called d next, w.amid [m]) := by
        cases m with
        | progress => cases hm
        | abort => cases hm
        | change c => rfl
        | expire => rfl
      have hfind : (m :: ms).find? Moment.isDecisive = ms.find? Moment.isDecisive :=
        List.find?_cons_of_neg (by simp [hm])
      have hafter : Flight.after service now (m :: ms) (.called d next, w) =
          Flight.after service now ms (.called d next, w.amid [m]) := by
        rw [← hpass]
        rfl
      rw [hpass] at hattempts
      rw [hfind, hafter, hattempts]
      rcases ih (w.amid [m]) with ⟨hnone, hsame⟩ | ⟨m', before, rest, hms, hfound, hrest⟩
      · exact Or.inl ⟨hnone, by rw [World.amid_cons w m ms]; exact hsame⟩
      · refine Or.inr ⟨m', m :: before, rest, by rw [hms, List.cons_append], hfound, ?_⟩
        rw [World.amid_cons w m before]
        exact hrest

/-- A program that lands as soon as something is done about it has sent nothing. -/
theorem after_landing {d : Dispatch} {next : Outcome → Flow α} {ms before rest : List Moment}
    {m : Moment} {a : α} {w : World} (hms : ms = before ++ m :: rest)
    (hm : m.isDecisive = true)
    (hpass : m.pass service now (.called d next, w.amid before) = (.landed a, w.amid before))
    (hrest :
      let p := m.pass service now (.called d next, w.amid before)
      Flight.after service now ms (.called d next, w) = Flight.after service now rest p ∧
        Flight.attempts service now ms (.called d next, w) =
          Flight.attempts service now rest p) :
    Flight.after service now ms (.called d next, w) = (.landed a, w.amid ms) ∧
      Flight.attempts service now ms (.called d next, w) = 0 := by
  have hnone : m.changes = [] := by
    cases m with
    | progress => rfl
    | abort => rfl
    | change c => cases hm
    | expire => rfl
  have hamid : (w.amid before).amid rest = w.amid ms := by
    rw [hms]
    unfold World.amid changesIn
    simp only [List.flatMap_append, List.flatMap_cons, hnone, List.nil_append, applyAll_append]
  obtain ⟨hafter, hattempts⟩ := hrest
  rw [hafter, hattempts, hpass, after_landed_amid, attempts_landed, hamid]
  exact ⟨rfl, rfl⟩

/-- Aborted before anything else is done, it comes to that. -/
theorem after_aborted {call : Call} {d : Dispatch} {next : Outcome → Flow α}
    {ms : List Moment} {a : α} (hcancellation : d.cancellation = call.cancellation)
    (hnext : next .cancelled = .done a) (h : call.AbortedFirst ms) (w : World) :
    Flight.after service now ms (.called d next, w) = (.landed a, w.amid ms) ∧
      Flight.attempts service now ms (.called d next, w) = 0 := by
  rcases after_called service now d next ms w with
    ⟨hnone, -⟩ | ⟨m, before, rest, hms, hfound, hrest⟩
  · rcases h with habort | ⟨-, hprogress⟩
    · rw [hnone] at habort
      cases habort
    · rw [hnone] at hprogress
      cases hprogress
  · have hlanded : Flight.resume next .cancelled (w.amid before) = (.landed a, w.amid before) := by
      simp only [Flight.resume, hnext, Flow.depart]
    refine after_landing hms (List.find?_some hfound) ?_ hrest
    rcases h with habort | ⟨hbefore, hprogress⟩
    · obtain rfl := Option.some.inj (hfound.symm.trans habort)
      exact hlanded
    · obtain rfl := Option.some.inj (hfound.symm.trans hprogress)
      rw [← hcancellation] at hbefore
      simp only [Moment.pass, Flight.advance, Flight.begin, hbefore]
      exact hlanded

/-- Without a request nothing goes over the wire. -/
theorem after_unsendable {d : Dispatch} {next : Outcome → Flow α} {fault : Http.Fault}
    (hnext : Ends next) (hrequest : d.request = .error fault) (ms : List Moment) (w : World) :
    (Flight.after service now ms (.called d next, w)).2 = w.amid ms ∧
      Flight.attempts service now ms (.called d next, w) = 0 := by
  rcases after_called service now d next ms w with
    ⟨-, hsame, hnone⟩ | ⟨m, before, rest, hms, hfound, hrest⟩
  · exact ⟨congrArg Prod.snd hsame, hnone⟩
  · have hpass : ∃ a, m.pass service now (.called d next, w.amid before) =
        (.landed a, w.amid before) := by
      cases m with
      | progress =>
        simp only [Moment.pass, Flight.advance, Flight.begin, hrequest]
        cases d.cancellation with
        | before => exact hnext.resume .cancelled _
        | never => exact hnext.resume (.failed fault) _
        | onArrival => exact hnext.resume (.failed fault) _
      | abort => exact hnext.resume .cancelled _
      | change c => exact absurd (List.find?_some hfound) (by simp [Moment.isDecisive])
      | expire => exact absurd (List.find?_some hfound) (by simp [Moment.isDecisive])
    obtain ⟨a, ha⟩ := hpass
    obtain ⟨hafter, hnone⟩ := after_landing hms (List.find?_some hfound) ha hrest
    exact ⟨congrArg Prod.snd hafter, hnone⟩

/-! ## 4. Calls -/

section
variable {c : Client} {d : Decoder α} {call : Call} {w : World}

/-- What cannot be prepared is refused when the call is made. -/
theorem depart_refused {refusal : Refusal}
    (h : c.dispatch w.store.snapshot.credential? call = .error refusal) :
    (c.send d call).depart w.store = (.landed (.error (.refused refusal)), w.store) := by
  simp only [Client.send, Flow.depart, Client.start, h]

/-- Everything else has been called then. -/
theorem depart_called {dispatch : Dispatch}
    (h : c.dispatch w.store.snapshot.credential? call = .ok dispatch) :
    (c.send d call).depart w.store =
      (.called dispatch fun outcome =>
        .done (settle d call.endpoint dispatch.deadline outcome), w.store) := by
  simp only [Client.send, Flow.depart, Client.start, h]

/-- The limits of a call are those of its dispatch. -/
theorem dispatch_limits {credential : Option String} {dispatch : Dispatch}
    (h : c.dispatch credential call = .ok dispatch) :
    dispatch.cancellation = call.cancellation ∧
      dispatch.deadline = call.timeout.getD c.timeout := by
  unfold Client.dispatch at h
  cases hmerge : mergeHeaders credential call.headers with
  | error refusal =>
    simp only [hmerge, bind, Except.bind] at h
    cases h
  | ok hs =>
    simp only [hmerge, bind, Except.bind] at h
    rw [← Except.ok.inj h]
    exact ⟨rfl, rfl⟩

/-- Nothing cuts the call short: it may take time, nobody aborts it, and it is gone on
with until it is done. -/
structure Call.IsLeftAlone (call : Call) (c : Client) (ms : List Moment) : Prop where
  cancellation : call.cancellation = .never
  deadline : (call.timeout.getD c.timeout).isZero = false
  uninterrupted : Uninterrupted ms
  enough : patience ≤ ms.count .progress

/-- A call that is left alone is done in the end. -/
theorem Call.IsLeftAlone.lands {ms : List Moment} (h : call.IsLeftAlone c ms) (e : Surroundings)
    (w : World) :
    ∃ a, (Flight.after e.service e.now ms (((c.send d call).depart w.store).1, w)).1 =
      .landed a := by
  obtain ⟨f, hf, hdepart⟩ :=
    depart_detached (start_detached c d call w.store.snapshot.credential?)
  have hmade : ((c.send d call).depart w.store).1 = f := congrArg Prod.fst (hdepart w.store)
  have hland := start_lands c d call e w w.store.snapshot.credential? h.enough
  rw [hdepart, ← undisturbed_of_uninterrupted h.uninterrupted] at hland
  obtain ⟨f', t', hboth⟩ := after_heedless e.service e.now ms hf w.traffic
  obtain ⟨hdisturbed, hcalm⟩ := hboth w.store
  rw [hcalm] at hland
  rw [hmade, hdisturbed]
  exact ⟨_, (Prod.mk.inj hland).1⟩

/-! ## 5. What comes of a call -/

/-- A call that is refused is done already. -/
theorem refused_after (d : Decoder α) {refusal : Refusal}
    (h : c.dispatch w.store.snapshot.credential? call = .error refusal) (e : Surroundings)
    (ms : List Moment) :
    let made := ((c.send d call).depart w.store).1
    Flight.after e.service e.now ms (made, w) =
        (.landed (.error (.refused refusal)), w.amid ms) ∧
      Flight.attempts e.service e.now ms (made, w) = 0 := by
  rw [depart_refused h]
  exact ⟨after_landed_amid ms _ w, attempts_landed ms _ w⟩

/-- A call that is aborted first is cancelled. -/
theorem aborted_after (d : Decoder α) {ms : List Moment}
    (hfit : ¬ call.IsUnfit w.store.snapshot.credential?) (habort : call.AbortedFirst ms)
    (e : Surroundings) :
    let made := ((c.send d call).depart w.store).1
    Flight.after e.service e.now ms (made, w) =
        (.landed (.error (.cancelled call.endpoint)), w.amid ms) ∧
      Flight.attempts e.service e.now ms (made, w) = 0 := by
  cases hdispatch : c.dispatch w.store.snapshot.credential? call with
  | error refusal => exact absurd (dispatch_error_iff.mp ⟨refusal, hdispatch⟩) hfit
  | ok dispatch =>
    rw [depart_called hdispatch]
    exact after_aborted (dispatch_limits hdispatch).1 (by rfl) habort w

/-- A call that cannot be sent comes to nothing, for whoever makes it. -/
theorem unsendable_after (d : Decoder α) (hcannot : ¬ c.CanSend call) (e : Surroundings)
    (w : World) (ms : List Moment) :
    let made := ((c.send d call).depart w.store).1
    (Flight.after e.service e.now ms (made, w)).2 = w.amid ms ∧
      Flight.attempts e.service e.now ms (made, w) = 0 := by
  cases hdispatch : c.dispatch w.store.snapshot.credential? call with
  | error refusal =>
    obtain ⟨hafter, hnone⟩ := refused_after d hdispatch e ms
    exact ⟨congrArg Prod.snd hafter, hnone⟩
  | ok dispatch =>
    cases hrequest : dispatch.request with
    | ok r => exact absurd ((request_ok_iff hdispatch).mp ⟨r, hrequest⟩) hcannot
    | error fault =>
      rw [depart_called hdispatch]
      exact after_unsendable (fun outcome => ⟨_, rfl⟩) hrequest ms w

/-- No call is tried too often, and one that can be sent and is left alone is tried often
enough. -/
theorem call_settled (c : Client) (d : Decoder α) (call : Call) (e : Surroundings) (w : World)
    (ms : List Moment) :
    let made := ((c.send d call).depart w.store).1
    ∃ sent, (Flight.after e.service e.now ms (made, w)).2.traffic.requests =
        w.traffic.requests ++ sent ∧
      Settled e.service w.traffic.requests
        (¬ call.IsUnfit w.store.snapshot.credential? ∧ c.CanSend call ∧ call.IsLeftAlone c ms)
        (Flight.attempts e.service e.now ms (made, w)) sent := by
  intro made
  cases hdispatch : c.dispatch w.store.snapshot.credential? call with
  | error refusal =>
    have hunfit := dispatch_error_iff.mp ⟨refusal, hdispatch⟩
    obtain ⟨hafter, hnone⟩ := refused_after d hdispatch e ms
    rw [hafter, hnone]
    exact ⟨[], (List.append_nil _).symm, Nat.zero_le _, fun h => absurd hunfit h.1,
      Nat.le_refl _, fun _ => rfl⟩
  | ok dispatch =>
    obtain ⟨hcancellation, hdeadline⟩ := dispatch_limits hdispatch
    have hmade : made = .called dispatch fun outcome =>
        .done (settle d call.endpoint dispatch.deadline outcome) :=
      congrArg Prod.fst (depart_called hdispatch)
    have hbegun : Tried e.service w.traffic.requests (c.CanSend call ∧ call.IsLeftAlone c ms) 0
        (made, w) := by
      rw [hmade]
      refine .called (fun outcome => ⟨_, rfl⟩) rfl fun ⟨hcan, halone⟩ =>
        ⟨?_, ?_, (request_ok_iff hdispatch).mpr hcan⟩
      · rw [hcancellation, halone.cancellation]
      · rw [hdeadline, halone.deadline]
    have hafter : Tried e.service w.traffic.requests _
        (0 + Flight.attempts e.service e.now ms (made, w))
        (Flight.after e.service e.now ms (made, w)) :=
      hbegun.after fun ⟨_, halone⟩ => halone.uninterrupted
    rw [Nat.zero_add] at hafter
    obtain ⟨sent, hsent, hsettled⟩ := hafter.settled
    exact ⟨sent, hsent, hsettled.few, fun ⟨_, hcan, halone⟩ =>
      hsettled.exact ⟨⟨hcan, halone⟩, halone.lands e w⟩, hsettled.arrived, hsettled.taken⟩

end

end

/-- **A call is tried once, or not at all.** If it cannot be prepared, it is refused,
whether it has been aborted or not; otherwise, if it is aborted before anything is done
about it, it is cancelled. Then, and if no request can name its URL, nothing is sent,
nothing goes over the wire, and the session is left to others. In every case there is at
most one attempt and one for each redirect that is followed, of which there are at most
ten; there are exactly that many if the call can be sent and is left alone. -/
theorem call_is_tried_once {α : Type} (c : Client) (d : Decoder α) (call : Call)
    (e : Surroundings) (w : World) (ms : List Moment) :
    let credential := w.store.snapshot.credential?
    let made := ((c.send d call).depart w.store).1
    let final := Flight.after e.service e.now ms (made, w)
    let attempts := Flight.attempts e.service e.now ms (made, w)
    (call.IsUnfit credential → attempts = 0 ∧
        ∃ refusal, final = (.landed (.error (.refused refusal)), w.amid ms)) ∧
      (¬ call.IsUnfit credential → call.AbortedFirst ms → attempts = 0 ∧
        final = (.landed (.error (.cancelled call.endpoint)), w.amid ms)) ∧
      (¬ c.CanSend call → attempts = 0 ∧ final.2 = w.amid ms) ∧
      ∃ sent, final.2.traffic.requests = w.traffic.requests ++ sent ∧
        sent.length ≤ attempts ∧
        ((∀ earlier r, e.service earlier r ≠ .unreachable) → sent.length = attempts) ∧
        attempts ≤ 1 + min maxRedirects (redirects e.service w.traffic.requests sent) ∧
        (¬ call.IsUnfit credential → c.CanSend call → call.IsLeftAlone c ms →
          attempts = 1 + min maxRedirects (redirects e.service w.traffic.requests sent)) := by
  intro credential made final attempts
  refine ⟨fun hunfit => ?_, fun hfit habort => ?_, fun hcannot => ?_, ?_⟩
  · obtain ⟨refusal, hrefused⟩ := dispatch_error_iff.mpr hunfit
    obtain ⟨hafter, hnone⟩ := refused_after d hrefused e ms
    exact ⟨hnone, refusal, hafter⟩
  · exact (aborted_after d hfit habort e).symm
  · exact (unsendable_after d hcannot e w ms).symm
  · obtain ⟨sent, hsent, hsettled⟩ := call_settled c d call e w ms
    exact ⟨sent, hsent, hsettled.arrived, hsettled.taken, hsettled.few,
      fun hfit hcan halone => hsettled.exact ⟨hfit, hcan, halone⟩⟩

/-! ## 6. Two calls -/

theorem isLeftAlone_plain (endpoint : String) :
    (Call.get endpoint).IsLeftAlone plainClient (progress patience) where
  cancellation := rfl
  deadline := show plainClient.timeout.isZero = false by decide
  uninterrupted := fun m hm => Or.inl (List.eq_of_mem_replicate hm)
  enough := by simp [progress]

theorem not_isUnfit_get (endpoint : String) : ¬ (Call.get endpoint).IsUnfit none := by
  rintro (⟨header, hheader, -⟩ | ⟨shown, hshown, -⟩)
  · cases hheader
  · cases hshown

/-- A call that the service sends on when it is made for the first time. -/
def movedCall : Call := .get "/sessions"

theorem canSend_movedCall : plainClient.CanSend movedCall := by
  have hfits : (Url.parse (plainClient.address movedCall.endpoint)).toOption.map
      (fun url => (url.isWeb, url.takeUserinfo.1.isNameable)) = some (true, true) := by
    decide +kernel
  unfold Client.CanSend
  cases hparse : Url.parse (plainClient.address movedCall.endpoint) with
  | error fault =>
    rw [hparse] at hfits
    cases hfits
  | ok url =>
    rw [hparse] at hfits
    obtain ⟨hweb, hname⟩ := Prod.mk.inj (Option.some.inj hfits)
    exact ⟨url, rfl, hweb, hname⟩

/-- The client is sent on once, so it asks twice. -/
theorem moved_call_is_tried_twice :
    let e := Surroundings.answering movedScript
    let made := ((plainClient.send Decoder.value movedCall).depart World.fresh.store).1
    let final := Flight.after e.service e.now (progress patience) (made, World.fresh)
    let attempts := Flight.attempts e.service e.now (progress patience) (made, World.fresh)
    ¬ movedCall.IsUnfit World.fresh.store.snapshot.credential? ∧ plainClient.CanSend movedCall ∧
      movedCall.IsLeftAlone plainClient (progress patience) ∧
      (∃ sent, final.2.traffic.requests = World.fresh.traffic.requests ++ sent ∧
        attempts =
          1 + min maxRedirects (redirects e.service World.fresh.traffic.requests sent)) ∧
      attempts = 2 := by
  have hfit : ¬ movedCall.IsUnfit World.fresh.store.snapshot.credential? := not_isUnfit_get _
  have halone : movedCall.IsLeftAlone plainClient (progress patience) := isLeftAlone_plain _
  obtain ⟨-, -, -, sent, hsent, -, -, -, hexact⟩ := call_is_tried_once plainClient Decoder.value
    movedCall (.answering movedScript) World.fresh (progress patience)
  refine ⟨hfit, canSend_movedCall, halone, ⟨sent, hsent, hexact hfit canSend_movedCall halone⟩, ?_⟩
  decide +kernel

/-- An endpoint that is longer than the URLs which a request can name. -/
def longEndpoint : String := String.ofList ('/' :: List.replicate maxTargetLength 'a')

theorem isPlainPath_replicate (n : Nat) : IsPlainPath (List.replicate n 'a') where
  chars c hc := by
    rw [List.eq_of_mem_replicate hc]
    decide
  pieces piece hpiece := by
    have hslash : ∀ c ∈ List.replicate n 'a', isSlash .special c = false := fun c hc => by
      rw [List.eq_of_mem_replicate hc]
      decide
    rw [splitSlashes_of_not hslash, List.mem_singleton] at hpiece
    refine dots_of_eq_none fun dots hdots hsame => ?_
    -- every spelling of dots has another character in it
    have hother : ∀ dots ∈ dotSpellings, dots.all (· == 'a') = false := by decide
    have hall : dots.all (· == 'a') = true := by
      rw [← hsame, hpiece, List.map_replicate]
      simp
    rw [hother dots hdots] at hall
    cases hall

/-- A request names a URL with all of its path and query. -/
theorem isNameable_of_long {u : Url} (h : maxTargetLength < u.target.length) :
    u.isNameable = false := by
  have htext : u.target.length ≤ u.text.length := by
    simp only [Url.target, Url.text, String.length_ofList, List.length_append]
    omega
  have hlong : ¬ u.text.length ≤ maxTargetLength := by omega
  simp [Url.isNameable, hlong]

theorem isOrigin_plainClient : ∃ base, IsOrigin plainClient.baseUrl base :=
  exists_isOrigin "http".toList "service".toList 0 (by decide +kernel) rfl
    (List.all_iff_forall_prop.mp (by decide)) (by decide)
    (List.all_iff_forall_prop.mp (by decide))

theorem longEndpoint_toList : longEndpoint.toList = '/' :: List.replicate maxTargetLength 'a' :=
  String.toList_ofList

/-- The address is a URL of the web that no request can name. -/
theorem parse_longEndpoint :
    ∃ url, Url.parse (plainClient.address longEndpoint) = .ok url ∧ url.isWeb = true ∧
      url.takeUserinfo.1.isNameable = false := by
  obtain ⟨base, horigin⟩ := isOrigin_plainClient
  obtain ⟨url, hparse, hweb, htarget⟩ := horigin.parse_address
    (isPlainEndpoint_of_path longEndpoint_toList (isPlainPath_replicate maxTargetLength))
  refine ⟨url, hparse, hweb, isNameable_of_long ?_⟩
  rw [(takeUserinfo_target url).1, htarget, ← String.length_toList, longEndpoint_toList,
    List.length_cons, List.length_replicate]
  exact Nat.lt_succ_self _

/-- It makes a URL of the web, and yet there is no attempt. -/
theorem long_endpoint_is_not_sent :
    let e := Surroundings.answering [answerOf (.bool true)]
    let made := ((plainClient.send Decoder.value (.get longEndpoint)).depart World.fresh.store).1
    ¬ (Call.get longEndpoint).IsUnfit World.fresh.store.snapshot.credential? ∧
      ¬ (Call.get longEndpoint).AbortedFirst (progress patience) ∧
      (∃ url, Url.parse (plainClient.address longEndpoint) = .ok url ∧ url.isWeb = true) ∧
      (Call.get longEndpoint).IsLeftAlone plainClient (progress patience) ∧
      (Flight.after e.service e.now (progress patience) (made, World.fresh)).2 = World.fresh ∧
      Flight.attempts e.service e.now (progress patience) (made, World.fresh) = 0 := by
  obtain ⟨url, hparse, hweb, hname⟩ := parse_longEndpoint
  have hfit : ¬ (Call.get longEndpoint).IsUnfit World.fresh.store.snapshot.credential? :=
    not_isUnfit_get _
  have hcannot : ¬ plainClient.CanSend (.get longEndpoint) := by
    rintro ⟨url', hparse', -, hname'⟩
    obtain rfl := Except.ok.inj (hparse.symm.trans hparse')
    rw [hname] at hname'
    cases hname'
  have hfirst : ¬ (Call.get longEndpoint).AbortedFirst (progress patience) := by
    rintro (habort | ⟨hbefore, -⟩)
    · exact absurd habort (by decide)
    · cases hbefore
  have hnone := unsendable_after Decoder.value hcannot (.answering [answerOf (.bool true)])
    World.fresh (progress patience)
  exact ⟨hfit, hfirst, ⟨url, hparse, hweb⟩, isLeftAlone_plain _, hnone⟩

end CoachClient.Service
