/-
CoachClient.Proofs.Service.Vouching — what the service has vouched for.

* `Arrival`, `arrivals` — a request that has arrived, and what had gone over the wire
  before it, requests of others included.
* `AnsweredAlong` — a request was answered, by itself or after redirects, along arrivals
  that follow one another; `AnsweredAlong.unique` — there is no other answer along them.
* `Client.Vouched`, `Client.Backs` — the service has named these roles to somebody who
  showed this token; the roles that are kept have been named to the token beside them.
* `Flow.Honest` — whatever comes of its exchanges, and whatever others do meanwhile, a
  program only keeps what the service has vouched for to this program.
* `signIn_honest`, `signOut_honest` — the two programs that change the session are like
  that.
* `Flight.Honest`, `advance_moves` — so is a program on its way, and what it puts into
  the session at a moment are roles that belong to their token.

All arrivals here are those of one program: what others send stands between them on the
wire, but is no answer to it. What a program knows of the session is lost as soon as it
waits. Signing in gets along without: between putting the token in place and asking for
the identity it does not wait, so the request shows that token, and what it writes at the
end it has not read there.
-/
import CoachClient.Proofs.Service.Flight
import CoachClient.Proofs.Service.Yield

namespace CoachClient.Service

open CoachClient.Access CoachClient.Coaching CoachClient.Http CoachClient.Json CoachClient.Text

/-! ## 1. Answers -/

/-- A request that has arrived, after what had gone over the wire before. -/
structure Arrival where
  before : Traffic
  sent : Request
  deriving DecidableEq, Repr

/-- The arrivals that lead from one traffic to another. -/
def arrivals (before after : Traffic) : List Arrival :=
  (after.requests.drop before.requests.length).map (⟨before, ·⟩)

theorem arrivals_of_same {before after : Traffic}
    (h : after.requests = before.requests) : arrivals before after = [] := by
  simp [arrivals, h]

theorem arrivals_of_arrived {before after : Traffic} {r : Request}
    (h : after.requests = before.requests ++ [r]) : arrivals before after = [⟨before, r⟩] := by
  simp [arrivals, h]

/-- A request was answered in full at the first of these arrivals, or the service led from
there to another request, and that one was answered along the next arrivals. -/
inductive AnsweredAlong (service : Http.Service) :
    Request → List Arrival → Status → List UInt8 → Prop where
  | full {r : Request} {a : Arrival} {later : List Arrival} {response : Response}
      (hsent : a.sent = r.withCookies a.before.jar)
      (hanswer : service a.before.requests a.sent = .full response)
      (hlast : followUp r response = none) :
      AnsweredAlong service r (a :: later) response.status response.body
  | redirected {r next : Request} {a : Arrival} {later : List Arrival} {status : Status}
      {body : List UInt8} (hsent : a.sent = r.withCookies a.before.jar)
      (hnext : Redirected service a.before.requests r a.before.jar next)
      (h : AnsweredAlong service next later status body) :
      AnsweredAlong service r (a :: later) status body

/-- What comes of a dispatch has been said to its request, somewhere in these arrivals. -/
def AnsweredIn (service : Http.Service) (log : List Arrival) (d : Dispatch) (status : Status)
    (body : List UInt8) : Prop :=
  ∃ r chain, d.request = .ok r ∧ chain <:+ log ∧ AnsweredAlong service r chain status body

section
variable {c : Client} {service : Http.Service} {now : Int} {log log' : List Arrival}

/-- The first of the arrivals is the request with the cookies of its moment. -/
theorem AnsweredAlong.first {r : Request} {status : Status} {body : List UInt8}
    (h : AnsweredAlong service r log status body) :
    ∃ first later, log = first :: later ∧ first.sent = r.withCookies first.before.jar := by
  cases h with
  | full hsent _ _ => exact ⟨_, _, rfl, hsent⟩
  | redirected hsent _ _ => exact ⟨_, _, rfl, hsent⟩

theorem AnsweredAlong.append {r : Request} {status : Status} {body : List UInt8}
    (h : AnsweredAlong service r log status body) (more : List Arrival) :
    AnsweredAlong service r (log ++ more) status body := by
  induction h with
  | full hsent hanswer hlast => exact .full hsent hanswer hlast
  | redirected hsent hnext _ ih => exact .redirected hsent hnext ih

/-- A request is answered or led on, and not both. -/
theorem not_redirected_of_last {a : Arrival} {r r' next : Request} {response : Response}
    (hsent : a.sent = r.withCookies a.before.jar)
    (hanswer : service a.before.requests a.sent = .full response)
    (hlast : followUp r response = none) (hsent' : a.sent = r'.withCookies a.before.jar) :
    ¬ Redirected service a.before.requests r' a.before.jar next := by
  rintro ⟨response', hanswer', hnext⟩
  rw [← hsent', hanswer] at hanswer'
  obtain rfl : response = response' := by
    rcases hanswer' with hfull | hbroken
    · exact Answer.full.inj hfull
    · cases hbroken
  have hurl : r.url = r'.url := by
    rw [← (withCookies_method_url r a.before.jar).2, ← hsent, hsent',
      (withCookies_method_url r' a.before.jar).2]
  have hwhere := followUp_url r response
  rw [hurl, ← followUp_url r' response, hlast, hnext] at hwhere
  cases hwhere

/-- Along the same arrivals there is one answer. -/
theorem AnsweredAlong.unique {r r' : Request} {status status' : Status} {body body' : List UInt8}
    (h : AnsweredAlong service r log status body)
    (h' : AnsweredAlong service r' log status' body') : status = status' ∧ body = body' := by
  induction h generalizing r' with
  | full hsent hanswer hlast =>
    cases h' with
    | full _ hanswer' _ =>
      obtain rfl := Answer.full.inj (hanswer.symm.trans hanswer')
      exact ⟨rfl, rfl⟩
    | redirected hsent' hnext' _ =>
      exact absurd hnext' (not_redirected_of_last hsent hanswer hlast hsent')
  | redirected hsent hnext _ ih =>
    cases h' with
    | full hsent' hanswer' hlast' =>
      exact absurd hnext (not_redirected_of_last hsent' hanswer' hlast' hsent)
    | redirected _ _ hrest => exact ih hrest

/-- The service has answered a request for the identity that showed this token, and no
other, with these roles. -/
def Client.Vouched (c : Client) (service : Http.Service) (log : List Arrival) (token : String)
    (roles : List String) : Prop :=
  ∃ get first later status body profile, first :: later <:+ log ∧
    c.Asks "GET" "/auth/me" first.sent ∧
    Headers.all authorization first.sent.headers = [bearer token] ∧
    AnsweredAlong service get (first :: later) status body ∧ status.isSuccess = true ∧
    Profile.decoder.decode body = .ok profile ∧ profile.roles = roles

/-- Roles that are kept belong to the token beside them. -/
def Client.Backs (c : Client) (service : Http.Service) (log : List Arrival) (s : Snapshot) :
    Prop :=
  ∀ token roles, s = .signedIn token roles → roles ≠ [] → c.Vouched service log token roles

theorem suffix_append_append {chain : List Arrival} (h : chain <:+ log) (more : List Arrival) :
    chain ++ more <:+ log ++ more := by
  obtain ⟨front, rfl⟩ := h
  exact ⟨front, (List.append_assoc ..).symm⟩

/-- What has been vouched for stays so. -/
theorem Client.Vouched.mono {token : String} {roles : List String}
    (h : c.Vouched service log token roles) (hlog : log <+: log') :
    c.Vouched service log' token roles := by
  obtain ⟨get, first, later, status, body, profile, harrived, hasks, hshown, hanswered, hrest⟩ := h
  obtain ⟨more, rfl⟩ := hlog
  exact ⟨get, first, later ++ more, status, body, profile, suffix_append_append harrived more,
    hasks, hshown, hanswered.append more, hrest⟩

theorem backs_anonymous : c.Backs service log .anonymous := by
  intro token roles hs
  cases hs

/-- A token without roles claims nothing. -/
theorem backs_establish_nil (token : String) :
    c.Backs service log (Change.establish token []).result := by
  cases hblank : allBlank token with
  | true =>
    rw [result_establish_of_blank hblank]
    exact backs_anonymous
  | false =>
    rw [result_establish_of_not_blank hblank]
    intro token' roles hs hroles
    exact absurd (Snapshot.signedIn.inj hs).2.symm hroles

/-! ## 2. Programs -/

/-- What has come of a dispatch, if it is a body at all, is the answer to its request. -/
def IsOutcomeOf (service : Http.Service) (log : List Arrival) (d : Dispatch) : Outcome → Prop
  | .answered status body => body ≠ [] → AnsweredIn service log d status body
  | _ => True

/-- Run from this session, and with these arrivals behind it, a program keeps only what has
been vouched for. While an exchange takes place, its requests arrive and the session becomes
any other. -/
def Flow.Honest {α : Type} (c : Client) (service : Http.Service) :
    Flow α → Store → List Arrival → Prop
  | .done _, _, _ => True
  | .observe next, s, log => (next s.snapshot).Honest c service s log
  | .update change next, s, log =>
    c.Backs service log change.result ∧ next.Honest c service (s.apply change) log
  | .exchange d next, _, log => ∀ log', log <+: log' → ∀ s' o, IsOutcomeOf service log' d o →
      (next o).Honest c service s' log'

variable {α β : Type}

/-- Forgetting its result leaves a program honest. -/
theorem Flow.Honest.forget {p : Flow α} {s : Store} (h : p.Honest c service s log) (b : β) :
    (p.bind fun _ => .done b).Honest c service s log := by
  induction p generalizing s log with
  | done a => trivial
  | observe next ih => exact ih s.snapshot h
  | update change next ih => exact ⟨h.1, ih h.2⟩
  | exchange d next ih => exact fun log' hlog s' o ho => ih o (h log' hlog s' o ho)

/-- An operation is honest if what follows it is, with what comes of its dispatch. -/
theorem honest_perform {o : Operation} {f : Except Failure o.Result → Flow β} {s : Store}
    (hrefused : ∀ refusal, (f (.error (.refused refusal))).Honest c service s log)
    (hsettled : ∀ call d, o.call = .ok call → c.dispatch s.snapshot.credential? call = .ok d →
      ∀ log', log <+: log' → ∀ s' outcome, IsOutcomeOf service log' d outcome →
        (f (settle o.decoder call.endpoint d.deadline outcome)).Honest c service s' log') :
    ((c.perform o).bind f).Honest c service s log := by
  unfold Client.perform
  cases hcall : o.call with
  | error refusal => exact hrefused refusal
  | ok call =>
    simp only [Client.send, Flow.bind, Flow.Honest, Client.start]
    cases hd : c.dispatch s.snapshot.credential? call with
    | error refusal => exact hrefused refusal
    | ok d => exact hsettled call d hcall hd

/-- Roles that come of the request for the identity belong to the token it showed. -/
theorem backs_of_identity {token : String} {call : Call} {d : Dispatch} {outcome : Outcome}
    {profile : Profile} (hcall : Operation.identity.call = .ok call)
    (hd : c.dispatch (Change.establish token []).result.credential? call = .ok d)
    (houtcome : IsOutcomeOf service log d outcome)
    (hok : settle Profile.decoder call.endpoint d.deadline outcome = .ok profile) :
    c.Backs service log (Change.establish token profile.roles).result := by
  obtain ⟨status, body, rfl, hsuccess, -, hbody, hdecode⟩ :=
    (settle_ok_iff profile_decodeNull).mp hok
  obtain ⟨r, chain, hr, harrived, hanswered⟩ := houtcome hbody
  cases hblank : allBlank token with
  | true =>
    rw [result_establish_of_blank hblank]
    exact backs_anonymous
  | false =>
    rw [result_establish_of_not_blank hblank] at hd ⊢
    obtain ⟨first, later, rfl, hsent⟩ := hanswered.first
    have hissues : c.Issues .identity (some token) first.before.jar first.sent :=
      ⟨call, d, r, hcall, hd, hr, hsent⟩
    intro token' roles hs _
    obtain ⟨rfl, rfl⟩ := Snapshot.signedIn.inj hs
    exact ⟨r, first, later, status, body, profile, harrived, hissues.asks rfl,
      hissues.authorization, hanswered, hsuccess, hdecode, rfl⟩

theorem signIn_honest (credentials : Credentials) (s : Store) :
    (c.signIn credentials).Honest c service s log := by
  refine honest_perform (fun _ => trivial) fun call d _ _ log₁ _ s₁ outcome _ => ?_
  cases settle (Operation.grantToken credentials).decoder call.endpoint d.deadline outcome with
  | error failure => trivial
  | ok grant =>
    -- the token is put in place, and the request for the identity is made with it
    refine ⟨backs_establish_nil grant.accessToken, ?_⟩
    refine honest_perform (fun _ => ⟨backs_anonymous, trivial⟩) ?_
    intro call d hcall hd log₂ _ s₂ outcome houtcome
    cases hidentity : settle Operation.identity.decoder call.endpoint d.deadline outcome with
    | error failure => exact ⟨backs_anonymous, trivial⟩
    | ok profile => exact ⟨backs_of_identity hcall hd houtcome hidentity, trivial⟩

theorem signOut_honest (s : Store) : c.signOut.Honest c service s log :=
  honest_perform (fun _ => ⟨backs_anonymous, trivial⟩) fun _ _ _ _ _ _ _ _ _ =>
    ⟨backs_anonymous, trivial⟩

/-! ## 3. Programs on their way -/

/-- What follows an exchange is honest. -/
def Continues (c : Client) (service : Http.Service) (d : Dispatch) (next : Outcome → Flow α)
    (log : List Arrival) : Prop :=
  ∀ log', log <+: log' → ∀ s o, IsOutcomeOf service log' d o → (next o).Honest c service s log'

/-- An answer to a request, along arrivals from now on, is an answer to the dispatch. -/
def Leads (service : Http.Service) (d : Dispatch) (r : Request) (log : List Arrival) : Prop :=
  ∀ chain status body, AnsweredAlong service r chain status body →
    AnsweredIn service (log ++ chain) d status body

/-- One request has come to an outcome of the dispatch, or to a request that leads to one. -/
def IsStepOf (service : Http.Service) (log : List Arrival) (d : Dispatch) : Step → Prop
  | .over ending => IsOutcomeOf service log d ending.outcome
  | .onward r => Leads service d r log

/-- An honest program, wherever it is. The request whose answer it waits for was the last one
of its own to arrive. -/
def Flight.Honest (c : Client) (service : Http.Service) : Flight α → List Arrival → Prop
  | .landed _, _ => True
  | .called d next, log => Continues c service d next log
  | .sending leg next, log =>
    Continues c service leg.dispatch next log ∧ Leads service leg.dispatch leg.request log
  | .awaiting leg answer next, log =>
    Continues c service leg.dispatch next log ∧ ∃ earlier a, log = earlier ++ [a] ∧
      a.sent = leg.request.withCookies a.before.jar ∧
      service a.before.requests a.sent = answer ∧
      Leads service leg.dispatch leg.request earlier

theorem Continues.mono {d : Dispatch} {next : Outcome → Flow α}
    (h : Continues c service d next log) (hlog : log <+: log') : Continues c service d next log' :=
  fun _ hlater => h _ (hlog.trans hlater)

/-- The program is honest, and what it has made of the session `s`, if anything, are roles
that belong to the token beside them. -/
def Upholds (c : Client) (service : Http.Service) (log : List Arrival) (s : Store)
    (p : Flight α × World) : Prop :=
  p.1.Honest c service log ∧
    (p.2.store.snapshot = s.snapshot ∨ c.Backs service log p.2.store.snapshot)

/-- An honest program is still so at its next exchange. -/
theorem depart_honest {p : Flow α} {s : Store} (h : p.Honest c service s log) :
    (p.depart s).1.Honest c service log ∧
      ((p.depart s).2.snapshot = s.snapshot ∨ c.Backs service log (p.depart s).2.snapshot) := by
  induction p generalizing s with
  | done a => exact ⟨trivial, Or.inl rfl⟩
  | observe next ih => exact ih s.snapshot h
  | update change next ih =>
    obtain ⟨hchange, hnext⟩ := h
    obtain ⟨hhonest, hkept | hbacked⟩ := ih hnext
    · -- the change is the last one before the exchange
      refine ⟨hhonest, Or.inr ?_⟩
      rw [Flow.depart, hkept]
      exact hchange
    · exact ⟨hhonest, Or.inr hbacked⟩
  | exchange d next => exact ⟨h, Or.inl rfl⟩

/-! ## 4. Moments -/

/-- The program is honest after a moment in which the world was `w`, with what has arrived
meanwhile behind it. -/
def Moves (c : Client) (service : Http.Service) (log : List Arrival) (w : World)
    (p : Flight α × World) : Prop :=
  Upholds c service (log ++ arrivals w.traffic p.2.traffic) w.store p

section
variable {next : Outcome → Flow α} {w : World}

/-- A moment in which nothing arrives. -/
theorem Moves.of_same {p : Flight α × World} (h : Upholds c service log w.store p)
    (hsame : p.2.traffic.requests = w.traffic.requests) : Moves c service log w p := by
  unfold Moves
  rw [arrivals_of_same hsame, List.append_nil]
  exact h

theorem resume_upholds {d : Dispatch} {o : Outcome} (hnext : Continues c service d next log)
    (ho : IsOutcomeOf service log d o) :
    Upholds c service log w.store (Flight.resume next o w) :=
  depart_honest (hnext _ (List.prefix_refl _) w.store o ho)

theorem resume_moves {d : Dispatch} {o : Outcome} (hnext : Continues c service d next log)
    (ho : IsOutcomeOf service log d o) : Moves c service log w (Flight.resume next o w) :=
  .of_same (resume_upholds hnext ho) rfl

theorem begin_moves {d : Dispatch} (hnext : Continues c service d next log) :
    Moves c service log w (Flight.begin d next w) := by
  unfold Flight.begin
  split
  · exact resume_moves hnext trivial
  · exact resume_moves hnext trivial
  · rename_i r hr _
    split
    · exact resume_moves hnext trivial
    · have hleads : Leads service d r log :=
        fun chain _ _ h => ⟨r, chain, hr, List.suffix_append _ _, h⟩
      exact .of_same ⟨⟨hnext, hleads⟩, Or.inl rfl⟩ rfl

theorem send_moves {leg : Leg} (hnext : Continues c service leg.dispatch next log)
    (hleads : Leads service leg.dispatch leg.request log) :
    Moves c service log w (Flight.send service leg next w) := by
  by_cases hs : service w.traffic.requests (leg.request.withCookies w.traffic.jar) = .unreachable
  · rw [send_unreachable leg hs]
    exact resume_moves hnext trivial
  · have hnext' := hnext.mono
      (List.prefix_append log [⟨w.traffic, leg.request.withCookies w.traffic.jar⟩])
    rw [send_arrived leg hs]
    unfold Moves
    simp only
    split
    · rw [arrivals_of_arrived rfl]
      exact resume_upholds hnext' trivial
    · rw [arrivals_of_arrived rfl]
      exact ⟨⟨hnext', log, _, rfl, rfl, rfl, hleads⟩, Or.inl rfl⟩

/-- What a response comes to: an answer to its request, or a request it leads to. -/
theorem proceed_outcome {d : Dispatch} {r : Request} {response : Response} {whole : Bool}
    {a : Arrival} (hsent : a.sent = r.withCookies a.before.jar)
    (hanswer : service a.before.requests a.sent =
      if whole then .full response else .broken response)
    (hleads : Leads service d r log) :
    IsStepOf service (log ++ [a]) d (r.proceed response whole) := by
  rcases hproceed : r.proceed response whole with ending | next
  · cases ending with
    | failed fault => trivial
    | silent => trivial
    | answered status body =>
      intro hbody
      unfold Request.proceed at hproceed
      split at hproceed
      · cases hproceed
      · rename_i hlast
        obtain ⟨rfl, rfl, rfl⟩ := ending_answered (Step.over.inj hproceed) hbody
        exact hleads [a] _ _ (.full hsent hanswer hlast)
  · intro chain status body h
    have hnext : Redirected service a.before.requests r a.before.jar next := by
      refine ⟨response, ?_, proceed_onward hproceed⟩
      rw [← hsent]
      cases whole with
      | true => exact Or.inl hanswer
      | false => exact Or.inr hanswer
    rw [List.append_assoc]
    exact hleads (a :: chain) status body (.redirected hsent hnext h)

theorem proceed_upholds {leg : Leg} {step : Step}
    (hnext : Continues c service leg.dispatch next log)
    (hstep : IsStepOf service log leg.dispatch step) :
    Upholds c service log w.store (Flight.proceed leg next step w) := by
  rcases step with ending | r
  · exact resume_upholds hnext hstep
  · unfold Flight.proceed
    cases leg.hops with
    | zero => exact resume_upholds hnext trivial
    | succ hops =>
      simp only
      split
      · exact ⟨⟨hnext, hstep⟩, Or.inl rfl⟩
      · exact resume_upholds hnext trivial

theorem proceed_traffic (leg : Leg) (next : Outcome → Flow α) (step : Step) (w : World) :
    (Flight.proceed leg next step w).2.traffic = w.traffic := by
  unfold Flight.proceed
  split
  · rfl
  · rfl
  · split <;> rfl

/-- The answer to the last request of its own has come. -/
theorem answered_moves {leg : Leg} {answer : Answer} {a : Arrival}
    (hnext : Continues c service leg.dispatch next (log ++ [a]))
    (hsent : a.sent = leg.request.withCookies a.before.jar)
    (hanswer : service a.before.requests a.sent = answer)
    (hleads : Leads service leg.dispatch leg.request log) :
    Moves c service (log ++ [a]) w ((Flight.awaiting leg answer next).advance service now w) := by
  have hstep : IsStepOf service (log ++ [a]) leg.dispatch
      (Flight.answered now leg answer w.traffic).1 := by
    cases answer with
    | unreachable => trivial
    | closed => trivial
    | silence => trivial
    | full response => exact proceed_outcome hsent hanswer hleads
    | broken response => exact proceed_outcome hsent hanswer hleads
  refine .of_same (proceed_upholds hnext hstep) ?_
  simp only [Flight.advance, proceed_traffic, answered_requests]

/-- Whatever happens next to an honest program. -/
theorem advance_moves {f : Flight α} (h : f.Honest c service log) :
    Moves c service log w (f.advance service now w) := by
  cases f with
  | landed a => exact .of_same ⟨trivial, Or.inl rfl⟩ rfl
  | called d next => exact begin_moves h
  | sending leg next => exact send_moves h.1 h.2
  | awaiting leg answer next =>
    obtain ⟨hnext, earlier, a, rfl, hsent, hanswer, hleads⟩ := h
    exact answered_moves hnext hsent hanswer hleads

/-- Nobody is vouched for by an answer that is not waited for. -/
theorem timeOut_moves {f : Flight α} (h : f.Honest c service log) :
    Moves c service log w (f.cutShort .timedOut w) := by
  cases f with
  | landed a => exact .of_same ⟨trivial, Or.inl rfl⟩ rfl
  | called d next => exact resume_moves h trivial
  | sending leg next => exact resume_moves h.1 trivial
  | awaiting leg answer next => exact resume_moves h.1 trivial

end

end

end CoachClient.Service
