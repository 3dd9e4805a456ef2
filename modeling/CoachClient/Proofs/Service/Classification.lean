/-
CoachClient.Proofs.Service.Classification — what an answer comes to.

* `Says` — what a body says about a failure; `ofResponse_says` — a failure is reported with
  just that.
* `Classified` — the rule by which a status and a body come to a result.
* `classify_classified` — every status and every body come to what the rule says.
* `NullAnswers` — what an answer without a body is read as, for each type that is asked
  for.
* `exchanges_are_classified` — so does every call that is answered, and every operation.
* `nested_report_is_classified` — an operation whose failure is reported with lists, objects
  and the least number there is.

The rule is about all bodies, and what it says of them is said with the readers of values:
bytes that are no text, or that go on behind a value, are bodies that do not read.
-/
import CoachClient.Proofs.Json.Order
import CoachClient.Proofs.Json.Takes
import CoachClient.Proofs.Service.Script
import CoachClient.Proofs.Service.SignIn

namespace CoachClient.Service

open CoachClient.Coaching CoachClient.Http CoachClient.Json

/-! ## 1. Failures -/

/-- What a body says about a failure: what stands in an object, any other value under a key
of its own, and nothing if it is `null`, or no value. -/
inductive Says (body : List UInt8) : Details → Prop
  | members {ms : List (String × Value)} (h : Decoder.value.decode body = .ok (.object ms)) :
      Says body ms
  | other {v : Value} (h : Decoder.value.decode body = .ok v) (hnull : v ≠ .null)
      (hobject : ∀ ms, v ≠ .object ms) : Says body [("body", v)]
  | nothing (h : ∀ v, Decoder.value.decode body = .ok v → v = .null) : Says body []

/-- A body says one thing. -/
theorem Says.unique {body : List UInt8} {details details' : Details} (h : Says body details)
    (h' : Says body details') : details = details' := by
  cases h with
  | members h =>
    cases h' with
    | members h' => exact Value.object.inj (Except.ok.inj (h.symm.trans h'))
    | other h' _ hobject => exact absurd (Except.ok.inj (h'.symm.trans h)) (hobject _)
    | nothing h' => cases h' _ h
  | other h hnull hobject =>
    cases h' with
    | members h' => exact absurd (Except.ok.inj (h.symm.trans h')) (hobject _)
    | other h' _ _ => rw [Except.ok.inj (h.symm.trans h')]
    | nothing h' => exact absurd (h' _ h) hnull
  | nothing h =>
    cases h' with
    | members h' => cases h _ h'
    | other h' hnull _ => exact absurd (h _ h') hnull
    | nothing _ => rfl

/-- A failure is reported with its status and with what the body says. -/
theorem ofResponse_says (status : Status) (body : List UInt8) :
    ∃ details, Failure.ofResponse status body = .reported status details ∧ Says body details := by
  unfold Failure.ofResponse
  cases hdecode : Decoder.value.decode body with
  | error fault => exact ⟨[], rfl, .nothing fun v h => by cases hdecode.symm.trans h⟩
  | ok v =>
    cases v with
    | null => exact ⟨[], rfl, .nothing fun v h => (Except.ok.inj (hdecode.symm.trans h)).symm⟩
    | object ms => exact ⟨ms, rfl, .members hdecode⟩
    | bool b => exact ⟨_, rfl, .other hdecode (by simp) (by simp)⟩
    | number n => exact ⟨_, rfl, .other hdecode (by simp) (by simp)⟩
    | text s => exact ⟨_, rfl, .other hdecode (by simp) (by simp)⟩
    | list items => exact ⟨_, rfl, .other hdecode (by simp) (by simp)⟩

/-! ## 2. The rule -/

section
variable {α : Type}

/-- The rule by which a status and a body come to a result of the type that `d` reads. -/
structure Classified (d : Decoder α) (endpoint : String) (status : Status) (body : List UInt8)
    (result : Except Failure α) : Prop where
  /-- What is no success is reported, whatever was asked for. -/
  failed : status.isSuccess = false →
    ∃ details, result = .error (.reported status details) ∧ Says body details
  /-- An object that the service wrote is reported as it was. -/
  quoted : status.isSuccess = false → ∀ members, (Value.object members).Ordered →
    (Value.object members).Within maxLevels → body = written (.object members) →
    result = .error (.reported status members)
  /-- A success without a body is read as `null`. -/
  bare : status.isSuccess = true → status = .noContent ∨ body = [] →
    result = d.decodeNull.mapError (.unreadable endpoint)
  /-- Another success is what its body reads as. -/
  readable : status.isSuccess = true → status ≠ .noContent → body ≠ [] →
    ∀ a, result = .ok a ↔ d.decode body = .ok a
  /-- A body that does not read is reported for the endpoint that was asked. -/
  unreadable : status.isSuccess = true → status ≠ .noContent → body ≠ [] →
    ∀ fault, d.decode body = .error fault → result = .error (.unreadable endpoint fault)

/-- Every status and every body come to what the rule says. -/
theorem classify_classified (d : Decoder α) (endpoint : String) (status : Status)
    (body : List UInt8) :
    Classified d endpoint status body (classify d endpoint status body) := by
  obtain ⟨details, hreported, hsays⟩ := ofResponse_says status body
  refine ⟨fun hfailed => ?_, fun hfailed members hordered hwithin hbody => ?_,
    fun hsuccess hbare => classify_of_bare d endpoint hsuccess hbare,
    fun hsuccess hcontent hbody a => ?_, fun hsuccess hcontent hbody fault hfault => ?_⟩
  · exact ⟨details, by rw [classify_of_failure d endpoint hfailed, hreported], hsays⟩
  · -- the text of an object in order says its members
    have hmembers : Says body members := .members (hbody ▸ hordered.decode_written hwithin)
    rw [classify_of_failure d endpoint hfailed, hreported, hsays.unique hmembers]
  · rw [classify_of_body d endpoint hsuccess hcontent hbody]
    cases d.decode body with
    | error fault => simp
    | ok b => simp
  · rw [classify_of_body d endpoint hsuccess hcontent hbody, hfault, mapError_error]

end

/-! ## 3. Answers without a body -/

/-- The text `null` is no record. -/
theorem record_decode_null {μ α : Type} (r : Record μ α) :
    ∃ fault, r.decoder.decode (written .null) = .error fault := by
  have hstart : (Cursor.start (written .null)).skipBlanks = ⟨[0x6E, 0x75, 0x6C, 0x6C], 0⟩ := by
    decide +kernel
  have hobject : (0x6E : UInt8) ≠ 0x7B := by decide
  have hlist : (0x6E : UInt8) ≠ 0x5B := by decide
  obtain ⟨failure, hwrong⟩ :=
    wrongType_eq_error (α × Cursor) r.expected ⟨[0x6E, 0x75, 0x6C, 0x6C], 0⟩
  have hread : r.decoder.read maxLevels (Cursor.start (written .null)) = .error failure := by
    simp only [Record.decoder, Decoder.strict, Record.reader, hstart, if_neg hobject,
      if_neg hlist, hwrong]
  refine ⟨failure.fault (written .null), ?_⟩
  simp only [Decoder.decode, Decoder.readWhole, hread]
  rfl

/-- What an answer without a body is read as: as `null` where a value of any kind will do,
and not at all where a record is asked for. -/
structure NullAnswers : Prop where
  any : Decoder.value.decodeNull = .ok .null
  grant : ∃ fault, Grant.decoder.decodeNull = .error fault
  profile : ∃ fault, Profile.decoder.decodeNull = .error fault
  session : ∃ fault, Session.decoder.decodeNull = .error fault
  sessions : ∃ fault, (Page.decoder Session.decoder).decodeNull = .error fault
  accounts : ∃ fault, (Page.decoder Account.decoder).decodeNull = .error fault
  /-- It is as if the answer had been that text. -/
  text : ∀ o : Operation,
    o.decoder.decodeNull.toOption = (o.decoder.decode (written .null)).toOption

theorem value_decode_null : Decoder.value.decode (written .null) = .ok .null :=
  Value.Ordered.null.decode_written (.null 127)

theorem decodeNull_toOption (o : Operation) :
    o.decoder.decodeNull.toOption = (o.decoder.decode (written .null)).toOption := by
  have hany : Decoder.value.decodeNull.toOption =
      (Decoder.value.decode (written .null)).toOption := by
    rw [value_decode_null]
    rfl
  have hrecord : ∀ {μ α : Type} (r : Record μ α),
      r.decoder.decodeNull.toOption = (r.decoder.decode (written .null)).toOption := fun r => by
    obtain ⟨fault, hfault⟩ := record_decode_null r
    rw [hfault]
    rfl
  cases o with
  | grantToken credentials => exact hrecord Grant.record
  | identity => exact hrecord Profile.record
  | listSessions => exact hrecord (Page.record Session.decoder.read)
  | showSession id => exact hrecord Session.record
  | createSession session => exact hrecord Session.record
  | listAccounts page => exact hrecord (Page.record Account.decoder.read)
  | _ => exact hany

theorem nullAnswers : NullAnswers where
  any := rfl
  grant := ⟨_, rfl⟩
  profile := ⟨_, rfl⟩
  session := ⟨_, rfl⟩
  sessions := ⟨_, rfl⟩
  accounts := ⟨_, rfl⟩
  text := decodeNull_toOption

/-! ## 4. Every exchange -/

section
variable {α : Type} {c : Client} {call : Call} {credential : Option String} {dispatch : Dispatch}

/-- What is sent for a call comes, when it is answered, to what the rule says. -/
theorem start_classified (d : Decoder α) (h : c.dispatch credential call = .ok dispatch) :
    ∃ next, c.start d call credential = .exchange dispatch next ∧
      ∀ status body, ∃ result, next (.answered status body) = .done result ∧
        Classified d call.endpoint status body result :=
  ⟨fun outcome => .done (settle d call.endpoint dispatch.deadline outcome),
    by simp only [Client.start, h],
    fun status body => ⟨_, rfl, classify_classified d call.endpoint status body⟩⟩

/-- A call that is answered comes to what the rule says. -/
theorem send_classified (d : Decoder α) {e : Surroundings} {w : World} {status : Status}
    {body : List UInt8} (h : c.dispatch w.store.snapshot.credential? call = .ok dispatch)
    (hanswered : (w.perform e dispatch).1 = .answered status body) :
    Classified d call.endpoint status body ((c.send d call).run e w).1 := by
  obtain ⟨next, hstart, hnext⟩ := start_classified d h
  obtain ⟨result, hresult, hclassified⟩ := hnext status body
  have hrun : ((c.send d call).run e w).1 = result := by
    simp only [Client.send, Flow.run, hstart, hanswered, hresult]
  rw [hrun]
  exact hclassified

end

/-- **Every completed exchange is classified by one rule**: the one that a call begins,
however it is run and whatever type it asks for, and the one that an operation begins. Which
types take an answer without a body is settled as well. -/
theorem exchanges_are_classified :
    (∀ (α : Type) (d : Decoder α) (c : Client) (call : Call) (credential : Option String)
        (dispatch : Dispatch), c.dispatch credential call = .ok dispatch →
      ∃ next, c.start d call credential = .exchange dispatch next ∧
        ∀ status body, ∃ result, next (.answered status body) = .done result ∧
          Classified d call.endpoint status body result) ∧
      (∀ (c : Client) (o : Operation) (call : Call) (e : Surroundings) (w : World)
          (dispatch : Dispatch) (status : Status) (body : List UInt8),
        o.call = .ok call → c.dispatch w.store.snapshot.credential? call = .ok dispatch →
        (w.perform e dispatch).1 = .answered status body →
        Classified o.decoder call.endpoint status body ((c.perform o).run e w).1) ∧
      NullAnswers := by
  refine ⟨fun α d c call credential dispatch h => start_classified d h, ?_, nullAnswers⟩
  intro c o call e w dispatch status body hcall hdispatch hanswered
  have hperform : c.perform o = c.send o.decoder call := by
    simp only [Client.perform, hcall]
  rw [hperform]
  exact send_classified o.decoder hdispatch hanswered

/-- What a service says about a failure, with values inside values. -/
def nestedReport : Details :=
  [("detail",
      .list [.object [("at", .ofInt (-9223372036854775808)), ("of", .text "ä\n\"")], .null]),
    ("error", .object [])]

theorem nestedReport_ordered : (Value.object nestedReport).Ordered := by
  refine .object (by decide) ?_
  simp only [nestedReport, List.forall_mem_cons, List.not_mem_nil, false_implies, implies_true,
    and_true]
  refine ⟨.list ?_, .object List.Pairwise.nil (by simp)⟩
  simp only [List.forall_mem_cons, List.not_mem_nil, false_implies, implies_true, and_true]
  refine ⟨.object (by decide) ?_, .null⟩
  simp only [List.forall_mem_cons, List.not_mem_nil, false_implies, implies_true, and_true]
  exact ⟨.number _, .text _⟩

theorem nestedReport_within : (Value.object nestedReport).Within maxLevels := by
  refine .object ?_
  simp only [nestedReport, List.forall_mem_cons, List.not_mem_nil, false_implies, implies_true,
    and_true]
  refine ⟨.list ?_, .object (by simp)⟩
  simp only [List.forall_mem_cons, List.not_mem_nil, false_implies, implies_true, and_true]
  refine ⟨.object ?_, .null _⟩
  simp only [List.forall_mem_cons, List.not_mem_nil, false_implies, implies_true, and_true]
  exact ⟨.integer _ ⟨by decide, by decide⟩, .text _ _⟩

/-- Whoever asks for a session and is told so gets the report as it was written. -/
theorem nested_report_is_classified :
    ((plainClient.perform (.showSession "s-1")).run
        (.answering [.full ⟨⟨422⟩, [], written (.object nestedReport)⟩]) World.fresh).1 =
      .error (.reported ⟨422⟩ nestedReport) := by
  obtain ⟨-, hoperation, -⟩ := exchanges_are_classified
  have hcall : (Operation.showSession "s-1").call = .ok (.get "/sessions/s-1") := by
    have hplain : isPlainSegment "s-1" = true := by decide +kernel
    simp only [Operation.call, pathWith, hplain]
    rfl
  refine (hoperation plainClient _ _ _ _ _ ⟨422⟩ (written (.object nestedReport)) hcall rfl
    (by decide +kernel)).quoted rfl nestedReport nestedReport_ordered nestedReport_within rfl

end CoachClient.Service
