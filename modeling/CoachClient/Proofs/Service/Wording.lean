/-
CoachClient.Proofs.Service.Wording — how a failure that the service reports is put into
words.

* `IsKept`, `IsCut` — the part of a text that is shown, and how the rest is noted;
  `cutShown_isCut` — this is how texts are cut.
* `SpeaksFirst` — of the keys under which services say what went wrong, the first one with
  something to say.
* `detailMessage_of_speaksFirst`, `detailMessage_of_silent` — that is what a failure is told
  with.
* `Worded`, `reported_failure_is_worded` — the rule for both wordings, for every status and
  everything a service can say, and for every text that is cut.
* `ShowsAtMost`, `shown_text_is_bounded_iff` — what is shown of a response is bounded,
  unless the service itself uses more words.
* `long_text_is_not_cut` — a response that is shown at any length.
-/
import CoachClient.Proofs.Service.Classification
import CoachClient.Proofs.Text.Decimal
import CoachClient.Proofs.Text.Fitting

namespace CoachClient.Service

open CoachClient.Http CoachClient.Json CoachClient.Text

/-! ## 1. Texts that are cut -/

/-- The note on how long a text was. -/
def cutMark (size : Nat) : List Char :=
  "... (truncated, ".toList ++ digits size ++ " total bytes)".toList

/-- The part of a text that is kept: the longest beginning that fits, which ends at the last
place up to the limit where a character begins. -/
structure IsKept (limit : Nat) (whole kept : List Char) : Prop where
  beginning : kept <+: whole
  fits : Utf8.size kept ≤ limit
  /-- A character has at most four bytes. -/
  full : limit < Utf8.size kept + 4
  longest : ∀ longer, longer <+: whole → Utf8.size longer ≤ limit → longer <+: kept
  found : Utf8.boundaryBelow (Utf8.encodeAll whole) limit = some (Utf8.size kept)

/-- A text as it is shown: as a whole if it fits, or else what is kept of it and how many
bytes there were. -/
structure IsCut (limit : Nat) (whole shown : List Char) : Prop where
  short : Utf8.size whole ≤ limit → shown = whole
  long : limit < Utf8.size whole →
    ∃ kept, IsKept limit whole kept ∧ shown = kept ++ cutMark (Utf8.size whole)

theorem isKept_fitting {limit : Nat} {whole : List Char} (h : limit < Utf8.size whole) :
    IsKept limit whole (Utf8.fitting limit whole) where
  beginning := Utf8.fitting_begins limit whole
  fits := Utf8.size_fitting_le limit whole
  full := Utf8.lt_size_fitting h
  longest _ := Utf8.begins_fitting
  found := Utf8.boundaryBelow_encodeAll limit whole

theorem cutShown_eq (whole : List Char) :
    cutShown whole = if Utf8.size whole ≤ maxShown then whole
      else Utf8.fitting maxShown whole ++ cutMark (Utf8.size whole) := by
  unfold cutShown cutMark
  dsimp only
  rw [List.append_assoc, List.append_assoc, List.append_assoc]

/-- Texts are cut like that. -/
theorem cutShown_isCut (whole : List Char) : IsCut maxShown whole (cutShown whole) where
  short h := by rw [cutShown_eq, if_pos h]
  long h := ⟨_, isKept_fitting h, by rw [cutShown_eq, if_neg (Nat.not_le.mpr h)]⟩

/-- A note ends like this. -/
theorem getLast?_cutMark (size : Nat) : (cutMark size).getLast? = some ')' := by
  unfold cutMark
  exact (List.getLast?_append_of_ne_nil _ (by decide)).trans (by decide)

theorem cutMark_ne_nil (size : Nat) : cutMark size ≠ [] := by
  intro hnil
  have hlast := getLast?_cutMark size
  rw [hnil] at hlast
  cases hlast

/-- Nothing is cut down to nothing. -/
theorem IsCut.ne_nil {limit : Nat} {whole shown : List Char} (h : IsCut limit whole shown)
    (hwhole : whole ≠ []) : shown ≠ [] := by
  rcases Nat.lt_or_ge limit (Utf8.size whole) with hlong | hshort
  · obtain ⟨kept, -, rfl⟩ := h.long hlong
    simp [cutMark_ne_nil]
  · rw [h.short hshort]
    exact hwhole

/-! ## 2. What the service says -/

/-- The value says nothing. -/
def IsSilent (v : Value) : Prop := v = .null ∨ v = .text ""

/-- Under the first of these keys whose value says something, the value is `v`. -/
def SpeaksFirst (details : Details) (v : Value) : Prop :=
  ∃ before key after, ["error", "detail", "message", "body"] = before ++ key :: after ∧
    memberOf key details = some v ∧ ¬ IsSilent v ∧
    ∀ earlier ∈ before, ∀ w ∈ memberOf earlier details, IsSilent w

/-- The words of a value that says something: a text itself, or its JSON text. -/
def wordsOf : Value → String
  | .text s => s
  | v => String.ofList (cutShown v.compactChars)

theorem saidBy_eq_none_iff (v : Value) : saidBy v = none ↔ IsSilent v := by
  cases v with
  | text s => simp [saidBy, IsSilent]
  | _ => simp [saidBy, IsSilent]

theorem saidBy_of_not_silent {v : Value} (h : ¬ IsSilent v) : saidBy v = some (wordsOf v) := by
  cases v with
  | null => exact absurd (Or.inl rfl) h
  | text s =>
    have hs : s ≠ "" := fun hs => h (Or.inr (congrArg Value.text hs))
    simp [saidBy, wordsOf, hs]
  | _ => rfl

/-- What speaks first is what a failure is told with. -/
theorem detailMessage_of_speaksFirst {details : Details} {v : Value}
    (h : SpeaksFirst details v) : detailMessage details = some (wordsOf v) := by
  obtain ⟨before, key, after, hkeys, hv, hspeaks, hsilent⟩ := h
  refine List.findSome?_eq_some_iff.mpr ⟨before, key, after, hkeys, ?_, fun earlier hmem => ?_⟩
  · rw [hv]
    exact saidBy_of_not_silent hspeaks
  · cases hw : memberOf earlier details with
    | none => rfl
    | some w => exact (saidBy_eq_none_iff w).mpr (hsilent earlier hmem w hw)

/-- And a failure is told with nothing else. -/
theorem detailMessage_of_silent {details : Details} (h : ¬ ∃ v, SpeaksFirst details v) :
    detailMessage details = none := by
  cases hmessage : detailMessage details with
  | none => rfl
  | some text =>
    obtain ⟨before, key, after, hkeys, hsaid, hearlier⟩ := List.findSome?_eq_some_iff.mp hmessage
    obtain ⟨v, hv, htext⟩ := Option.bind_eq_some_iff.mp hsaid
    refine absurd ⟨v, before, key, after, hkeys, hv, fun hsilent => ?_, fun k hk w hw => ?_⟩ h
    · rw [(saidBy_eq_none_iff v).mpr hsilent] at htext
      cases htext
    · have hnone := hearlier k hk
      rw [Option.mem_def.mp hw] at hnone
      exact (saidBy_eq_none_iff w).mp hnone

/-! ## 3. Wordings that say something -/

theorem number_text_ne_nil (n : Number) : n.text ≠ [] := by
  cases n with
  | int i =>
    rw [Number.text, signed]
    split
    · simp
    · exact digits_ne_nil _
  | float negative x =>
    have hmagnitude : magnitudeText x ≠ [] := by
      unfold magnitudeText
      dsimp only
      split <;> simp
    rw [Number.text, floatText]
    split
    · simp
    · exact hmagnitude

theorem compactChars_ne_nil (v : Value) : v.compactChars ≠ [] := by
  cases v with
  | null => simp [Value.compactChars]
  | bool b => cases b <;> simp [Value.compactChars]
  | number n => exact number_text_ne_nil n
  | text s => simp [Value.compactChars, quote]
  | list items => simp [Value.compactChars]
  | object members => simp [Value.compactChars]

/-- The words of a value that says something are some. -/
theorem wordsOf_ne_empty {v : Value} (h : ¬ IsSilent v) : wordsOf v ≠ "" := by
  have hcut : String.ofList (cutShown v.compactChars) ≠ "" := by
    rw [← String.toList_inj.ne, String.toList_ofList]
    exact (cutShown_isCut _).ne_nil (compactChars_ne_nil v)
  cases v with
  | text s => exact fun hs => h (Or.inr (congrArg Value.text hs))
  | _ => exact hcut

/-- A standard wording is neither empty nor long. -/
theorem reasonOf_size (code : Nat) :
    ∀ reason ∈ reasonOf code, reason ≠ "" ∧ reason.toList.length ≤ 31 := by
  fun_cases reasonOf code <;> decide

/-- The wording of a status that nothing else is said about. -/
theorem reason_size (status : Status) :
    status.reason?.getD "Request failed" ≠ "" ∧
      (status.reason?.getD "Request failed").toList.length ≤ 31 := by
  cases hreason : status.reason? with
  | none => decide
  | some reason => exact reasonOf_size status.code reason hreason

/-! ## 4. Both wordings -/

/-- How a failure that is reported with a status and details is put into words: `message` is
for the user, `full` is the full wording. -/
structure Worded (status : Status) (details : Details) (message full : String) : Prop where
  /-- A text that speaks first is the message as it is. -/
  own : ∀ s, SpeaksFirst details (.text s) → message = s
  /-- Of any other value that speaks first the JSON text is shown, cut if it is long. -/
  json : ∀ v, SpeaksFirst details v → (∀ s, v ≠ .text s) →
    IsCut 500 v.compact.toList message.toList
  /-- In both cases the full wording has the same message behind the status. -/
  same : (∃ v, SpeaksFirst details v) → full = "API error " ++ status.text ++ ": " ++ message
  /-- If nothing speaks, the message is the standard wording of the status. -/
  standard : (¬ ∃ v, SpeaksFirst details v) →
    message = status.reason?.getD "Request failed"
  /-- Then the full wording says that there are no details. -/
  bare : (¬ ∃ v, SpeaksFirst details v) → details = [] →
    full = "API error " ++ status.text ++ ": " ++ "no details"
  /-- Or it has all of them, cut if they are long. -/
  whole : (¬ ∃ v, SpeaksFirst details v) → details ≠ [] →
    ∃ shown, IsCut 500 (Value.object details).compact.toList shown.toList ∧
      full = "API error " ++ status.text ++ ": " ++ shown
  /-- There is always a message. -/
  nonempty : message ≠ ""

theorem describe_reported (status : Status) (details : Details) :
    (Failure.reported status details).describe =
      "API error " ++ status.text ++ ": " ++ describeDetails details := rfl

/-- With what speaks first both wordings say the same. -/
theorem wording_of_speaksFirst {details : Details} {v : Value} (h : SpeaksFirst details v)
    (status : Status) :
    (Failure.reported status details).message = wordsOf v ∧ describeDetails details = wordsOf v := by
  have hmessage := detailMessage_of_speaksFirst h
  constructor
  · simp only [Failure.message, hmessage, Option.getD_some]
  · simp only [describeDetails, hmessage]

/-- Without it one has the status and the other one has all there is. -/
theorem wording_of_silent {details : Details} (h : ¬ ∃ v, SpeaksFirst details v)
    (status : Status) :
    (Failure.reported status details).message = status.reason?.getD "Request failed" ∧
      describeDetails details = if details.isEmpty then "no details"
        else String.ofList (cutShown (Value.object details).compactChars) := by
  have hmessage := detailMessage_of_silent h
  constructor
  · simp only [Failure.message, hmessage, Option.getD_none]
  · simp only [describeDetails, hmessage]

theorem wordsOf_isCut {v : Value} (h : ∀ s, v ≠ .text s) :
    IsCut maxShown v.compact.toList (wordsOf v).toList := by
  have hwords : wordsOf v = String.ofList (cutShown v.compactChars) := by
    cases v with
    | text s => exact absurd rfl (h s)
    | _ => rfl
  rw [hwords, Value.compact, String.toList_ofList, String.toList_ofList]
  exact cutShown_isCut _

/-- Both wordings follow the rule. -/
theorem worded_reported (status : Status) (details : Details) :
    Worded status details (Failure.reported status details).message
      (Failure.reported status details).describe where
  own s h := (wording_of_speaksFirst h status).1
  json v h htext := by
    rw [(wording_of_speaksFirst h status).1]
    exact wordsOf_isCut htext
  same := by
    rintro ⟨v, h⟩
    obtain ⟨hmessage, hdescribed⟩ := wording_of_speaksFirst h status
    rw [describe_reported, hdescribed, hmessage]
  standard h := (wording_of_silent h status).1
  bare h hdetails := by
    rw [describe_reported, (wording_of_silent h status).2, hdetails]
    rfl
  whole h hdetails := by
    refine ⟨String.ofList (cutShown (Value.object details).compactChars), ?_, ?_⟩
    · rw [Value.compact, String.toList_ofList, String.toList_ofList]
      exact cutShown_isCut _
    · rw [describe_reported, (wording_of_silent h status).2, if_neg (by simpa using hdetails)]
  nonempty := by
    by_cases h : ∃ v, SpeaksFirst details v
    · obtain ⟨v, hv⟩ := h
      rw [(wording_of_speaksFirst hv status).1]
      obtain ⟨-, -, -, -, -, hspeaks, -⟩ := hv
      exact wordsOf_ne_empty hspeaks
    · rw [(wording_of_silent h status).1]
      exact (reason_size status).1

/-- **What is told of a service's report follows one rule and is never nothing.** The rule is
that of `Worded`, for every status and for everything that a service can say; and every text,
however long it is and whatever characters there are at the limit, is cut as `IsCut` says. -/
theorem reported_failure_is_worded :
    (∀ (status : Status) (details : Details),
      Worded status details (Failure.reported status details).message
        (Failure.reported status details).describe) ∧
      ∀ text : List Char, IsCut 500 text (cutShown text) :=
  ⟨worded_reported, cutShown_isCut⟩

/-! ## 5. How much is shown -/

/-- The text has at most `limit` bytes, not counting the note on how long it was. -/
def ShowsAtMost (limit : Nat) (text : String) : Prop :=
  ∃ part, Utf8.size part ≤ limit ∧
    (text.toList = part ∨ ∃ size, text.toList = part ++ cutMark size)

theorem IsCut.showsAtMost {limit : Nat} {whole : List Char} {shown : String}
    (h : IsCut limit whole shown.toList) : ShowsAtMost limit shown := by
  rcases Nat.lt_or_ge limit (Utf8.size whole) with hlong | hshort
  · obtain ⟨kept, hkept, hshown⟩ := h.long hlong
    exact ⟨kept, hkept.fits, Or.inr ⟨_, hshown⟩⟩
  · exact ⟨whole, hshort, Or.inl (h.short hshort)⟩

theorem showsAtMost_of_length {limit : Nat} {text : String} (h : 4 * text.toList.length ≤ limit) :
    ShowsAtMost limit text :=
  ⟨text.toList, Nat.le_trans (Utf8.size_le _) h, Or.inl rfl⟩

/-- A text that is longer and does not end in a note shows more. -/
theorem not_showsAtMost {limit : Nat} {text : String} (hsize : limit < Utf8.size text.toList)
    (hend : text.toList.getLast? ≠ some ')') : ¬ ShowsAtMost limit text := by
  rintro ⟨part, hpart, hwhole | ⟨size, hcut⟩⟩
  · rw [hwhole] at hsize
    omega
  · refine hend ?_
    rw [hcut, List.getLast?_append_of_ne_nil _ (cutMark_ne_nil size), getLast?_cutMark]

/-- **What is shown of a response is bounded, unless the service uses more words itself.**
Whatever the status and the body of a response that reports a failure, at most five hundred
bytes of the body get into the message and into the full wording, not counting the note on
how long it was; except for a text that speaks first, which is shown at its own length. -/
theorem shown_text_is_bounded_iff (status : Status) (body : List UInt8) :
    ∃ details, Failure.ofResponse status body = .reported status details ∧ Says body details ∧
      (ShowsAtMost 500 (Failure.ofResponse status body).message ∧
          (∃ shown, (Failure.ofResponse status body).describe =
            "API error " ++ status.text ++ ": " ++ shown ∧ ShowsAtMost 500 shown) ↔
        ∀ s, SpeaksFirst details (.text s) → ShowsAtMost 500 s) := by
  obtain ⟨details, hreported, hsays⟩ := ofResponse_says status body
  refine ⟨details, hreported, hsays, ?_⟩
  rw [hreported]
  have hworded := worded_reported status details
  constructor
  · rintro ⟨hmessage, -⟩ s hs
    rw [← hworded.own s hs]
    exact hmessage
  · intro htext
    by_cases h : ∃ v, SpeaksFirst details v
    · have hmessage : ShowsAtMost 500 (Failure.reported status details).message := by
        obtain ⟨v, hv⟩ := h
        by_cases hown : ∃ s, v = .text s
        · obtain ⟨s, rfl⟩ := hown
          rw [hworded.own s hv]
          exact htext s hv
        · exact (hworded.json v hv (not_exists.mp hown)).showsAtMost
      exact ⟨hmessage, _, hworded.same h, hmessage⟩
    · constructor
      · rw [hworded.standard h]
        have hlength := (reason_size status).2
        exact showsAtMost_of_length (by omega)
      · by_cases hdetails : details = []
        · exact ⟨_, hworded.bare h hdetails, showsAtMost_of_length (by decide)⟩
        · obtain ⟨shown, hcut, hfull⟩ := hworded.whole h hdetails
          exact ⟨shown, hfull, hcut.showsAtMost⟩

/-- A report of a single text. -/
theorem speaksFirst_error {s : String} (h : s ≠ "") : SpeaksFirst [("error", .text s)] (.text s) := by
  refine ⟨[], "error", _, rfl, if_pos rfl, ?_, by simp⟩
  rintro (hnull | hempty)
  · cases hnull
  · exact h (Value.text.inj hempty)

theorem report_ordered (s : String) : (Value.object [("error", .text s)]).Ordered := by
  refine .object (by simp) ?_
  simp only [List.forall_mem_cons, List.not_mem_nil, false_implies, implies_true, and_true]
  exact .text s

theorem report_within (s : String) : (Value.object [("error", .text s)]).Within maxLevels := by
  refine .object ?_
  simp only [List.forall_mem_cons, List.not_mem_nil, false_implies, implies_true, and_true]
  exact .text _ s

/-- The service uses this text, and the response to that says nothing else. -/
theorem ofResponse_report (status : Status) (s : String) :
    Failure.ofResponse status (written (.object [("error", .text s)])) =
      .reported status [("error", .text s)] := by
  rw [Failure.ofResponse, (report_ordered s).decode_written (report_within s)]

/-- What a service may say at length. -/
def longText : String := String.ofList (List.replicate 501 'x')

/-- One byte more than what is shown of other values, and it is shown as a whole. -/
theorem long_text_is_not_cut :
    let failure := Failure.ofResponse ⟨400⟩ (written (.object [("error", .text longText)]))
    failure.message = longText ∧ failure.describe = "API error 400 Bad Request: " ++ longText ∧
      ¬ ShowsAtMost 500 longText := by
  have hchars : longText.toList = List.replicate 501 'x' := String.toList_ofList
  have hlong : 500 < Utf8.size longText.toList := by
    rw [hchars, Utf8.size_replicate, show Utf8.charSize 'x' = 1 from rfl]
    decide
  have hend : longText.toList.getLast? ≠ some ')' := by
    rw [hchars, List.getLast?_replicate, if_neg (by decide)]
    decide
  have hne : longText ≠ "" := by
    intro hempty
    rw [hempty] at hlong
    exact absurd hlong (by decide)
  have hstatus : "API error " ++ Status.text ⟨400⟩ ++ ": " = "API error 400 Bad Request: " := by
    decide
  obtain ⟨hmessage, hdescribed⟩ := wording_of_speaksFirst (speaksFirst_error hne) ⟨400⟩
  intro failure
  have hfailure : failure = .reported ⟨400⟩ [("error", .text longText)] :=
    ofResponse_report ⟨400⟩ longText
  rw [hfailure]
  refine ⟨hmessage, ?_, not_showsAtMost hlong hend⟩
  rw [describe_reported, hdescribed, hstatus]
  rfl

end CoachClient.Service
