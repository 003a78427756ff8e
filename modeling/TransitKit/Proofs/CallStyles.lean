import Mathlib
import TransitKit.Client.Call
import TransitKit.Proofs.Outcome
import TransitKit.Proofs.AddressTemplates

/-!
# Waiting for an answer or awaiting it

The client that waits for its answer and the client that awaits it send the same request and
read the answer alike but for one field: the first fails on a `Date` that is present but empty,
where the second treats it as absent. So the two agree exactly unless a 200 answer carries an
empty `Date` and the endpoint names a model the client knows.
-/

namespace TransitKit.Client

open Http Time Catalogue

/-- Two outcomes agree as a caller sees them: the same value, or failures of one kind. -/
def Agree {α : Type} : Outcome α → Outcome α → Prop
  | .ok a, .ok b => a = b
  | .error e, .error f => e.kind = f.kind
  | _, _ => False

theorem Agree.refl {α : Type} (x : Outcome α) : Agree x x := by
  cases x <;> exact rfl

/-- The request a call sends and the answer it gets back, before the answer is read. -/
def EndpointCall.exchange (c : EndpointCall) (backend : Backend) (net : Network)
    (token : Option String) : Outcome (Sent × Answer) := do
  let location ← Template.fill c.uri (positional c.params)
  let url ← requestUrl c.baseUrl location (c.query.getD [])
  transmit backend net url (requestFields token) 30

/-- How a client of a style reads the answer to the request it sent. -/
def readAnswer (style : CallStyle) (model : String) (sent : Sent) (answer : Answer) :
    Outcome (Sent × Reply) :=
  if answer.status != 200 then do return (sent, .failure (← errorReport answer))
  else do return (sent, .content (← contentReport style model answer))

theorem EndpointCall.run_eq_exchange (c : EndpointCall) (style : CallStyle) (b : Backend)
    (net : Network) (token : Option String) :
    c.run style b net token =
      c.exchange b net token >>= fun p => readAnswer style c.model p.1 p.2 := by
  simp only [EndpointCall.run, EndpointCall.exchange, bind_assoc]
  rfl

/-! ## The date of an answer -/

theorem answerDate_styles {h : Headers} (hd : h.get? "Date" ≠ some "") :
    answerDate .direct h = answerDate .awaited h := by
  unfold answerDate
  cases hget : h.get? "Date" with
  | none => rfl
  | some t =>
    have ht : t.isEmpty = false := by
      rw [hget] at hd
      simpa [String.isEmpty_iff] using hd
    simp [Option.filter, ht]

theorem answerDate_emptyDate {h : Headers} (hd : h.get? "Date" = some "") :
    answerDate .direct h = .error (.plain .badValue) ∧ answerDate .awaited h = .ok none := by
  have hempty : MailDate.timestamp? "" = .error (.plain .badValue) := rfl
  constructor
  · simp only [answerDate, hd, hempty]
    rfl
  · simp only [answerDate, hd]
    rfl

/-- Both clients report the same date of an answer: an empty `Date` is unreadable to the
one and absent to the other, and either way there is none. -/
theorem answerTime_styles (h : Headers) : answerTime .direct h = answerTime .awaited h := by
  by_cases hd : h.get? "Date" = some ""
  · obtain ⟨hdirect, hawaited⟩ := answerDate_emptyDate hd
    simp only [answerTime, hdirect, hawaited]
  · simp only [answerTime, answerDate_styles hd]

/-! ## Reading a 200 answer -/

variable {model : String} {a : Answer}

theorem contentReport_styles (hd : a.headers.get? "Date" ≠ some "") :
    contentReport .direct model a = contentReport .awaited model a := by
  unfold contentReport expiries
  rw [answerDate_styles hd, answerTime_styles]

/-- The waiting client fails on an empty `Date` before it looks for the model. -/
theorem contentReport_direct_emptyDate (hd : a.headers.get? "Date" = some "") :
    contentReport .direct model a = .error (.plain .badValue) := by
  simp only [contentReport, expiries, (answerDate_emptyDate hd).1]
  rfl

/-- With an empty `Date`, the waiting client fails with a bad value, and the awaiting one
reads the answer without dates: the two agree only when the awaiting one fails in the same
way, for want of a model. -/
theorem agree_contentReport_emptyDate (hd : a.headers.get? "Date" = some "") :
    Agree (contentReport .direct model a) (contentReport .awaited model a) ↔
      modelKind? model = none := by
  have hawaited := (answerDate_emptyDate hd).2
  have hexp : expiries .awaited a.headers = .ok (none, none) := by
    simp only [expiries, hawaited]
    rfl
  rw [contentReport_direct_emptyDate hd]
  simp only [contentReport, hexp, ok_bind]
  cases modelKind? model with
  | none => exact iff_of_true rfl rfl
  | some k =>
    cases Json.parse? a.text with
    | none => simp [Agree, Fault.plain, bind, Except.bind, pure, Except.pure, throw, throwThe,
        MonadExceptOf.throw]
    | some j => simp [Agree, bind, Except.bind, pure, Except.pure]

theorem agree_content_iff {x y : Outcome ContentReport} {sent : Sent} :
    Agree (x >>= fun r => pure (sent, Reply.content r))
        (y >>= fun r => pure (sent, Reply.content r)) ↔ Agree x y := by
  cases x <;> cases y <;> simp [Agree, bind, Except.bind, pure, Except.pure]

/-- The waiting client refuses a 200 answer with an empty `Date`. -/
theorem readAnswer_direct_emptyDate {sent : Sent} (hs : a.status = 200)
    (hd : a.headers.get? "Date" = some "") :
    readAnswer .direct model sent a = .error (.plain .badValue) := by
  simp only [readAnswer, hs, bne_self_eq_false, Bool.false_eq_true, if_false,
    contentReport_direct_emptyDate hd]
  rfl

/-- The two clients read an answer alike unless it has status 200 and an empty `Date`, and
then they agree exactly when the model is unknown. -/
theorem agree_readAnswer_iff {sent : Sent} :
    Agree (readAnswer .direct model sent a) (readAnswer .awaited model sent a) ↔
      (a.status = 200 → a.headers.get? "Date" = some "" → modelKind? model = none) := by
  unfold readAnswer
  by_cases hs : a.status = 200
  · simp only [hs, bne_self_eq_false, Bool.false_eq_true, if_false, agree_content_iff,
      true_implies]
    by_cases hd : a.headers.get? "Date" = some ""
    · simp only [hd, true_implies]
      exact agree_contentReport_emptyDate hd
    · simp only [hd, false_implies, iff_true]
      rw [contentReport_styles hd]
      exact Agree.refl _
  · have hs' : (a.status != 200) = true := by simp [hs]
    simp only [hs', if_true, hs, false_implies, iff_true]
    exact Agree.refl _

/-! ## A whole call -/

/-- The clients that wait for and await their answers agree, with the same request and report
or failures of one kind, exactly unless the call gets a 200 answer with an empty `Date` for an
endpoint whose model the client knows. -/
theorem run_agree_iff (c : EndpointCall) (b : Backend) (net : Network) (token : Option String) :
    Agree (c.run .direct b net token) (c.run .awaited b net token) ↔
      ∀ sent a, c.exchange b net token = .ok (sent, a) → a.status = 200 →
        a.headers.get? "Date" = some "" → modelKind? c.model = none := by
  rw [EndpointCall.run_eq_exchange, EndpointCall.run_eq_exchange]
  cases hx : c.exchange b net token with
  | error e =>
    exact iff_of_true rfl fun _ _ h => nomatch h
  | ok p =>
    rw [ok_bind, ok_bind, agree_readAnswer_iff]
    constructor
    · intro h sent a hp
      cases hp
      exact h
    · intro h
      exact h p.1 p.2 rfl

/-- A call of the generic model at a relative address. -/
def emptyDateCall : EndpointCall :=
  { baseUrl := "", uri := "Line/x", model := "GenericResponseModel" }

/-- The network that answers every request with status 200, an empty `Date` and the body
`1`. -/
def emptyDateNetwork : Network :=
  { fallback := { headers := ⟨[("Date", "")]⟩, body := "1" } }

/-- On an answer with an empty `Date`, the waiting client fails with a bad value while the
awaiting client reads the content. -/
theorem emptyDate_clients_disagree :
    emptyDateCall.run .direct .recorder emptyDateNetwork none = .error (.plain .badValue) ∧
      ¬ Agree (emptyDateCall.run .direct .recorder emptyDateNetwork none)
        (emptyDateCall.run .awaited .recorder emptyDateNetwork none) := by
  have hfill : Template.fill "Line/x" [] = .ok "Line/x" :=
    @Codegen.fill_render [] [.text "Line/x"]
      (fun s hs => by
        simp only [List.mem_singleton, Codegen.Piece.text.injEq] at hs
        subst hs
        exact ⟨by decide, by decide⟩)
      (fun i hi => by simp at hi)
  have hurl : requestUrl "" "Line/x" [] = .ok "Line/x" := by
    have h : (requestUrl "" "Line/x" []).toOption = some "Line/x" := by decide +kernel
    revert h
    cases requestUrl "" "Line/x" [] <;> simp [Except.toOption]
  let answer : Answer := ⟨200, ⟨[("Date", "")]⟩, "1", "Line/x", ""⟩
  have hx : emptyDateCall.exchange .recorder emptyDateNetwork none =
      .ok (.recorded "Line/x" (sortFields (requestFields none)) 30, answer) := by
    simp only [EndpointCall.exchange, emptyDateCall, positional, hfill, ok_bind, Option.getD_none,
      hurl]
    rfl
  have hdate : answer.headers.get? "Date" = some "" := rfl
  have hmodel : modelKind? "GenericResponseModel" = some .root := by decide
  rw [EndpointCall.run_eq_exchange, EndpointCall.run_eq_exchange, hx, ok_bind, ok_bind]
  constructor
  · exact readAnswer_direct_emptyDate rfl hdate
  · rw [agree_readAnswer_iff]
    intro h
    have := h rfl hdate
    simp [emptyDateCall, hmodel] at this

end TransitKit.Client
