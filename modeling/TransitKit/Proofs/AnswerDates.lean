import Mathlib
import TransitKit.Proofs.CallStyles

/-!
# The dates of an answer

The client that waits for its answer reads when it was made and when its content expires for
any cache and for shared caches. The answer's own date is read as documented, with no date for
a missing or unreadable field. The expiries are not: they read the date without a guard, so an
unreadable date or an expiry outside the calendar makes a 200 answer fail before its model is
looked up. Apart from these faults the dates are the documented ones.
-/

namespace TransitKit.Client

open Http Time Catalogue

/-- A computation fails exactly when it has no value. -/
theorem exists_error_iff_toOption {ε α : Type} (x : Except ε α) :
    (∃ e, x = .error e) ↔ x.toOption = none := by
  cases x <;> simp [Except.toOption]

/-- `d` is the text of a `Date` field that is present and does not read as a timestamp. -/
def UnreadableDate (h : Headers) (d : String) : Prop :=
  h.get? "Date" = some d ∧ (MailDate.timestamp? d).toOption = none

/-- The seconds of a directive move a timestamp outside the calendar. -/
def Overshoots (t : Timestamp) : Option Int → Prop
  | some n => (t.addSeconds n).toOption = none
  | none => False

/-- The header fields from which the waiting client cannot read the expiries of an answer: a
`Date` that is not a date, or a readable one that a directive moves outside the calendar. -/
def LifetimeFault (h : Headers) : Prop :=
  (∃ d, UnreadableDate h d) ∨
    ∃ d t, h.get? "Date" = some d ∧ MailDate.timestamp? d = .ok t ∧
      (Overshoots t (maxAges h).1 ∨ Overshoots t (maxAges h).2)

/-- The date of an answer as documented: its `Date` read as a timestamp, and none when the field
is missing or is not a date. -/
def documentedDate (h : Headers) : Option Timestamp :=
  (h.get? "Date").bind fun d => (MailDate.timestamp? d).toOption

/-- An expiry as documented: the date moved by the directive's seconds, and none when either is
missing or the sum falls outside the calendar. -/
def documentedExpiry (date : Option Timestamp) (secs : Option Int) : Option Timestamp :=
  date.bind fun t => secs.bind fun n => (t.addSeconds n).toOption

/-! ### Reading the `Date` -/

section Date

variable {h : Headers}

theorem answerDate_direct_of_none (hd : h.get? "Date" = none) :
    answerDate .direct h = .ok none := by
  simp [answerDate, hd, pure, Except.pure]

theorem answerDate_direct_of_ok {d : String} {t : Timestamp} (hd : h.get? "Date" = some d)
    (ht : MailDate.timestamp? d = .ok t) : answerDate .direct h = .ok (some t) := by
  simp [answerDate, hd, ht, Except.map]

theorem answerDate_direct_of_unreadable {d : String} (hd : UnreadableDate h d) :
    ∃ e, answerDate .direct h = .error e := by
  obtain ⟨hget, hbad⟩ := hd
  obtain ⟨e, he⟩ := (exists_error_iff_toOption _).mpr hbad
  exact ⟨e, by simp [answerDate, hget, he, Except.map]⟩

/-- A readable `Date` is the documented date. -/
theorem documentedDate_of_ok {d : String} {t : Timestamp} (hd : h.get? "Date" = some d)
    (ht : MailDate.timestamp? d = .ok t) : documentedDate h = some t := by
  simp [documentedDate, hd, ht, Except.toOption]

theorem documentedDate_of_unreadable {d : String} (hd : UnreadableDate h d) :
    documentedDate h = none := by
  simp [documentedDate, hd.1, hd.2]

/-- The date that a report carries is the documented one, whatever the `Date` holds. -/
theorem answerTime_direct (h : Headers) : answerTime .direct h = documentedDate h := by
  cases hget : h.get? "Date" with
  | none => simp [answerTime, answerDate_direct_of_none hget, documentedDate, hget]
  | some d =>
    cases ht : MailDate.timestamp? d with
    | ok t => simp [answerTime, answerDate_direct_of_ok hget ht, documentedDate_of_ok hget ht]
    | error e =>
      have hd : UnreadableDate h d := ⟨hget, by simp [ht, Except.toOption]⟩
      obtain ⟨e', he'⟩ := answerDate_direct_of_unreadable hd
      simp [answerTime, he', documentedDate_of_unreadable hd]

/-- Every `Date` reads as a timestamp, or as none when it is missing. -/
theorem answerDate_direct_of_readable (hr : ¬ ∃ d, UnreadableDate h d) :
    answerDate .direct h = .ok (documentedDate h) := by
  cases hget : h.get? "Date" with
  | none => simp [answerDate_direct_of_none hget, documentedDate, hget]
  | some d =>
    cases ht : MailDate.timestamp? d with
    | ok t => rw [answerDate_direct_of_ok hget ht, documentedDate_of_ok hget ht]
    | error e => exact absurd ⟨d, hget, by simp [ht, Except.toOption]⟩ hr

end Date

/-! ### Moving the date -/

section Expiry

variable {t : Timestamp} {secs : Option Int}

theorem expiryAfter_none (secs : Option Int) : expiryAfter none secs = .ok none := rfl

theorem expiryAfter_of_overshoots (ho : Overshoots t secs) :
    ∃ e, expiryAfter (some t) secs = .error e := by
  cases secs with
  | none => exact ho.elim
  | some n =>
    obtain ⟨e, he⟩ := (exists_error_iff_toOption _).mpr (show (t.addSeconds n).toOption = none from ho)
    exact ⟨e, by simp [expiryAfter, he, Except.map]⟩

theorem expiryAfter_of_not_overshoots (ho : ¬ Overshoots t secs) :
    expiryAfter (some t) secs = .ok (documentedExpiry (some t) secs) := by
  cases secs with
  | none => rfl
  | some n =>
    cases hn : t.addSeconds n with
    | ok u => simp [expiryAfter, documentedExpiry, hn, Except.map, Except.toOption]
    | error e => exact absurd (by simp [Overshoots, hn, Except.toOption]) ho

end Expiry

/-! ### The expiries -/

section Expiries

variable {h : Headers}

/-- The expiries fail on a lifetime fault. -/
theorem expiries_direct_of_fault (hf : LifetimeFault h) : ∃ e, expiries .direct h = .error e := by
  rcases hf with ⟨d, hd⟩ | ⟨d, t, hget, ht, hs | hc⟩
  · obtain ⟨e, he⟩ := answerDate_direct_of_unreadable hd
    exact ⟨e, by simp [expiries, he]⟩
  · obtain ⟨e, he⟩ := expiryAfter_of_overshoots hs
    exact ⟨e, by simp [expiries, answerDate_direct_of_ok hget ht, he]⟩
  · obtain ⟨e, he⟩ := expiryAfter_of_overshoots hc
    cases hs : expiryAfter (some t) (maxAges h).1 with
    | error e' => exact ⟨e', by simp [expiries, answerDate_direct_of_ok hget ht, hs]⟩
    | ok s => exact ⟨e, by simp [expiries, answerDate_direct_of_ok hget ht, hs, he]⟩

/-- Without a lifetime fault the expiries are the documented ones. -/
theorem expiries_direct_of_not_fault (hf : ¬ LifetimeFault h) :
    expiries .direct h =
      .ok (documentedExpiry (documentedDate h) (maxAges h).1,
        documentedExpiry (documentedDate h) (maxAges h).2) := by
  have hr : ¬ ∃ d, UnreadableDate h d := fun hu => hf (.inl hu)
  cases hget : h.get? "Date" with
  | none =>
    have hnone : documentedDate h = none := by simp [documentedDate, hget]
    simp [expiries, answerDate_direct_of_readable hr, hnone, expiryAfter_none, documentedExpiry,
      pure, Except.pure]
  | some d =>
    cases ht : MailDate.timestamp? d with
    | error e => exact absurd ⟨d, hget, by simp [ht, Except.toOption]⟩ hr
    | ok t =>
      have hs : ¬ Overshoots t (maxAges h).1 := fun hs => hf (.inr ⟨d, t, hget, ht, .inl hs⟩)
      have hc : ¬ Overshoots t (maxAges h).2 := fun hc => hf (.inr ⟨d, t, hget, ht, .inr hc⟩)
      simp [expiries, answerDate_direct_of_ok hget ht, documentedDate_of_ok hget ht,
        expiryAfter_of_not_overshoots hs, expiryAfter_of_not_overshoots hc, pure, Except.pure]

end Expiries

/-! ### The reports -/

section Reports

variable {model : String} {a : Answer}

/-- The report of an error fails exactly on a non-empty `Date` that is not a date. -/
theorem errorReport_fails_iff :
    (∃ e, errorReport a = .error e) ↔ ∃ d, d ≠ "" ∧ UnreadableDate a.headers d := by
  constructor
  · rintro ⟨e, he⟩
    cases hget : a.headers.get? "Date" with
    | none => simp [errorReport, hget, pure, Except.pure] at he
    | some d =>
      by_cases hd : d = ""
      · subst hd
        simp [errorReport, hget, Option.filter, pure, Except.pure] at he
      · refine ⟨d, hd, hget, ?_⟩
        cases ht : MailDate.timestamp? d with
        | error e' => rfl
        | ok t =>
          have hne : d.isEmpty = false := by simpa [String.isEmpty_iff] using hd
          simp [errorReport, hget, Option.filter, hne, ht, Functor.map, Except.map] at he
  · rintro ⟨d, hd, hget, hbad⟩
    obtain ⟨e, he⟩ := (exists_error_iff_toOption _).mpr hbad
    have hne : d.isEmpty = false := by simpa [String.isEmpty_iff] using hd
    exact ⟨e, by simp [errorReport, hget, Option.filter, hne, he, Functor.map, Except.map]⟩

/-- A report of an error carries the documented date, made UTC when it has no offset. -/
theorem errorReport_timestamp {r : ErrorReport} (hr : errorReport a = .ok r) :
    r.timestamp = (documentedDate a.headers).map Timestamp.orUtc := by
  cases hget : a.headers.get? "Date" with
  | none =>
    simp [errorReport, hget, pure, Except.pure] at hr
    simp [← hr, documentedDate, hget]
  | some d =>
    by_cases hd : d = ""
    · subst hd
      have hempty : MailDate.timestamp? "" = .error (.plain .badValue) := rfl
      simp [errorReport, hget, Option.filter, pure, Except.pure] at hr
      simp [← hr, documentedDate, hget, hempty, Except.toOption]
    · have hne : d.isEmpty = false := by simpa [String.isEmpty_iff] using hd
      cases ht : MailDate.timestamp? d with
      | error e => simp [errorReport, hget, Option.filter, hne, ht, Functor.map, Except.map] at hr
      | ok t =>
        simp [errorReport, hget, Option.filter, hne, ht, Except.map, pure, Except.pure] at hr
        simp [← hr, documentedDate_of_ok hget ht]

/-- The report of a 200 answer fails exactly on a lifetime fault, an unknown model or a body
that is not JSON. -/
theorem contentReport_direct_fails_iff :
    (∃ e, contentReport .direct model a = .error e) ↔
      LifetimeFault a.headers ∨ modelKind? model = none ∨ Json.parse? a.text = none := by
  by_cases hf : LifetimeFault a.headers
  · obtain ⟨e, he⟩ := expiries_direct_of_fault hf
    exact iff_of_true ⟨e, by simp [contentReport, he]⟩ (.inl hf)
  · simp only [hf, false_or]
    cases hk : modelKind? model with
    | none => simp [contentReport, expiries_direct_of_not_fault hf, hk, throw, throwThe,
        MonadExceptOf.throw]
    | some k =>
      cases hj : Json.parse? a.text with
      | none => simp [contentReport, expiries_direct_of_not_fault hf, hk, hj, throw, throwThe,
          MonadExceptOf.throw, pure, Except.pure]
      | some j => simp [contentReport, expiries_direct_of_not_fault hf, hk, hj, pure, Except.pure]

/-- A report of a 200 answer carries the documented dates. -/
theorem contentReport_direct_dates {r : ContentReport} (hr : contentReport .direct model a = .ok r) :
    r.responseTimestamp = documentedDate a.headers ∧
      r.contentExpires = documentedExpiry (documentedDate a.headers) (maxAges a.headers).2 ∧
      r.sharedExpires = documentedExpiry (documentedDate a.headers) (maxAges a.headers).1 := by
  have hf : ¬ LifetimeFault a.headers := by
    intro hf
    obtain ⟨e, he⟩ := (@contentReport_direct_fails_iff model a).mpr (.inl hf)
    rw [hr] at he
    cases he
  unfold contentReport at hr
  rw [expiries_direct_of_not_fault hf, ok_bind, answerTime_direct] at hr
  cases hk : modelKind? model with
  | none => simp [hk, throw, throwThe, MonadExceptOf.throw] at hr
  | some k =>
    cases hj : Json.parse? a.text with
    | none => simp [hk, hj, throw, throwThe, MonadExceptOf.throw] at hr
    | some j =>
      simp only [hk, hj, pure_bind, pure_eq_ok] at hr
      subst hr
      exact ⟨rfl, rfl, rfl⟩

end Reports

/-! ### A whole answer -/

section Answer

variable {ε α β : Type} {style : CallStyle} {model : String} {sent : Sent} {a : Answer}

theorem exists_error_bind_pure {x : Except ε α} {f : α → β} :
    (∃ e, (x >>= fun r => pure (f r)) = .error e) ↔ ∃ e, x = .error e := by
  cases x <;> simp [bind, Except.bind, pure, Except.pure]

theorem readAnswer_of_ne (hs : a.status ≠ 200) :
    readAnswer style model sent a = errorReport a >>= fun r => pure (sent, .failure r) := by
  have hs' : (a.status != 200) = true := by simp [hs]
  simp only [readAnswer, hs', if_true]

theorem readAnswer_of_eq (hs : a.status = 200) :
    readAnswer style model sent a =
      contentReport style model a >>= fun r => pure (sent, .content r) := by
  simp only [readAnswer, hs, bne_self_eq_false, Bool.false_eq_true, if_false]

end Answer

/-- How the waiting client reads an answer. An answer whose status is not 200 is reported as an
error, unless it has a non-empty `Date` that is not a date, and the report carries the documented
date made UTC. A 200 answer fails exactly on a lifetime fault, an unknown model or a body that
is not JSON, and otherwise its report carries the documented dates. -/
theorem readAnswer_direct_dates (model : String) (sent : Sent) (a : Answer) :
    (a.status ≠ 200 →
      ((∃ e, readAnswer .direct model sent a = .error e) ↔
          ∃ d, d ≠ "" ∧ UnreadableDate a.headers d) ∧
        ∀ r, readAnswer .direct model sent a = .ok (sent, .failure r) →
          r.timestamp = (documentedDate a.headers).map Timestamp.orUtc) ∧
    (a.status = 200 →
      ((∃ e, readAnswer .direct model sent a = .error e) ↔
          LifetimeFault a.headers ∨ modelKind? model = none ∨ Json.parse? a.text = none) ∧
        ∀ r, readAnswer .direct model sent a = .ok (sent, .content r) →
          r.responseTimestamp = documentedDate a.headers ∧
            r.contentExpires = documentedExpiry (documentedDate a.headers) (maxAges a.headers).2 ∧
            r.sharedExpires = documentedExpiry (documentedDate a.headers) (maxAges a.headers).1) := by
  constructor
  · intro hs
    rw [readAnswer_of_ne hs, exists_error_bind_pure]
    refine ⟨errorReport_fails_iff, ?_⟩
    intro r hr
    obtain ⟨r', hr', heq⟩ := bind_eq_ok.mp hr
    have hrr : r' = r := by simpa using heq
    rw [← hrr]
    exact errorReport_timestamp hr'
  · intro hs
    rw [readAnswer_of_eq hs, exists_error_bind_pure]
    refine ⟨contentReport_direct_fails_iff, ?_⟩
    intro r hr
    obtain ⟨r', hr', heq⟩ := bind_eq_ok.mp hr
    have hrr : r' = r := by simpa using heq
    rw [← hrr]
    exact contentReport_direct_dates hr'

/-- Header fields whose `Date` reads `Invalid Date`. -/
def invalidDateFields : Headers := ⟨[("Date", "Invalid Date")]⟩

theorem timestamp_invalidDate : MailDate.timestamp? "Invalid Date" = .error (.plain .badValue) := by
  have h : (MailDate.fields? "Invalid Date").isNone = true := by decide +kernel
  simp [MailDate.timestamp?, Option.isNone_iff_eq_none.mp h]

/-- An answer dated `Invalid Date` makes the waiting client fail, with status 200 as with
status 404, where the documentation promises a report without dates. -/
theorem invalidDate_answers_refused :
    readAnswer .direct "GenericResponseModel" (.recorded "Line/x" [] 30)
        ⟨200, invalidDateFields, "1", "Line/x", ""⟩ = .error (.plain .badValue) ∧
      readAnswer .direct "GenericResponseModel" (.recorded "Line/x" [] 30)
        ⟨404, invalidDateFields, "", "Line/x", "Not Found"⟩ = .error (.plain .badValue) := by
  have hget : invalidDateFields.get? "Date" = some "Invalid Date" := by decide +kernel
  constructor
  · rw [readAnswer_of_eq rfl]
    simp [contentReport, expiries, answerDate, hget, timestamp_invalidDate, Except.map]
  · rw [readAnswer_of_ne (by decide)]
    have hne : "Invalid Date".isEmpty = false := by decide
    simp [errorReport, hget, Option.filter, hne, timestamp_invalidDate, Except.map]

end TransitKit.Client
