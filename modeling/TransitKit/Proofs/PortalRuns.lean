import Mathlib
import TransitKit.Portal.Crawler

/-!
# Crawls whose outcome the network decides

A job on a host may read the whole host, but the crawls of the API portal only print,
note requests and read the answers of the network, which no job changes. This file makes
that precise: `ReadsNet j` says that the outcome of `j` on any host is its outcome on a
fresh host with the same network (`outcomeOn`), and that `j` keeps the network. The
property holds of the host's primitives and is kept by `bind`, `tryCatch` and `foldlM`,
and each time the outcome is computed from the outcomes of the parts.

For the portal, a request's outcome is the address it goes to followed by the network's
answer there (`outcomeOn_getJson`), and so every crawl step reads the network alone.
-/

namespace TransitKit

open Host

variable {α β : Type}

/-- The outcome of a job on a host that has the network `net` and nothing else. -/
def outcomeOn (net : Client.Network) (j : Job α) : Except Failure α :=
  (j.run.run { net := net }).1

/-- A job whose outcome depends on the network alone and which keeps the network. -/
def ReadsNet (j : Job α) : Prop :=
  ∀ h : Host, (j.run.run h).1 = outcomeOn h.net j ∧ (j.run.run h).2.net = h.net

theorem run_bind (j : Job α) (k : α → Job β) (h : Host) :
    (j >>= k).run.run h = match j.run.run h with
      | (.ok a, h') => (k a).run.run h'
      | (.error e, h') => (.error e, h') := by
  simp only [ExceptT.run_bind, StateT.run_bind]
  rcases j.run.run h with ⟨r, h'⟩
  cases r <;> rfl

theorem run_tryCatch (j : Job α) (handler : Failure → Job α) (h : Host) :
    (tryCatch j handler).run.run h = match j.run.run h with
      | (.ok a, h') => (.ok a, h')
      | (.error e, h') => (handler e).run.run h' := by
  show (ExceptT.tryCatch j handler).run.run h = _
  unfold ExceptT.tryCatch
  rw [ExceptT.run_mk, StateT.run_bind]
  change (StateT.run (ExceptT.run j) h >>= _) = _
  rcases j.run.run h with ⟨r, h'⟩
  cases r <;> rfl

@[simp] theorem run_lift (e : Except Failure α) (h : Host) : (Host.lift e).run.run h = (e, h) := by
  cases e <;> rfl

@[simp] theorem run_say (line : String) (h : Host) :
    (Host.say line).run.run h = (.ok (), { h with console := h.console ++ line ++ "\n" }) := rfl

@[simp] theorem run_noteRequest (url : String) (h : Host) :
    (Host.noteRequest url).run.run h = (.ok (), { h with requests := h.requests ++ [url] }) := rfl

@[simp] theorem run_get (h : Host) : (get : Job Host).run.run h = (.ok h, h) := rfl

@[simp] theorem run_pure (a : α) (h : Host) : (pure a : Job α).run.run h = (.ok a, h) := rfl

theorem outcomeOn_bind {j : Job α} {k : α → Job β} (net : Client.Network) (hj : ReadsNet j)
    (hk : ∀ a, ReadsNet (k a)) :
    outcomeOn net (j >>= k) = (outcomeOn net j).bind fun a => outcomeOn net (k a) := by
  unfold outcomeOn
  rw [run_bind]
  have hnet := (hj { net := net }).2
  rcases hr : j.run.run { net := net } with ⟨r, h'⟩
  rw [hr] at hnet
  cases r with
  | ok a =>
    simp only at hnet ⊢
    rw [(hk a h').1, hnet]
    rfl
  | error e => rfl

theorem outcomeOn_tryCatch {j : Job α} {handler : Failure → Job α} (net : Client.Network)
    (hj : ReadsNet j) (hh : ∀ e, ReadsNet (handler e)) :
    outcomeOn net (tryCatch j handler) = match outcomeOn net j with
      | .ok a => .ok a
      | .error e => outcomeOn net (handler e) := by
  unfold outcomeOn
  rw [run_tryCatch]
  have hnet := (hj { net := net }).2
  rcases hr : j.run.run { net := net } with ⟨r, h'⟩
  rw [hr] at hnet
  cases r with
  | ok a => rfl
  | error e =>
    simp only at hnet ⊢
    rw [(hh e h').1, hnet]
    rfl

namespace ReadsNet

protected theorem pure (a : α) : ReadsNet (pure a : Job α) := fun _ => ⟨rfl, rfl⟩

protected theorem throw (e : Failure) : ReadsNet (throw e : Job α) := fun _ => ⟨rfl, rfl⟩

protected theorem lift (e : Except Failure α) : ReadsNet (Host.lift e) := by
  cases e <;> exact fun _ => ⟨rfl, rfl⟩

protected theorem say (line : String) : ReadsNet (Host.say line) := fun _ => ⟨rfl, rfl⟩

protected theorem noteRequest (url : String) : ReadsNet (Host.noteRequest url) :=
  fun _ => ⟨rfl, rfl⟩

protected theorem bind {j : Job α} {k : α → Job β} (hj : ReadsNet j) (hk : ∀ a, ReadsNet (k a)) :
    ReadsNet (j >>= k) := by
  intro h
  rw [outcomeOn_bind h.net hj hk, run_bind]
  obtain ⟨hout, hnet⟩ := hj h
  rcases hr : j.run.run h with ⟨r, h'⟩
  rw [hr] at hout hnet
  simp only at hout hnet
  rw [← hout]
  cases r with
  | ok a =>
    obtain ⟨hout', hnet'⟩ := hk a h'
    exact ⟨hout'.trans (by rw [hnet]; rfl), hnet'.trans hnet⟩
  | error e => exact ⟨rfl, hnet⟩

protected theorem liftBind {k : α → Job β} (e : Except Failure α) (hk : ∀ a, ReadsNet (k a)) :
    ReadsNet (Host.lift e >>= k) :=
  ReadsNet.bind (ReadsNet.lift e) hk

protected theorem ite {c : Prop} [Decidable c] {t e : Job α} (ht : ReadsNet t) (he : ReadsNet e) :
    ReadsNet (if c then t else e) := by
  split
  · exact ht
  · exact he

/-- Reading the network of the host and going on from it. -/
protected theorem readNet {k : Client.Network → Job α} (hk : ∀ n, ReadsNet (k n)) :
    ReadsNet (get >>= fun h : Host => k h.net) := by
  intro h
  exact ⟨(hk h.net h).1, (hk h.net h).2⟩

protected theorem tryCatch {j : Job α} {handler : Failure → Job α} (hj : ReadsNet j)
    (hh : ∀ e, ReadsNet (handler e)) : ReadsNet (tryCatch j handler) := by
  intro h
  rw [outcomeOn_tryCatch h.net hj hh, run_tryCatch]
  obtain ⟨hout, hnet⟩ := hj h
  rcases hr : j.run.run h with ⟨r, h'⟩
  rw [hr] at hout hnet
  simp only at hout hnet
  rw [← hout]
  cases r with
  | ok a => exact ⟨rfl, hnet⟩
  | error e =>
    obtain ⟨hout', hnet'⟩ := hh e h'
    exact ⟨hout'.trans (by rw [hnet]), hnet'.trans hnet⟩

protected theorem foldlM {f : β → α → Job β} (hf : ∀ b a, ReadsNet (f b a)) :
    ∀ (xs : List α) (init : β), ReadsNet (xs.foldlM f init)
  | [], init => ReadsNet.pure init
  | x :: xs, init => ReadsNet.bind (hf init x) fun b => ReadsNet.foldlM hf xs b

end ReadsNet

@[simp] theorem outcomeOn_pure (net : Client.Network) (a : α) :
    outcomeOn net (pure a : Job α) = .ok a := rfl

@[simp] theorem outcomeOn_lift (net : Client.Network) (e : Except Failure α) :
    outcomeOn net (Host.lift e) = e := by
  cases e <;> rfl

@[simp] theorem outcomeOn_say (net : Client.Network) (line : String) :
    outcomeOn net (Host.say line) = .ok () := rfl

@[simp] theorem outcomeOn_noteRequest (net : Client.Network) (url : String) :
    outcomeOn net (Host.noteRequest url) = .ok () := rfl

theorem outcomeOn_readNet {k : Client.Network → Job α} (net : Client.Network) :
    outcomeOn net (get >>= fun h : Host => k h.net) = outcomeOn net (k net) := rfl

/-- A run of steps that read the network alone: its outcome is the run of their outcomes. -/
theorem outcomeOn_foldlM {f : β → α → Job β} (net : Client.Network)
    (hf : ∀ b a, ReadsNet (f b a)) :
    ∀ (xs : List α) (init : β),
      outcomeOn net (xs.foldlM f init) = xs.foldlM (fun b a => outcomeOn net (f b a)) init
  | [], _ => rfl
  | x :: xs, init => by
    rw [List.foldlM_cons, List.foldlM_cons, outcomeOn_bind net (hf init x)
      (fun b => ReadsNet.foldlM hf xs b)]
    cases outcomeOn net (f init x) with
    | ok b => exact outcomeOn_foldlM net hf xs b
    | error e => rfl

/-! ### Requests to the portal -/

section Portal

open Portal

protected theorem ReadsNet.getJson (url : String) (params : List (String × String)) :
    ReadsNet (getJson url params) :=
  ReadsNet.bind (ReadsNet.lift _) fun address =>
    ReadsNet.bind (ReadsNet.noteRequest address) fun _ =>
      ReadsNet.readNet (k := fun n => Host.lift (readAnswer (n.answerFor address) address))
        fun _ => ReadsNet.lift _

/-- A request's outcome is the network's answer at the address it goes to, read as JSON. -/
theorem outcomeOn_getJson (net : Client.Network) (url : String) (params : List (String × String)) :
    outcomeOn net (getJson url params) =
      (addressFor url params).bind fun address => readAnswer (net.answerFor address) address := by
  simp only [outcomeOn, getJson, run_bind, run_lift]
  cases addressFor url params with
  | error e => rfl
  | ok address =>
    simp only [run_noteRequest, run_get]
    rfl

/-- A request that goes to `address`, where the network answers `v`, gives `v` and is noted;
the host is otherwise unchanged. -/
theorem run_getJson {net : Client.Network} {url address : String} {params : List (String × String)}
    {v : Json} (haddr : addressFor url params = .ok address)
    (hans : readAnswer (net.answerFor address) address = .ok v) (h : Host) (hnet : h.net = net) :
    (getJson url params).run.run h = (.ok v, { h with requests := h.requests ++ [address] }) := by
  subst hnet
  simp only [getJson, run_bind, run_lift, haddr, run_noteRequest, run_get, hans]

/-! ### The steps of a crawl -/

protected theorem ReadsNet.mergeSchema (apiId : Json) (schemas : Dict) (schemaId : Json) :
    ReadsNet (mergeSchema apiId schemas schemaId) := by
  refine ReadsNet.bind (ReadsNet.getJson _ _) fun data => ReadsNet.liftBind _ fun defined => ?_
  cases defined with
  | some defined => exact ReadsNet.lift _
  | none => exact ReadsNet.pure _

protected theorem ReadsNet.fetchSchema (apiId : Json) (schemas : Dict) (schemaId : Json) :
    ReadsNet (fetchSchema apiId schemas schemaId) :=
  ReadsNet.tryCatch (ReadsNet.mergeSchema _ _ _) fun _ =>
    ReadsNet.ite (ReadsNet.bind (ReadsNet.say _) fun _ => ReadsNet.pure _) (ReadsNet.throw _)

protected theorem ReadsNet.addOperation (apiId : Json) (acc : Dict × List Json) (operation : Json) :
    ReadsNet (addOperation apiId acc operation) := by
  obtain ⟨paths, wanted⟩ := acc
  refine ReadsNet.liftBind _ fun operationId => ReadsNet.bind (ReadsNet.say _) fun _ =>
    ReadsNet.bind (ReadsNet.getJson _ _) fun details => ?_
  refine ReadsNet.liftBind _ fun template => ReadsNet.liftBind _ fun _ =>
    ReadsNet.liftBind _ fun m => ReadsNet.liftBind _ fun method => ?_
  exact ReadsNet.liftBind _ fun summary => ReadsNet.liftBind _ fun description =>
    ReadsNet.liftBind _ fun responses => ReadsNet.pure _

protected theorem ReadsNet.outline (apiId : Json) : ReadsNet (outline apiId) := by
  refine ReadsNet.bind (ReadsNet.say _) fun _ => ReadsNet.bind (ReadsNet.getJson _ _) fun details =>
    ReadsNet.bind (ReadsNet.bind (ReadsNet.getJson _ _) fun _ => ReadsNet.lift _) fun operations => ?_
  refine ReadsNet.liftBind _ fun title => ReadsNet.liftBind _ fun description =>
    ReadsNet.liftBind _ fun path => ReadsNet.liftBind _ fun items => ?_
  exact ReadsNet.bind (ReadsNet.foldlM (fun acc op => ReadsNet.addOperation apiId acc op) _ _)
    fun _ => ReadsNet.pure _

protected theorem ReadsNet.buildDescription (visit : List Json → List Json) (apiId : Json) :
    ReadsNet (buildDescription visit apiId) :=
  ReadsNet.bind (ReadsNet.outline apiId) fun _ => ReadsNet.bind (ReadsNet.say _) fun _ =>
    ReadsNet.bind (ReadsNet.foldlM (ReadsNet.fetchSchema apiId) _ _) fun _ => ReadsNet.pure _

end Portal

namespace Portal

theorem outcomeOn_mergeSchema (net : Client.Network) (apiId : Json) (schemas : Dict)
    (schemaId : Json) :
    outcomeOn net (mergeSchema apiId schemas schemaId) =
      ((outcomeOn net (schemaOf apiId.text schemaId.text)).bind definedSchemas).bind fun defined =>
        match defined with
        | some defined => schemas.update defined
        | none => .ok schemas := by
  have hdata : ReadsNet (schemaOf apiId.text schemaId.text) := ReadsNet.getJson _ _
  unfold mergeSchema
  refine (outcomeOn_bind net hdata fun data => ?_).trans ?_
  · refine ReadsNet.liftBind _ fun defined => ?_
    cases defined with
    | some defined => exact ReadsNet.lift _
    | none => exact ReadsNet.pure _
  cases outcomeOn net (schemaOf apiId.text schemaId.text) with
  | error e => rfl
  | ok data =>
    show outcomeOn net _ = (definedSchemas data).bind _
    cases definedSchemas data with
    | error e => rfl
    | ok defined =>
      cases defined with
      | none => rfl
      | some defined => exact congrArg Prod.fst (run_lift (schemas.update defined) { net := net })

/-- Fetching a schema: a request failure keeps the schemas gathered so far, any other failure
stops the crawl. -/
theorem outcomeOn_fetchSchema (net : Client.Network) (apiId : Json) (schemas : Dict)
    (schemaId : Json) :
    outcomeOn net (fetchSchema apiId schemas schemaId) =
      match outcomeOn net (mergeSchema apiId schemas schemaId) with
      | .ok merged => .ok merged
      | .error e => if isRequestFailure e.kind then .ok schemas else .error e := by
  refine (outcomeOn_tryCatch net (ReadsNet.mergeSchema _ _ _) fun _ =>
    ReadsNet.ite (ReadsNet.bind (ReadsNet.say _) fun _ => ReadsNet.pure _) (ReadsNet.throw _)).trans ?_
  cases outcomeOn net (mergeSchema apiId schemas schemaId) with
  | ok merged => rfl
  | error e =>
    by_cases h : isRequestFailure e.kind = true
    · simp only [h, if_true]
      rfl
    · simp only [h]
      rfl

/-- A crawl reads the outline of the API, then merges the schemas it names in the order `visit`
puts them in. -/
theorem outcomeOn_buildDescription (net : Client.Network) (visit : List Json → List Json)
    (apiId : Json) :
    outcomeOn net (buildDescription visit apiId) = (outcomeOn net (outline apiId)).bind fun o =>
      (outcomeOn net ((visit o.wanted).foldlM (fetchSchema apiId) {})).map o.finish := by
  have hfetch : ∀ (xs : List Json) (init : Dict), ReadsNet (xs.foldlM (fetchSchema apiId) init) :=
    ReadsNet.foldlM (ReadsNet.fetchSchema apiId)
  refine (outcomeOn_bind net (ReadsNet.outline apiId) fun o => ReadsNet.bind (ReadsNet.say _)
    fun _ => ReadsNet.bind (hfetch _ _) fun _ => ReadsNet.pure _).trans ?_
  cases outcomeOn net (outline apiId) with
  | error e => rfl
  | ok o =>
    show _ = (outcomeOn net ((visit o.wanted).foldlM (fetchSchema apiId) {})).map o.finish
    refine (outcomeOn_bind net (ReadsNet.say _) fun _ => ReadsNet.bind (hfetch _ _)
      fun _ => ReadsNet.pure _).trans ?_
    refine (outcomeOn_bind net (hfetch _ _) fun _ => ReadsNet.pure _).trans ?_
    cases outcomeOn net ((visit o.wanted).foldlM (fetchSchema apiId) {}) <;> rfl

end Portal

end TransitKit
