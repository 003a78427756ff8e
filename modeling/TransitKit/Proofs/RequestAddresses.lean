import Mathlib
import TransitKit.Proofs.AddressTemplates
import TransitKit.Proofs.CallStyles
import TransitKit.Proofs.UrlSplitting

/-!
# The address a request is sent to

A call fills its endpoint's template with the positional values as they are, resolves the result
against the base address and replaces the query by the encoded arguments. Nothing in the values
is escaped. For a web base and a filled location made of a kept path, a query and a fragment,
the backend receives the base's scheme and location, the path, the arguments and the fragment;
a value holding `#` moves what follows it into the fragment and drops what stood before it.
-/

namespace TransitKit.Url

/-- Texts joined by a separator hold only characters of the separator and of the texts. -/
theorem forall_mem_intercalate {P : Char → Prop} {sep : String} (hsep : ∀ c ∈ sep.toList, P c) :
    ∀ {xs : List String}, (∀ x ∈ xs, ∀ c ∈ x.toList, P c) →
      ∀ c ∈ (sep.intercalate xs).toList, P c
  | [], _ => by simp
  | [x], hxs => by simpa using hxs x List.mem_cons_self
  | x :: y :: ys, hxs => by
    rw [String.intercalate_cons_cons]
    intro c hc
    simp only [String.toList_append, List.mem_append] at hc
    rcases hc with (hc | hc) | hc
    · exact hxs x List.mem_cons_self c hc
    · exact hsep c hc
    · exact forall_mem_intercalate hsep (fun z hz => hxs z (List.mem_cons_of_mem x hz)) c hc

/-- The hexadecimal digits of an escape. -/
theorem hexDigitUpper_safe : ∀ n < 16, hexDigitUpper n ∉ ['#', '\t', '\n', '\r'] := by
  decide

/-- Form encoding writes letters, digits, `_ . - ~`, `+`, escapes, `=` and `&`: never a `#`
and never a break. -/
theorem quotePlus_safe (s : String) : ∀ c ∈ (quotePlus s).toList, c ∉ ['#', '\t', '\n', '\r'] := by
  intro c hc
  simp only [quotePlus, String.toList_ofList, List.mem_flatMap] at hc
  obtain ⟨d, -, hd⟩ := hc
  split at hd
  · simp at hd
    simp [hd]
  · split at hd
    · rename_i hsafe
      simp only [List.mem_singleton] at hd
      subst hd
      intro hm
      simp only [List.mem_cons, List.not_mem_nil, or_false] at hm
      rcases hm with rfl | rfl | rfl | rfl <;> simp [isAlwaysSafe] at hsafe
    · simp only [List.mem_flatMap, escapeByte, List.mem_cons, List.not_mem_nil, or_false] at hd
      obtain ⟨b, -, rfl | rfl | rfl⟩ := hd
      · decide
      · exact hexDigitUpper_safe _ (Nat.mod_lt _ (by decide))
      · exact hexDigitUpper_safe _ (Nat.mod_lt _ (by decide))

end TransitKit.Url

namespace TransitKit.Client

open Url Codegen

/-- The query of a request holds no `#` and no break. -/
theorem queryText_safe (args : List (String × Json)) :
    '#' ∉ (queryText args).toList ∧ Unbroken (queryText args).toList := by
  have hsafe : ∀ c ∈ (queryText args).toList, c ∉ ['#', '\t', '\n', '\r'] := by
    refine forall_mem_intercalate (by simp) fun x hx => ?_
    obtain ⟨⟨k, v⟩, -, rfl⟩ := List.mem_map.1 hx
    intro c hc
    simp only [String.toList_append, List.mem_append] at hc
    rcases hc with (hc | hc) | hc
    · exact quotePlus_safe k c hc
    · simp at hc
      simp [hc]
    · exact quotePlus_safe _ c hc
  exact ⟨fun hm => hsafe '#' hm (by simp), Unbroken.of_forall hsafe (by decide)⟩

variable {base path q f : String} {b : Parts}

/-- The address of a request for a location made of a kept path, a query and a fragment: the
scheme and location of a web base, the path, the encoded arguments and the fragment. -/
theorem requestUrl_eq (hb : split? base = some b) (hweb : b.scheme ∈ webSchemes)
    (hnet : b.netloc ≠ "") (hp : KeptPath path) (hq : '#' ∉ q.toList) (hqu : Unbroken q.toList)
    (hf : Unbroken f.toList) (args : List (String × Json)) :
    requestUrl base (path ++ marked '?' q ++ marked '#' f) args =
      .ok (Parts.mk b.scheme b.netloc path (queryText args) f).join := by
  unfold requestUrl
  simp only [resolve?_path hb hweb hnet hp hq hqu hf,
    split?_join hweb (split?_netloc hb) hp.plain hq hqu hf]

/-- What the recording backend receives for a call whose filled template is a kept path, a
query and a fragment. -/
theorem exchange_recorder {c : EndpointCall} {pieces : List Piece}
    (huri : c.uri = String.join (pieces.map (·.render toString)))
    (htexts : ∀ s, Piece.text s ∈ pieces → BraceFree s)
    (hplaces : ∀ i, Piece.param i ∈ pieces → i < (positional c.params).length)
    (hfill : String.join (pieces.map (·.filled (positional c.params))) =
      path ++ marked '?' q ++ marked '#' f)
    (hb : split? c.baseUrl = some b) (hweb : b.scheme ∈ webSchemes) (hnet : b.netloc ≠ "")
    (hp : KeptPath path) (hq : '#' ∉ q.toList) (hqu : Unbroken q.toList)
    (hf : Unbroken f.toList) (net : Network) (token : Option String) :
    c.exchange .recorder net token =
      .ok (.recorded (Parts.mk b.scheme b.netloc path (queryText (c.query.getD [])) f).join
          (sortFields (requestFields token)) 30,
        ⟨net.fallback.status, net.fallback.headers, net.fallback.body,
          net.fallback.url.getD
            (Parts.mk b.scheme b.netloc path (queryText (c.query.getD [])) f).join,
          net.fallback.reason⟩) := by
  unfold EndpointCall.exchange
  rw [huri, fill_render htexts hplaces, ok_bind, hfill,
    requestUrl_eq hb hweb hnet hp hq hqu hf, ok_bind]
  rfl

/-- The address a call sends its request to, as the recording backend receives it: for a web
base address and a filled template made of a kept path, then a query and a fragment, it has
the base's scheme and location, the kept path, the form encoding of the arguments that are
not `null` as its query, and the fragment. -/
theorem exchange_requests_address {c : EndpointCall} {pieces : List Piece}
    (huri : c.uri = String.join (pieces.map (·.render toString)))
    (htexts : ∀ s, Piece.text s ∈ pieces → BraceFree s)
    (hplaces : ∀ i, Piece.param i ∈ pieces → i < (positional c.params).length)
    (hfill : String.join (pieces.map (·.filled (positional c.params))) =
      path ++ marked '?' q ++ marked '#' f)
    (hb : split? c.baseUrl = some b) (hweb : b.scheme ∈ webSchemes) (hnet : b.netloc ≠ "")
    (hp : KeptPath path) (hq : '#' ∉ q.toList) (hqu : Unbroken q.toList)
    (hf : Unbroken f.toList) (net : Network) (token : Option String) :
    ∃ url answer, c.exchange .recorder net token =
        .ok (.recorded url (sortFields (requestFields token)) 30, answer) ∧
      split? url = some ⟨b.scheme, b.netloc, path, queryText (c.query.getD []), f⟩ :=
  ⟨_, _, exchange_recorder huri htexts hplaces hfill hb hweb hnet hp hq hqu hf net token,
    split?_join hweb (split?_netloc hb) hp.plain (queryText_safe _).1 (queryText_safe _).2 hf ""⟩

/-- The pieces of the template `/Line/{0}/Status`. -/
def lineStatusPieces : List Piece := [.text "/Line/", .param 0, .text "/Status"]

/-- A call of `/Line/{0}/Status` for the line `value`, with one query argument. -/
def lineStatusCall (value : String) : EndpointCall :=
  { baseUrl := "https://api.tfl.gov.uk", uri := "/Line/\x7b0\x7d/Status",
    model := "GenericResponseModel", params := some (.arr [.str value]),
    query := some [("detail", .str "true")] }

theorem lineStatus_template (value : String) :
    (lineStatusCall value).uri = String.join (lineStatusPieces.map (·.render toString)) ∧
      (∀ s, Piece.text s ∈ lineStatusPieces → BraceFree s) ∧
      ∀ i, Piece.param i ∈ lineStatusPieces →
        i < (positional (lineStatusCall value).params).length := by
  refine ⟨rfl, fun s hs => ?_, fun i hi => ?_⟩
  · simp [lineStatusPieces] at hs
    rcases hs with rfl | rfl <;> simp [BraceFree]
  · simp [lineStatusPieces] at hi
    simp [hi, lineStatusCall, positional]

theorem apiBase_split :
    split? "https://api.tfl.gov.uk" = some ⟨"https", "api.tfl.gov.uk", "", "", ""⟩ :=
  rfl

theorem victoria_fill :
    String.join
        (lineStatusPieces.map (·.filled (positional (lineStatusCall "victoria").params))) =
      "/Line/victoria/Status" ++ marked '?' "" ++ marked '#' "" :=
  rfl

theorem victoria_kept : KeptPath "/Line/victoria/Status" := by
  refine ⟨⟨by simp, by simp⟩, by simp, by simp, ?_⟩
  have hseg : Text.splitAt '/' "/Line/victoria/Status" = ["", "Line", "victoria", "Status"] := rfl
  rw [hseg]
  decide

theorem victoriaStatus_address :
    (((lineStatusCall "victoria").uri = String.join (lineStatusPieces.map (·.render toString)) ∧
        (∀ s, Piece.text s ∈ lineStatusPieces → BraceFree s) ∧
        ∀ i, Piece.param i ∈ lineStatusPieces →
          i < (positional (lineStatusCall "victoria").params).length) ∧
      String.join
          (lineStatusPieces.map (·.filled (positional (lineStatusCall "victoria").params))) =
        "/Line/victoria/Status" ++ marked '?' "" ++ marked '#' "" ∧
      split? "https://api.tfl.gov.uk" = some ⟨"https", "api.tfl.gov.uk", "", "", ""⟩ ∧
      KeptPath "/Line/victoria/Status") ∧
    ∃ url answer, (lineStatusCall "victoria").exchange .recorder {} none =
        .ok (.recorded url (sortFields (requestFields none)) 30, answer) ∧
      split? url = some ⟨"https", "api.tfl.gov.uk", "/Line/victoria/Status",
        queryText [("detail", .str "true")], ""⟩ :=
  ⟨⟨lineStatus_template "victoria", victoria_fill, apiBase_split, victoria_kept⟩,
    exchange_requests_address (lineStatus_template "victoria").1
      (lineStatus_template "victoria").2.1 (lineStatus_template "victoria").2.2 victoria_fill
      apiBase_split (by simp [webSchemes]) (by decide) victoria_kept (by simp)
      (by simp [Unbroken]) (by simp [Unbroken]) {} none⟩

/-- A line value holding `#`: the request goes to `/Line/a`, with the rest of the template
and the value in the fragment, where the template with the value in its place is
`/Line/a#b/Status`. -/
theorem hashValue_moves_to_fragment :
    ∃ url answer, (lineStatusCall "a#b").exchange .recorder {} none =
        .ok (.recorded url (sortFields (requestFields none)) 30, answer) ∧
      split? url = some ⟨"https", "api.tfl.gov.uk", "/Line/a", "detail=true", "b/Status"⟩ := by
  have hfill : String.join
      (lineStatusPieces.map (·.filled (positional (lineStatusCall "a#b").params))) =
      "/Line/a" ++ marked '?' "" ++ marked '#' "b/Status" := rfl
  have hkept : KeptPath "/Line/a" := by
    refine ⟨⟨by simp, by simp⟩, by simp, by simp, ?_⟩
    have hseg : Text.splitAt '/' "/Line/a" = ["", "Line", "a"] := rfl
    rw [hseg]
    decide
  have hquery : queryText [("detail", .str "true")] = "detail=true" := rfl
  have hweb : "https" ∈ webSchemes := by simp [webSchemes]
  refine ⟨_, _, exchange_recorder (lineStatus_template "a#b").1 (lineStatus_template "a#b").2.1
    (lineStatus_template "a#b").2.2 hfill apiBase_split hweb (by decide) hkept (by simp)
    (by simp [Unbroken]) (by simp [Unbroken]) {} none, ?_⟩
  rw [← hquery]
  exact split?_join hweb (split?_netloc apiBase_split) hkept.plain (queryText_safe _).1
    (queryText_safe _).2 (by simp [Unbroken]) ""

end TransitKit.Client
