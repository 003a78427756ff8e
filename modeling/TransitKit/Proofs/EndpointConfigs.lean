import Mathlib
import TransitKit.Proofs.ConfigReading
import TransitKit.Proofs.AddressTemplates
import TransitKit.Proofs.MethodSignatures
import TransitKit.Proofs.PathJoining

/-!
# Configuration files read back

The configuration file of a client holds one line per operation of its document that has an
identifier, each written by `configLine`, and no other (`configFile_endpoints`). Put together
with the reader, the file reads back as the endpoints it was written from when no written
text holds its own quote, a backslash or a line break, and a client reading it returns
exactly their models (`endpointConfigs_read_back`). The texts go into the literals as they
are, so an identifier with a line break makes the whole file unreadable, and its client is
left out (`lineBreakId_client_dropped`).
-/

namespace TransitKit.Diagram

open Typing Codegen

/-! ## Plain entries -/

namespace Endpoint

theorem count_line (e : Endpoint) (c : Char) :
    e.line.toList.count c = (e.id.toList ++ e.uri.toList ++ e.model.toList).count c +
      (Endpoint.mk "" "" "").line.toList.count c := by
  rw [line_toList, line_toList]
  simp only [List.count_cons, List.count_append, String.toList_empty, List.nil_append,
    List.count_nil]
  omega

/-- An entry is plain when its line holds no quotes but the ten it is written with, one line
break, and no backslash or carriage return. -/
theorem plain_of_line {e : Endpoint} (hq : e.line.toList.count '\'' ≤ 10)
    (hn : e.line.toList.count '\n' ≤ 1) (hb : '\\' ∉ e.line.toList)
    (hr : '\r' ∉ e.line.toList) : e.Plain := by
  intro c hc
  have hpos : 0 < (e.id.toList ++ e.uri.toList ++ e.model.toList).count c :=
    List.count_pos_iff.mpr hc
  have hline := count_line e c
  have hin : c ∈ e.line.toList := List.count_pos_iff.mp (by omega)
  refine ⟨?_, ?_, fun _ => ⟨?_, ?_⟩⟩
  · rintro rfl
    have hskel : (Endpoint.mk "" "" "").line.toList.count '\'' = 10 := by decide
    omega
  · rintro rfl
    exact hb hin
  · rintro rfl
    have hskel : (Endpoint.mk "" "" "").line.toList.count '\n' = 1 := by decide
    omega
  · rintro rfl
    exact hr hin

/-- Plainness is read off the line: an entry written as a plain entry is written is plain. -/
theorem Plain.of_line_eq {e e' : Endpoint} (h : e.line = e'.line) (he' : e'.Plain) : e.Plain := by
  have hnone : ∀ c, ¬ LiteralChar '\'' false c → (e'.id.toList ++ e'.uri.toList ++ e'.model.toList).count c = 0 :=
    fun c hc => List.count_eq_zero.2 fun hm => hc (he' c hm)
  refine plain_of_line ?_ ?_ ?_ ?_
  · rw [h, count_line, hnone '\'' (fun hl => hl.1 rfl)]
    decide
  · rw [h, count_line, hnone '\n' (fun hl => (hl.2.2 rfl).1 rfl)]
    decide
  · rw [h, ← List.count_pos_iff, count_line, hnone '\\' (fun hl => hl.2.1 rfl)]
    decide
  · rw [h, ← List.count_pos_iff, count_line, hnone '\r' (fun hl => (hl.2.2 rfl).2 rfl)]
    decide

end Endpoint

/-! ## The written configuration -/

/-- Lines written by `configLine` are the lines of endpoints. -/
theorem exists_endpoints_of_lines {renamed : List (String × Json)} {ls : List String}
    (h : ∀ l ∈ ls, ∃ apiPath path details,
      configLine apiPath path details renamed = .ok (some l)) :
    ∃ es : List Endpoint, es.map Endpoint.line = ls := by
  induction ls with
  | nil => exact ⟨[], rfl⟩
  | cons l ls ih =>
    obtain ⟨es, hes⟩ := ih fun l' hl' => h l' (List.mem_cons_of_mem l hl')
    obtain ⟨apiPath, path, details, hl⟩ := h l List.mem_cons_self
    obtain ⟨_, _, _, _, opId, model, -, -, -, -, hline⟩ := configLine_uri hl
    exact ⟨⟨opId, _, model⟩ :: es, by rw [List.map_cons, hes, hline]; rfl⟩

/-- A line written for one of the operations of the paths `ps`, under the address path
`apiPath`. -/
def WrittenFor (apiPath : String) (ps renamed : List (String × Json)) (l : String) : Prop :=
  ∃ p ∈ ps, ∃ ms, membersOf p.2 = .ok ms ∧ ∃ m ∈ ms,
    configLine apiPath p.1 m.2 renamed = .ok (some l)

/-- The configuration file of a client is the configuration text of endpoints whose lines
are exactly those written for the operations of its document. -/
theorem configFile_endpoints {spec : Json} {baseUrl : String} {renamed : List (String × Json)}
    {file : SourceFile} (h : configFile spec baseUrl renamed = .ok file) :
    ∃ className es apiPath ps, file.path = className ++ "_config.py" ∧
      file.text = configText baseUrl es ∧ apiPathOf spec = .ok apiPath ∧
      (spec.getOr? "paths" (.obj []) >>= membersOf) = .ok ps ∧
      ∀ l, l ∈ es.map Endpoint.line ↔ WrittenFor apiPath ps renamed l := by
  simp only [configFile, bind_eq_ok, pure_eq_ok] at h
  obtain ⟨_, -, clean, -, paths, hpaths, apiPath, happi, members, hmembers, entries, hentries,
    rfl⟩ := h
  have hlines : ∀ l, l ∈ entries.flatten ↔ WrittenFor apiPath members renamed l := by
    intro l
    constructor
    · intro hl
      obtain ⟨inner, hinner, hl⟩ := List.mem_flatten.mp hl
      obtain ⟨⟨path, methods⟩, hp, hpath⟩ := mem_of_mapM_eq_ok hentries inner hinner
      simp only [bind_eq_ok] at hpath
      obtain ⟨ms, hms, hfilter⟩ := hpath
      obtain ⟨⟨_, details⟩, hm, hline⟩ := mem_of_filterMapM_eq_ok hfilter l hl
      exact ⟨(path, methods), hp, ms, hms, _, hm, hline⟩
    · rintro ⟨⟨path, methods⟩, hp, ms, hms, ⟨name, details⟩, hm, hline⟩
      obtain ⟨inner, hinner, hpath⟩ := exists_mem_of_mapM_eq_ok hentries _ hp
      simp only [bind_eq_ok] at hpath
      obtain ⟨ms', hms', hfilter⟩ := hpath
      rw [hms] at hms'
      cases hms'
      exact List.mem_flatten.mpr ⟨inner, hinner, mem_of_filterMapM_eq_some hfilter _ hm l hline⟩
  obtain ⟨es, hes⟩ := exists_endpoints_of_lines fun l hl => by
    obtain ⟨p, -, ms, -, m, -, hline⟩ := (hlines l).1 hl
    exact ⟨apiPath, p.1, m.2, hline⟩
  refine ⟨_, es, apiPath, members, rfl, by rw [← hes]; rfl, happi,
    by simp [hpaths, hmembers], fun l => by rw [hes]; exact hlines l⟩

/-- Reading back the configuration file written for a document: the file is the
configuration text of endpoints whose lines are exactly those written for the document's
operations with identifiers; when no written text holds its own quote, a backslash or a line
break, the module tokenizes into its two statements, its endpoints display holds one entry
per endpoint with the address and the model under their keys, it names exactly the
endpoints' models, and a client reading only this module returns those models, sorted
without repetition, and is left out only when there is no endpoint. -/
theorem endpointConfigs_read_back (spec : Json) (baseUrl : String)
    (renamed : List (String × Json)) (file : SourceFile)
    (hfile : configFile spec baseUrl renamed = .ok file) :
    ∃ (es : List Endpoint) (apiPath : String) (ps : List (String × Json)),
      file.text = configText baseUrl es ∧ apiPathOf spec = .ok apiPath ∧
      (spec.getOr? "paths" (.obj []) >>= membersOf) = .ok ps ∧
      (∀ l, l ∈ es.map Endpoint.line ↔ WrittenFor apiPath ps renamed l) ∧
      ((∀ c ∈ baseUrl.toList, LiteralChar '"' false c) → (∀ e ∈ es, e.Plain) →
        lexSource file.text = some (configTokens baseUrl es) ∧
        dictEntries? (displayTokens es) =
          some (es.map fun e => (some [.text .plain e.id], e.valueTokens)) ∧
        (∀ e ∈ es, dictEntries? e.valueTokens =
          some [(some [.text .plain "uri"], [.text .plain e.uri]),
            (some [.text .plain "model"], [.text .plain e.model])]) ∧
        endpointModels file.text = es.map Endpoint.model ∧
        ∀ client, file.path = client ++ "_config.py" → file.path.startsWith "." = false →
          file.path.replace "_config.py" "" = client →
          clientModels [(client, file.text)] =
            if es = [] then [] else [(client, sortedUnique (es.map Endpoint.model))]) := by
  obtain ⟨className, es, apiPath, ps, hpath, htext, happi, hps, hlines⟩ := configFile_endpoints hfile
  refine ⟨es, apiPath, ps, htext, happi, hps, hlines, fun hbase hes => ?_⟩
  have hmodels : endpointModels file.text = es.map Endpoint.model := by
    rw [htext, endpointModels_configText hbase hes]
  refine ⟨by rw [htext, lexSource_configText hbase hes], dictEntries?_displayTokens es,
    fun e _ => e.dictEntries?_valueTokens, hmodels, fun client hclient hdot hname => ?_⟩
  rw [hclient] at hdot hname
  rw [clientModels_single hdot hname, hmodels]
  simp

/-! ## A document of several operations -/

/-- An operation with an identifier, no parameters and an answer with no content. -/
def plainOperation (opId : String) : Json :=
  .obj [("operationId", .str opId),
    ("responses", .obj [("200", .obj [("description", .str "OK")])])]

/-- An operation with an identifier, no parameters and an answer with no content is written
with its joined address and the generic model. -/
theorem configLine_plainOperation {apiPath path opId full : String} (hid : opId ≠ "")
    (hjoin : joinApiPath apiPath (.str path) = .ok full) :
    configLine apiPath path (plainOperation opId) [] =
      .ok (some (Endpoint.mk opId full "GenericResponseModel").line) := by
  have hmodel : modelNameOfResponse (.obj [("description", .str "OK")]) false [] =
      .ok "GenericResponseModel" := by cbv
  have hopId : (plainOperation opId).getOr? "operationId" .null = .ok (.str opId) := rfl
  have hparams : (plainOperation opId).getOr? "parameters" (.arr []) = .ok (.arr []) := rfl
  have hresponses : (plainOperation opId).index? "responses" =
      .ok (.obj [("200", .obj [("description", .str "OK")])]) := rfl
  have h200 : (Json.obj [("200", .obj [("description", .str "OK")])]).getOr? "200" (.obj []) =
      .ok (.obj [("description", .str "OK")]) := rfl
  have htruthy : (Json.str opId).truthy = true := by simpa [Json.truthy] using hid
  simp [configLine, hopId, htruthy, hjoin, hparams, Json.iterItems?, parametersIn, hresponses,
    h200, hmodel, numberPlaceholders, Endpoint.line, Json.text]

/-- A plain path joined to an empty address path gets one leading `/`. -/
theorem joinApiPath_root {b path : String} (hb : Url.dropLeadingSlashes b = path)
    (hr : Url.PlainReference path "" "" "") (hne : path ≠ "") :
    joinApiPath "" (.str b) = .ok ("/" ++ path) := by
  simp [joinApiPath, Url.joinPaths?_root hb hr hne]

/-- The modes of transport and the severity codes of the lines, each with an identifier,
and the categories of disruption, without one. -/
def lineMetaSpec : Json :=
  .obj [("info", .obj [("title", .str "Line")]),
    ("paths", .obj [
      ("/Line/Meta/Modes", .obj [("get", plainOperation "Line_MetaModes")]),
      ("/Line/Meta/Severity", .obj [("get", plainOperation "Line_MetaSeverity")]),
      ("/Line/Meta/DisruptionCategories",
        .obj [("get", .obj [("responses", .obj [("200", .obj [("description", .str "OK")])])])])])]

theorem configLine_lineMeta :
    configLine "" "/Line/Meta/Modes" (plainOperation "Line_MetaModes") [] =
        .ok (some (Endpoint.mk "Line_MetaModes" "/Line/Meta/Modes" "GenericResponseModel").line) ∧
      configLine "" "/Line/Meta/Severity" (plainOperation "Line_MetaSeverity") [] =
        .ok (some (Endpoint.mk "Line_MetaSeverity" "/Line/Meta/Severity"
          "GenericResponseModel").line) ∧
      configLine "" "/Line/Meta/DisruptionCategories"
        (.obj [("responses", .obj [("200", .obj [("description", .str "OK")])])]) [] = .ok none := by
  have hplainModes : Url.PlainReference "Line/Meta/Modes" "" "" "" :=
    ⟨⟨by simp, by decide +kernel, by decide +kernel, by simp [Url.isLeadingJunk]⟩,
      by decide +kernel, by decide +kernel, by simp, by simp, by simp [Url.Unbroken]⟩
  have hplainSeverity : Url.PlainReference "Line/Meta/Severity" "" "" "" :=
    ⟨⟨by simp, by decide +kernel, by decide +kernel, by simp [Url.isLeadingJunk]⟩,
      by decide +kernel, by decide +kernel, by simp, by simp, by simp [Url.Unbroken]⟩
  have hmodes : Url.dropLeadingSlashes "/Line/Meta/Modes" = "Line/Meta/Modes" := by decide +kernel
  have hseverity : Url.dropLeadingSlashes "/Line/Meta/Severity" = "Line/Meta/Severity" := by
    decide +kernel
  exact ⟨configLine_plainOperation (by decide)
      (joinApiPath_root hmodes hplainModes (by decide)),
    configLine_plainOperation (by decide)
      (joinApiPath_root hseverity hplainSeverity (by decide)), rfl⟩

theorem lineMetaSpec_paths : lineMetaSpec.getOr? "paths" (.obj []) = .ok (.obj [
    ("/Line/Meta/Modes", .obj [("get", plainOperation "Line_MetaModes")]),
    ("/Line/Meta/Severity", .obj [("get", plainOperation "Line_MetaSeverity")]),
    ("/Line/Meta/DisruptionCategories",
      .obj [("get", .obj [("responses", .obj [("200", .obj [("description", .str "OK")])])])])]) :=
  rfl

theorem configFile_lineMeta_ok :
    ∃ file, configFile lineMetaSpec "https://api.tfl.gov.uk" [] = .ok file := by
  obtain ⟨hmodes, hseverity, hcategories⟩ := configLine_lineMeta
  have htitle : titleOf lineMetaSpec = .ok (.str "Line") := rfl
  have happi : apiPathOf lineMetaSpec = .ok "" := by cbv
  simp [configFile, htitle, lineMetaSpec_paths, happi, membersOf, hmodes, hseverity, hcategories,
    cleanTitle]

/-- The configuration written for the metadata of the lines reads back: its two entries are
plain, so the module tokenizes, names their models, and its client returns them. -/
theorem lineMetaConfig_read_back :
    ∃ file, configFile lineMetaSpec "https://api.tfl.gov.uk" [] = .ok file ∧
    ∃ (es : List Endpoint) (apiPath : String) (ps : List (String × Json)),
      file.text = configText "https://api.tfl.gov.uk" es ∧ apiPathOf lineMetaSpec = .ok apiPath ∧
      (lineMetaSpec.getOr? "paths" (.obj []) >>= membersOf) = .ok ps ∧
      (∀ l, l ∈ es.map Endpoint.line ↔ WrittenFor apiPath ps [] l) ∧
      lexSource file.text = some (configTokens "https://api.tfl.gov.uk" es) ∧
      dictEntries? (displayTokens es) =
        some (es.map fun e => (some [.text .plain e.id], e.valueTokens)) ∧
      (∀ e ∈ es, dictEntries? e.valueTokens =
        some [(some [.text .plain "uri"], [.text .plain e.uri]),
          (some [.text .plain "model"], [.text .plain e.model])]) ∧
      endpointModels file.text = es.map Endpoint.model ∧
      ∀ client, file.path = client ++ "_config.py" → file.path.startsWith "." = false →
        file.path.replace "_config.py" "" = client →
        clientModels [(client, file.text)] =
          if es = [] then [] else [(client, sortedUnique (es.map Endpoint.model))] := by
  obtain ⟨file, hfile⟩ := configFile_lineMeta_ok
  obtain ⟨es, apiPath, ps, htext, happi, hps, hlines, hread⟩ :=
    endpointConfigs_read_back _ _ _ _ hfile
  have hbase : ∀ c ∈ "https://api.tfl.gov.uk".toList, LiteralChar '"' false c := by
    simp [LiteralChar]
  have hplain : ∀ e ∈ es, e.Plain := by
    intro e he
    obtain ⟨hmodes, hseverity, hcategories⟩ := configLine_lineMeta
    have happi' : apiPathOf lineMetaSpec = .ok "" := by cbv
    rw [happi'] at happi
    cases happi
    rw [lineMetaSpec_paths, ok_bind, membersOf] at hps
    cases hps
    obtain ⟨p, hp, ms, hms, m, hm, hline⟩ := (hlines e.line).1 (List.mem_map_of_mem he)
    simp only [List.mem_cons, List.not_mem_nil, or_false] at hp
    rcases hp with rfl | rfl | rfl <;> simp only [membersOf, Except.ok.injEq] at hms <;>
      subst hms <;> simp only [List.mem_singleton] at hm <;> subst hm
    · rw [hmodes] at hline
      exact Endpoint.Plain.of_line_eq (Option.some.inj (Except.ok.inj hline)).symm
        (by simp [Endpoint.Plain, LiteralChar])
    · rw [hseverity] at hline
      exact Endpoint.Plain.of_line_eq (Option.some.inj (Except.ok.inj hline)).symm
        (by simp [Endpoint.Plain, LiteralChar])
    · rw [hcategories] at hline
      cases hline
  exact ⟨file, hfile, es, apiPath, ps, htext, happi, hps, hlines, hread hbase hplain⟩

/-- An operation identifier with a line break makes its client's configuration unreadable,
so the client is left out. -/
theorem lineBreakId_client_dropped :
    clientModels [("LineClient", configText "https://api.tfl.gov.uk"
      [⟨"Line\nGet", "/Line", "GenericResponseModel"⟩])] = [] := by
  have hbase : ∀ c ∈ "https://api.tfl.gov.uk".toList, LiteralChar '"' false c := by
    simp [LiteralChar]
  have hid : "Line\nGet".toList = "Line".toList ++ '\n' :: "Get".toList := by simp
  have hs : ∀ c ∈ "Line".toList, LiteralChar '\'' false c := by simp [LiteralChar]
  have hlex : lexSource (configText "https://api.tfl.gov.uk"
      [⟨"Line\nGet", "/Line", "GenericResponseModel"⟩]) = none :=
    lexSource_configText_lineBreak hbase hs hid
  apply clientModels_single_of_nil
  rw [endpointModels, hlex]

end TransitKit.Diagram
