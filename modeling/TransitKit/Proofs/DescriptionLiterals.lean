import Mathlib
import TransitKit.Proofs.TextLiterals
import TransitKit.Proofs.Outcome
import TransitKit.Codegen.ModelModule
import TransitKit.Codegen.ClientModule

/-!
# Descriptions inside generated literals

A description is written into generated source as the docstring of a model and of a client
class, at the head of a method's docstring, and as the description argument of a field. Each is
one literal that reads back as the text it was written from, under a condition on the text: no
backslash and no run of three quotes of the literal's kind, and for a field description only
characters of the basic plane, since JSON writes the others as surrogate pairs.
-/

namespace TransitKit.Codegen

open Diagram Text

/-! ## Docstrings of three double quotes -/

/-- The docstring of three double quotes around a text, with its indentation and the
blank line after it. -/
theorem docLine_eq (n : String) :
    "    \"\"\"" ++ n ++ "\"\"\"\n\n" =
      "    " ++ (String.ofList ['"', '"', '"'] ++ n ++ String.ofList ['"', '"', '"']) ++ "\n\n" := by
  rw [← String.toList_inj]
  simp

theorem modelDocstring_readsAs {descriptions : List (String × String)} {className d : String}
    (hd : descriptions.lookup className = some d) (hne : normalizeDescription d ≠ "")
    (hbody : TripleBody '"' (normalizeDescription d).toList) :
    ∃ lit, modelDocstring descriptions className = "    " ++ lit ++ "\n\n" ∧
      ReadsAs lit (normalizeDescription d) := by
  refine ⟨_, ?_, readsAs_triple (by decide) hbody⟩
  simp only [modelDocstring, hd, String.isEmpty_iff, hne, if_false]
  exact docLine_eq _

theorem classDocLine_readsAs {spec info : Json} {d : String}
    (hinfo : spec.getOr? "info" (.obj []) = .ok info)
    (hd : info.getOr? "description" .null = .ok (.str d)) (hne : normalizeDescription d ≠ "")
    (hbody : TripleBody '"' (normalizeDescription d).toList) :
    ∃ lit, classDocLine spec = .ok ("    " ++ lit ++ "\n\n") ∧
      ReadsAs lit (normalizeDescription d) := by
  have htruthy : (Json.str d).truthy = true := by
    have hempty : normalizeDescription "" = "" := by decide
    simp only [Json.truthy, Bool.not_eq_true', Bool.eq_false_iff, ne_eq, String.isEmpty_iff]
    rintro rfl
    exact hne hempty
  refine ⟨_, ?_, readsAs_triple (by decide) hbody⟩
  simp only [classDocLine, hinfo, hd, ok_bind, htruthy, Bool.not_true, String.isEmpty_iff, hne]
  simp only [Bool.false_eq_true, if_false]
  exact congrArg Except.ok (docLine_eq _)

/-! ## Method docstrings -/

/-- The text of a method docstring is one literal of three single quotes that starts with
its description, when the pieces written into it are safe. -/
theorem docstringLayout_readsAs {description fullPath model paramText : String}
    (hdesc : TripleSafe '\'' description) (hpath : TripleSafe '\'' fullPath)
    (hmodel : TripleSafe '\'' model) (hparams : TripleSafe '\'' paramText) :
    ∃ lit v, "        '\'\'\n        " ++ (description ++ "\n" ++ "\n  Query path: `" ++ fullPath ++
        "`\n" ++ "\n  `ResponseModel.content` contains `models." ++ model ++ "` type.\n") ++
        "\n\n  Parameters:\n" ++ paramText ++ "\n        '\'\'\n" = "        " ++ lit ++ "\n" ∧
      ReadsAs lit v ∧ ("\n        " ++ description ++ "\n").toList <+: v.toList := by
  have hsafe : TripleSafe '\'' ("\n        " ++ description ++ "\n" ++ "\n  Query path: `" ++
      fullPath ++ "`\n" ++ "\n  `ResponseModel.content` contains `models." ++ model ++
      "` type.\n" ++ "\n\n  Parameters:\n" ++ paramText) :=
    ((((((TripleSafe.separator_append (by simp [Separator]) hdesc).append_separator
      (by simp [Separator])).append_separator_append (by simp [Separator]) hpath).append_separator
      (by simp [Separator])).append_separator_append (by simp [Separator]) hmodel).append_separator
      (by simp [Separator])).append_separator_append (by simp [Separator]) hparams
  have hbody := hsafe.tripleBody_append (f := "\n        ") (by simp [Separator])
  refine ⟨_, _, ?_, readsAs_triple (by decide) hbody, ?_⟩
  · rw [← String.toList_inj]
    simp
  · simp only [String.toList_append, List.append_assoc, List.prefix_append_right_inj]
    exact List.prefix_append _ _

theorem methodDocstring_readsAs {details : Json} {fullPath model d out : String}
    {params : List Json}
    (hd : details.getOr? "description" (.str "No description in the OpenAPI spec.") =
      .ok (.str d))
    (hout : methodDocstring details fullPath model params = .ok out)
    (hdesc : TripleSafe '\'' (stripBlanks d)) (hpath : TripleSafe '\'' fullPath)
    (hmodel : TripleSafe '\'' model)
    (hparams : ∀ p ∈ params, ∀ line, parameterLine p = .ok line → TripleSafe '\'' line) :
    ∃ lit v, out = "        " ++ lit ++ "\n" ∧ ReadsAs lit v ∧
      ("\n        " ++ stripBlanks d ++ "\n").toList <+: v.toList := by
  simp only [methodDocstring, hd, ok_bind, pure_bind] at hout
  split at hout
  · simp only [pure_eq_ok] at hout
    subst hout
    exact docstringLayout_readsAs hdesc hpath hmodel
      (Separator.tripleSafe (by simp [Separator]))
  · simp only [bind_eq_ok, pure_eq_ok] at hout
    obtain ⟨lines, hlines, rfl⟩ := hout
    refine docstringLayout_readsAs hdesc hpath hmodel
      (tripleSafe_intercalate (by simp [Separator]) fun line hline => ?_)
    obtain ⟨p, hp, hline⟩ := mem_of_mapM_eq_ok hlines line hline
    exact hparams p hp line hline

/-! ## Field descriptions -/

theorem escapeDescription_toList (d : String) :
    (escapeDescription d).toList = jsonBody (normalizeDescription d).toList := by
  simp [escapeDescription, jsonBody, String.toList_join, List.flatMap, Function.comp_def]

/-- The argument written for a description with words is its JSON text. -/
theorem descriptionArgument_eq {d : String} (hne : normalizeDescription d ≠ "") :
    (if (escapeDescription d).isEmpty then "" else ", description=\"" ++ escapeDescription d ++ "\"") =
      ", description=" ++ jsonQuote true (normalizeDescription d) := by
  have hlen := length_le_jsonBody (normalizeDescription d).toList
  have hpos : 0 < (normalizeDescription d).toList.length := by
    simpa [List.length_pos_iff] using hne
  have he : (escapeDescription d).isEmpty = false := by
    rw [Bool.eq_false_iff, ne_eq, String.isEmpty_iff, ← String.toList_inj,
      escapeDescription_toList, String.toList_empty, ← List.length_eq_zero_iff]
    omega
  rw [he, if_neg Bool.false_ne_true, ← String.toList_inj]
  simp [jsonQuote, escapeDescription]

theorem fieldLine_readsAs {circular : List String} {descriptions : List (String × String)}
    {f : Model.ModelField} {d : String}
    (hd : descriptions.lookup (Naming.fieldName f.name) = some d)
    (hne : normalizeDescription d ≠ "")
    (hbmp : ∀ c ∈ (normalizeDescription d).toList, c.toNat < 0x10000) :
    ∃ pre lit, fieldLine circular descriptions f = pre ++ ", description=" ++ lit ++ ")\n" ∧
      ReadsAs lit (normalizeDescription d) := by
  refine ⟨?pre, _, ?line, readsAs_jsonQuote hne hbmp⟩
  case line =>
    simp only [fieldLine, hd, descriptionArgument_eq hne]
    rw [← String.append_assoc]

/-! ## Every description -/

/-- Each literal written around a description `d` reads back as the text it carries: the
model and class docstrings as its words on one line, the method docstring as a text that
starts with the stripped description on a line of its own, and the field argument as its
words, whenever the text meets the literal's condition. -/
theorem descriptions_read_back (d : String) :
    (normalizeDescription d ≠ "" → TripleBody '"' (normalizeDescription d).toList →
      (∀ (descriptions : List (String × String)) (className : String),
        descriptions.lookup className = some d →
        ∃ lit, modelDocstring descriptions className = "    " ++ lit ++ "\n\n" ∧
          ReadsAs lit (normalizeDescription d)) ∧
      (∀ spec info : Json, spec.getOr? "info" (.obj []) = .ok info →
        info.getOr? "description" .null = .ok (.str d) →
        ∃ lit, classDocLine spec = .ok ("    " ++ lit ++ "\n\n") ∧
          ReadsAs lit (normalizeDescription d))) ∧
    (TripleSafe '\'' (stripBlanks d) →
      ∀ (details : Json) (fullPath model out : String) (params : List Json),
      details.getOr? "description" (.str "No description in the OpenAPI spec.") =
        .ok (.str d) →
      methodDocstring details fullPath model params = .ok out →
      TripleSafe '\'' fullPath → TripleSafe '\'' model →
      (∀ p ∈ params, ∀ line, parameterLine p = .ok line → TripleSafe '\'' line) →
      ∃ lit v, out = "        " ++ lit ++ "\n" ∧ ReadsAs lit v ∧
        ("\n        " ++ stripBlanks d ++ "\n").toList <+: v.toList) ∧
    (normalizeDescription d ≠ "" → (∀ c ∈ (normalizeDescription d).toList, c.toNat < 0x10000) →
      ∀ (circular : List String) (descriptions : List (String × String)) (f : Model.ModelField),
      descriptions.lookup (Naming.fieldName f.name) = some d →
      ∃ pre lit, fieldLine circular descriptions f = pre ++ ", description=" ++ lit ++ ")\n" ∧
        ReadsAs lit (normalizeDescription d)) :=
  ⟨fun hne hbody => ⟨fun _ _ hd => modelDocstring_readsAs hd hne hbody,
      fun _ _ hinfo hd => classDocLine_readsAs hinfo hd hne hbody⟩,
    fun hdesc _ _ _ _ _ hd hout hpath hmodel hparams =>
      methodDocstring_readsAs hd hout hdesc hpath hmodel hparams,
    fun hne hbmp _ _ _ hd => fieldLine_readsAs hd hne hbmp⟩

theorem lineDescriptions_read_back :
    (∃ lit, modelDocstring [("Line", "Status of the \"Line\",  caf\u00e9 mode")] "Line" = "    " ++ lit ++ "\n\n" ∧
      ReadsAs lit (normalizeDescription "Status of the \"Line\",  caf\u00e9 mode")) ∧
    (∃ lit, classDocLine (.obj [("info", .obj [("description", .str "Status of the \"Line\",  caf\u00e9 mode")])]) =
        .ok ("    " ++ lit ++ "\n\n") ∧
      ReadsAs lit (normalizeDescription "Status of the \"Line\",  caf\u00e9 mode")) ∧
    (∃ lit v, "        '\'\'\n        Status of the \"Line\",  caf\u00e9 mode\n\n  Query path: `/Line/Meta/Modes`\n\n  `ResponseModel.content` contains `models.Line` type.\n\n\n  Parameters:\n        No parameters required.\n        '\'\'\n" =
        "        " ++ lit ++ "\n" ∧ ReadsAs lit v ∧
      ("\n        " ++ stripBlanks "Status of the \"Line\",  caf\u00e9 mode" ++ "\n").toList <+: v.toList) ∧
    (∃ pre lit, fieldLine [] [(Naming.fieldName "lineStatuses", "Status of the \"Line\",  caf\u00e9 mode")]
        ⟨"lineStatuses", .ref "LineStatus", some "lineStatuses", false⟩ =
        pre ++ ", description=" ++ lit ++ ")\n" ∧
      ReadsAs lit (normalizeDescription "Status of the \"Line\",  caf\u00e9 mode")) := by
  have hwords : normalizeDescription "Status of the \"Line\",  caf\u00e9 mode" = "Status of the \"Line\", caf\u00e9 mode" := by decide
  have hne : normalizeDescription "Status of the \"Line\",  caf\u00e9 mode" ≠ "" := by rw [hwords]; simp
  have hbody : TripleBody '"' (normalizeDescription "Status of the \"Line\",  caf\u00e9 mode").toList := by rw [hwords]; decide
  have hbmp : ∀ c ∈ (normalizeDescription "Status of the \"Line\",  caf\u00e9 mode").toList, c.toNat < 0x10000 := by
    rw [hwords]; simp
  obtain ⟨hmodel, hclass⟩ := (descriptions_read_back "Status of the \"Line\",  caf\u00e9 mode").1 hne hbody
  exact ⟨hmodel _ _ rfl, hclass _ _ rfl rfl,
    (descriptions_read_back "Status of the \"Line\",  caf\u00e9 mode").2.1 (by decide) (.obj [("description", .str "Status of the \"Line\",  caf\u00e9 mode")])
      "/Line/Meta/Modes" "Line" _ [] rfl (by cbv) (by decide) (by decide) (by simp),
    (descriptions_read_back "Status of the \"Line\",  caf\u00e9 mode").2.2 hne hbmp _ _ _ (by simp)⟩

/-- A description with a character above the basic plane does not read back from its field
argument: JSON writes the character as a surrogate pair, which reads as two characters. -/
theorem astralDescription_misread :
    ¬ ReadsAs ("\"" ++ escapeDescription "emoji 😀 astral" ++ "\"")
      (normalizeDescription "emoji 😀 astral") := by
  intro h
  have hread : readText "" (("\"" ++ escapeDescription "emoji 😀 astral" ++ "\"").toList ++ []) =
      some (.text .plain "emoji \x00\x00 astral", []) := by cbv
  have hne : "emoji \x00\x00 astral" ≠ normalizeDescription "emoji 😀 astral" := by decide
  rw [h []] at hread
  simp at hread
  exact hne hread.symm

end TransitKit.Codegen
