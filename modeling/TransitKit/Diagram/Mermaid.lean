import TransitKit.Diagram.ConfigSource
import TransitKit.Model.Graph

/-!
# Diagrams of the generated package

Two Mermaid diagrams describe a generated package. The class diagram shows the clients, each
with the models its operations return (dotted arrows), then the models in the order of
generation, each with the models it contains (solid arrows) or alone. The mind map shows each
client with the models it returns and, for a model several clients return, how many. A client's
models are read from its configuration module `C_config.py`; files whose names start with a dot
are not looked at, and clients whose modules name no model are left out.
-/

namespace TransitKit.Diagram

open Model

/-- Texts sorted without repetition. -/
def sortedUnique (xs : List String) : List String := (xs.mergeSort (· ≤ ·)).eraseDups

/-- Each client with the models it returns, sorted, in the order of the modules; a
client whose module names no model is left out. -/
def clientModels (configs : List (String × String)) : List (String × List String) :=
  configs.foldl (fun acc (client, src) =>
    let file := client ++ "_config.py"
    if file.startsWith "." then acc
    else
      match sortedUnique (endpointModels src) with
      | [] => acc
      | ms =>
        let name := file.replace "_config.py" ""
        if acc.any (·.1 == name) then acc.map fun p => if p.1 == name then (name, ms) else p
        else acc ++ [(name, ms)]) []

/-- The header of a class diagram. -/
def diagramHeader : String :=
  "---\nconfig:\n  class:\n    hideEmptyMembersBox: true\n---\nclassDiagram\n"

/-- The client part of a class diagram: the clients, what they return, and the heading
of the model part; nothing when there are no clients. -/
def clientSection (clients : List (String × List String)) : String :=
  if clients.isEmpty then ""
  else
    let sorted := clients.mergeSort fun a b => a.1 ≤ b.1
    "    %% API Clients\n" ++
      String.join (sorted.map fun (c, _) => "    class " ++ c ++ "\x7b\n        <<Client>>\n    \x7d\n") ++
      "\n    %% API Endpoint -> Response mappings (dotted)\n" ++
      String.join (sorted.flatMap fun (c, ms) => ms.map fun m => "    " ++ c ++ " ..> " ++ m ++ " : returns\n") ++
      "\n    %% Model -> Model dependencies (solid)\n"

/-- The lines of a model in a class diagram: an arrow to each model it contains, or the
model alone. -/
def modelLines (graph : DependencyGraph) (m : String) : String :=
  match (graph.edges.find? (·.1 == m)).map (·.2) with
  | some deps =>
    match sortedUnique deps with
    | [] => "    class " ++ m ++ "\n"
    | ds => String.join (ds.map fun d => "    " ++ m ++ " --> " ++ d ++ " : contains\n")
  | none => "    class " ++ m ++ "\n"

/-- The class diagram of a package. -/
def classDiagram (graph : DependencyGraph) (order : List String)
    (clients : List (String × List String)) : String :=
  diagramHeader ++ clientSection clients ++ String.join (order.map (modelLines graph))

/-- The mind map of an API: each client with the models it returns. -/
def apiMindmap (clients : List (String × List String)) : String :=
  let sorted := clients.mergeSort fun a b => a.1 ≤ b.1
  let users (m : String) : Nat := (clients.filter fun (_, ms) => ms.contains m).length
  "mindmap\n  root((TfL API))\n" ++
    String.join (sorted.map fun (c, ms) =>
      "    \x7b\x7b" ++ c ++ "\x7d\x7d\n" ++
        String.join (ms.map fun m =>
          let n := users m
          if n > 1 then "      (" ++ m ++ " - " ++ toString n ++ " clients)\n"
          else "      (" ++ m ++ ")\n"))

theorem classDiagram_empty : classDiagram ⟨[]⟩ [] [] = diagramHeader := by
  simp [classDiagram, clientSection]

end TransitKit.Diagram
