import RepoSurvey.Schema.Part

/-!
# Dependency graph of a project

The second stage relates modules to modules and callers to callees, names the symbols where many
relations meet, and may draw both relations.
-/

namespace RepoSurvey.Analysis

open Schema

/-- One module depends on another. -/
structure ModuleEdge where
  source : String
  target : String
  kind : String
  deriving DecidableEq, Repr

/-- One function calls another. -/
structure CallEdge where
  caller : String
  callee : String
  file : String
  line : Option Int
  deriving DecidableEq, Repr

/-- A symbol with many relations. -/
structure Hotspot where
  symbol : String
  fanIn : Int
  fanOut : Int
  files : List String
  deriving DecidableEq, Repr

/-- Drawings of the relations. -/
structure Drawing where
  modules : String
  calls : String
  deriving DecidableEq, Repr

/-- The dependency graph of a project. -/
structure Graph where
  modules : List ModuleEdge
  calls : List CallEdge
  hotspots : List Hotspot
  drawing : Option Drawing
  deriving DecidableEq, Repr

/-- How module edges are read and written. -/
def ModuleEdge.codec : Codec ModuleEdge :=
  .record "ModuleEdge" <|
    ModuleEdge.mk <$> .named "source" "from" .text source none
      <*> .named "target" "to" .text target none
      <*> .exchanged "type" .text kind (some "")

/-- How call edges are read and written. -/
def CallEdge.codec : Codec CallEdge :=
  .record "CallEdge" <|
    CallEdge.mk <$> .exchanged "caller" .text caller none
      <*> .exchanged "callee" .text callee none
      <*> .exchanged "file" .text file (some "")
      <*> .exchanged "line" (.optional .integer) line (some none)

/-- How hotspots are read and written. -/
def Hotspot.codec : Codec Hotspot :=
  .record "Hotspot" <|
    Hotspot.mk <$> .exchanged "symbol" .text symbol none
      <*> .exchanged "fan_in" .integer fanIn (some 0)
      <*> .exchanged "fan_out" .integer fanOut (some 0)
      <*> .exchanged "files" (.list .text) files (some [])

/-- How drawings are read and written. -/
def Drawing.codec : Codec Drawing :=
  .record "GraphVisual" <|
    Drawing.mk <$> .exchanged "module_mermaid" .text modules (some "")
      <*> .exchanged "call_mermaid" .text calls (some "")

/-- The name under which dependency graphs are reported. -/
def Graph.recordName : String := "DependencyGraph"

/-- How dependency graphs are read and written. -/
def Graph.codec : Codec Graph :=
  .record recordName <|
    Graph.mk <$> .exchanged "module_graph" (.list ModuleEdge.codec) modules (some [])
      <*> .exchanged "call_graph" (.list CallEdge.codec) calls (some [])
      <*> .exchanged "hotspots" (.list Hotspot.codec) hotspots (some [])
      <*> .exchanged "visual" (.optional Drawing.codec) drawing (some none)

end RepoSurvey.Analysis
