import GraphDraft.Catalog.Basic
import GraphDraft.Config

/-!
# Sources of the catalog

A catalog is built from sources in two stages: what the host offers is discovered first, and
shortcuts then add names for what was discovered or configured. Before the entries are put in
order, all shortcuts stand ahead of all discovered entries.
-/

namespace GraphDraft

inductive Stage where
  | discovery
  | shortcut
deriving DecidableEq, Repr

/-- A provider of entries. Only shortcuts are given what was discovered. -/
structure Source where
  stage : Stage
  entries : (config : Config) → (discovered : List Entry) → List Entry

namespace Catalog

/-- What the sources of one stage provide, in order. -/
def gather (stage : Stage) (sources : List Source) (config : Config) (discovered : List Entry) :
    List Entry :=
  (sources.filter (·.stage = stage)).flatMap (·.entries config discovered)

/-- The catalog of some sources. -/
def build (sources : List Source) (config : Config) : Catalog :=
  let discovered := gather .discovery sources config []
  ofList (gather .shortcut sources config discovered ++ discovered)

end Catalog

/-- A source that provides fixed entries. -/
def Source.fixed (stage : Stage) (es : List Entry) : Source where
  stage := stage
  entries := fun _ _ => es

end GraphDraft
