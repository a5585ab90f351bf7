import Swimlane.Length
import Swimlane.Text.Words

/-!
# Flow stages

From left to right a data flow passes through stages: sources, connectors, ingestion,
transformation, storage, computation and consumption.  The stage of a node is guessed from
the words of its type, its label and its identifier.  Stages have numbers, of which that
of a connector lies halfway between its neighbours.
-/

namespace Swimlane

/-- A stage: its number, in halves, and the keywords that tell it. -/
structure FlowStage where
  halves : Int
  keywords : List Text

/-- The stages, in the order in which they are tried.  Consumers and computation come
before transformation, so that a stream dashboard is a dashboard; sources come last. -/
def flowStages : List FlowStage :=
  [⟨1, ["connector".toList, "kafka_connect".toList, "openflow".toList]⟩,
   ⟨2, ["snowpipe".toList, "ingest".toList, "firehose".toList, "copy_into".toList,
     "loader".toList]⟩,
   ⟨10, ["dashboard".toList, "streamlit".toList, "report".toList, "api".toList, "app".toList,
     "consumer".toList, "bi".toList, "analyst".toList]⟩,
   ⟨8, ["warehouse".toList, "cortex".toList, "compute".toList, "ml".toList, "notebook".toList,
     "function".toList]⟩,
   ⟨4, ["dynamic".toList, "stream".toList, "task".toList, "transform".toList, "dbt".toList,
     "stored_procedure".toList, "merge".toList]⟩,
   ⟨6, ["table".toList, "stage".toList, "storage".toList, "bucket".toList, "s3".toList,
     "iceberg".toList, "database".toList]⟩,
   ⟨0, ["kafka".toList, "kinesis".toList, "source".toList, "producer".toList, "device".toList,
     "iot".toList, "sensor".toList, "pubsub".toList]⟩]

/-- Does a key mention a keyword?  A keyword of several words may stand anywhere in it,
any other has to begin one of its words. -/
def keyMentions (keyword key : Text) : Bool :=
  if keyword.contains '_' then occursIn keyword key else (keyWords key).any (startsWith keyword)

/-- The number of a stage, in halves. -/
def stageHalves? (id label componentType : Text) : Option Int :=
  if startsWith "lane_label_".toList id || startsWith "section_label_".toList id then some (-2)
  else
    let keys := ([componentType, label, id].map nameKey).filter (· ≠ [])
    (flowStages.find? fun stage => stage.keywords.any fun word => keys.any (keyMentions word)).map
      (·.halves)

/-- The number of the stage of a node, if its names tell one.  The badges of lanes and
sections come before all stages. -/
def flowStage? {α : Type} [Length α] (id label componentType : Text) : Option α :=
  (stageHalves? id label componentType).map fun n => Length.half (Length.ofInt n)

end Swimlane
