import Swimlane.Length
import Swimlane.Text.Words

/-!
# Icons

The icon of a component is found in four tiers: its type or its label is the name of an
icon or another name for one; the keywords in its type or its label speak for an icon; its
flow stage has an icon; or it gets the generic icon.  In the first two tiers the type is
tried before the label.
-/

namespace Swimlane

/-! ## Tables -/

/-- The icon of which nothing is known. -/
def genericIcon : Text := "generic".toList

/-- What generators of diagrams put in front of the names of components. -/
def generatorMarks : List Text :=
  ["sf_".toList, "snowflake_".toList, "ext_".toList, "external_".toList, "aws_".toList,
   "azure_".toList, "gcp_".toList, "comp_".toList]

/-- The icons, each with other keys that stand for it. -/
def iconCatalog : List (Text × List Text) :=
  [("snowflake".toList, ["snowflake_account".toList, "account_boundary_snowflake".toList]),
   ("snowpipe".toList, ["snowpipe_streaming".toList, "pipe".toList]),
   ("dynamic_table".toList, ["dynamic_tables".toList, "dt".toList]),
   ("stream".toList, ["streams".toList, "change_stream".toList]),
   ("task".toList, ["tasks".toList, "scheduled_task".toList]),
   ("table".toList, ["tables".toList, "iceberg_table".toList]),
   ("warehouse".toList, ["virtual_warehouse".toList, "compute_warehouse".toList]),
   ("stage".toList, ["internal_stage".toList, "external_stage".toList]),
   ("cortex".toList, ["cortex_ai".toList, "cortex_analyst".toList]),
   ("streamlit".toList, ["streamlit_app".toList]),
   ("notebook".toList, ["notebooks".toList, "jupyter".toList]),
   ("kafka".toList, ["apache_kafka".toList, "confluent".toList, "msk".toList]),
   ("kinesis".toList, ["amazon_kinesis".toList, "kinesis_firehose".toList, "firehose".toList]),
   ("s3".toList, ["amazon_s3".toList, "s3_bucket".toList]),
   ("lambda".toList, ["lambda_function".toList]),
   ("database".toList,
      ["postgres".toList, "postgresql".toList, "mysql".toList, "rdbms".toList]),
   ("api".toList, ["rest_api".toList, "api_gateway".toList, "endpoint".toList]),
   ("dashboard".toList, ["bi".toList, "tableau".toList, "power_bi".toList, "looker".toList]),
   ("user".toList, ["users".toList, "analyst".toList]),
   ("connector".toList, ["connectors".toList, "kafka_connector".toList]),
   ("function".toList, ["udf".toList, "stored_procedure".toList]),
   ("service".toList, ["microservice".toList]),
   ("source".toList, []),
   ("ingest".toList, []),
   ("transform".toList, []),
   ("storage".toList, []),
   ("compute".toList, []),
   ("consume".toList, []),
   ("label".toList, ["badge".toList])]

/-- Keywords and the icons that they speak for; earlier ones decide ties. -/
def iconKeywords : List (Text × Text) :=
  [("snowpipe".toList, "snowpipe".toList),
   ("streamlit".toList, "streamlit".toList),
   ("dynamic".toList, "dynamic_table".toList),
   ("stream".toList, "stream".toList),
   ("task".toList, "task".toList),
   ("table".toList, "table".toList),
   ("warehouse".toList, "warehouse".toList),
   ("stage".toList, "stage".toList),
   ("cortex".toList, "cortex".toList),
   ("notebook".toList, "notebook".toList),
   ("kafka".toList, "kafka".toList),
   ("topic".toList, "kafka".toList),
   ("kinesis".toList, "kinesis".toList),
   ("firehose".toList, "kinesis".toList),
   ("bucket".toList, "s3".toList),
   ("s3".toList, "s3".toList),
   ("lambda".toList, "lambda".toList),
   ("postgres".toList, "database".toList),
   ("mysql".toList, "database".toList),
   ("database".toList, "database".toList),
   ("db".toList, "database".toList),
   ("api".toList, "api".toList),
   ("gateway".toList, "api".toList),
   ("dashboard".toList, "dashboard".toList),
   ("report".toList, "dashboard".toList),
   ("user".toList, "user".toList),
   ("analyst".toList, "user".toList),
   ("connector".toList, "connector".toList),
   ("function".toList, "function".toList),
   ("udf".toList, "function".toList),
   ("service".toList, "service".toList),
   ("snowflake".toList, "snowflake".toList)]

/-- The icons of the flow stages, the last stage first: each stands for all stages from its
number up to the next. -/
def stageIcons : List (Int × Text) :=
  [(5, "consume".toList), (4, "compute".toList), (3, "storage".toList),
   (2, "transform".toList), (1, "ingest".toList), (0, "source".toList), (-1, "label".toList)]

/-! ## The four tiers -/

/-- The tier in which an icon was found. -/
inductive IconTier
  | exact
  | keyword
  | stage
  | generic
deriving DecidableEq

/-- An icon and its tier. -/
structure IconMatch where
  icon : Text
  tier : IconTier
deriving DecidableEq

/-- The icon that a key names. -/
def namedIcon? (key : Text) : Option Text :=
  (iconCatalog.find? fun entry => key = entry.1 || entry.2.contains key).map (·.1)

/-- The key without one mark of a generator, if something is left then. -/
def dropMark? (key : Text) : Option Text :=
  ((generatorMarks.find? (startsWith · key)).map fun mark => key.drop mark.length).filter (· ≠ [])

/-- The key without the marks of generators; a mark has a character at least, so there are
no more marks than characters. -/
def dropMarks (key : Text) : Text :=
  let rec go : Nat → Text → Text
    | 0, key => key
    | n + 1, key =>
        match dropMark? key with
        | some rest => go n rest
        | none => key
  go key.length key

/-- The icon that a key names, with or without the marks of generators. -/
def exactIcon? (key : Text) : Option Text := (namedIcon? key).or (namedIcon? (dropMarks key))

/-- How much a keyword speaks for its icon: two if it begins a word of the key, one if it
occurs elsewhere, and nothing otherwise. -/
def keywordScore (key keyword : Text) : Nat :=
  if (keyWords key).any (startsWith keyword) then 2 else if occursIn keyword key then 1 else 0

/-- The scores of icons so far, in the order of their first keywords that count. -/
def addScore (icon : Text) (score : Nat) : List (Text × Nat) → List (Text × Nat)
  | [] => [(icon, score)]
  | (name, n) :: rest =>
      if name = icon then (name, n + score) :: rest else (name, n) :: addScore icon score rest

/-- The scores of the icons for which a keyword speaks. -/
def iconScores (key : Text) : List (Text × Nat) :=
  iconKeywords.foldl
    (fun scores entry =>
      match keywordScore key entry.1 with
      | 0 => scores
      | score => addScore entry.2 score scores) []

/-- The first entry of the greatest score. -/
def best? : List (Text × Nat) → Option (Text × Nat)
  | [] => none
  | first :: rest =>
      match best? rest with
      | some other => some (if first.2 < other.2 then other else first)
      | none => some first

/-- The icon for which the keywords in a key speak most. -/
def keywordIcon? (key : Text) : Option Text := (best? (iconScores key)).map (·.1)

/-- The icon of a flow stage. -/
def stageIcon? {α : Type} [Length α] (stage : α) : Option Text :=
  if Length.isFinite stage then
    (stageIcons.find? fun entry => Length.atMost (Length.ofInt entry.1) stage).map (·.2)
  else none

/-- The icon of a component by its type, its label and its flow stage, each of which may be
missing. -/
def findIcon {α : Type} [Length α] (componentType label : Option Text) (stage : Option α) :
    IconMatch :=
  let keys := (([componentType, label].filterMap fun x => x).map nameKey).filter (· ≠ [])
  match keys.findSome? exactIcon? with
  | some icon => ⟨icon, .exact⟩
  | none =>
      match keys.findSome? keywordIcon? with
      | some icon => ⟨icon, .keyword⟩
      | none =>
          match stage.bind stageIcon? with
          | some icon => ⟨icon, .stage⟩
          | none => ⟨genericIcon, .generic⟩

end Swimlane
