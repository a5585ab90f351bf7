import Swimlane.Flowchart.Graph
import Swimlane.Text.Words

/-!
# Component types

What a component is called varies; its type is looked up by the key of the name, and
several names stand for one canonical type.  Types of account boundaries begin alike.
-/

namespace Swimlane

/-- The beginning of the types of account boundaries, and the type of one without a
provider. -/
def accountBoundary : Text := "account_boundary".toList

/-- The canonical types with the other keys that stand for them. -/
def typeAliases : List (Text × List Text) :=
  [("account_boundary_aws".toList,
      ["aws_account".toList, "aws_boundary".toList, "amazon_boundary".toList,
       "amazon_account".toList, "aws_cloud".toList]),
   ("account_boundary_snowflake".toList,
      ["snowflake_boundary".toList, "snowflake_account".toList, "sf_account".toList]),
   ("account_boundary_azure".toList,
      ["azure_boundary".toList, "azure_account".toList, "azure_subscription".toList]),
   ("account_boundary_gcp".toList,
      ["gcp_boundary".toList, "gcp_project".toList, "google_cloud_boundary".toList,
       "google_cloud_project".toList]),
   (accountBoundary, ["account".toList, "cloud_account".toList]),
   ("database".toList, ["db".toList, "rdbms".toList, "datastore".toList]),
   ("service".toList, ["svc".toList, "microservice".toList]),
   ("function".toList, ["fn".toList, "func".toList, "udf".toList]),
   ("endpoint".toList, ["api_endpoint".toList, "http_endpoint".toList])]

/-- The key of a component type; blanks around the name are dropped first. -/
def typeKey (name : Text) : Text := nameKey (trim name)

/-- The canonical type for a name: the one that its key stands for, the key itself if it
stands for none, and the default type if it is empty. -/
def canonicalType (name : Text) : Text :=
  match typeKey name with
  | [] => defaultComponentType
  | key =>
      match typeAliases.find? fun entry => key = entry.1 || entry.2.contains key with
      | some entry => entry.1
      | none => key

/-- Is a canonical type that of an account boundary? -/
def isAccountBoundary (type : Text) : Bool := startsWith accountBoundary type

end Swimlane
