import RouterOperator.Definition.Fields

/-!
# The definition of clusters

What the cluster API is given to serve clusters as objects of its own: their names, their schema,
and the columns that a listing shows.
-/

namespace RouterOperator

/-- A column of a listing. -/
structure PrinterColumn where
  name : String
  type : String
  path : String

/-- Writes a column. -/
def PrinterColumn.toJson (column : PrinterColumn) : Json :=
  .object [
    ("jsonPath", .string column.path), ("name", .string column.name),
    ("type", .string column.type)]

namespace Interconnect

/-- The group of the type of clusters. -/
def group : String := "interconnectedcloud.github.io"

/-- The version of the type of clusters. -/
def version : String := "v1alpha1"

/-- The columns of a listing of clusters. -/
def columns : List PrinterColumn := [
  ⟨"Role", "string", ".spec.deploymentPlan.role"⟩,
  ⟨"Size", "integer", ".spec.deploymentPlan.size"⟩,
  ⟨"Phase", "string", ".status.phase"⟩]

/-- The version of the type of clusters as it is served and stored, with a status that is written
apart. -/
def servedVersion : Json :=
  .object [
    ("additionalPrinterColumns", .list PrinterColumn.toJson columns),
    ("name", .string version),
    ("schema", .object [
      ("openAPIV3Schema", .object (("title", .string apiType.kind) :: schema.entries))]),
    ("served", .bool true),
    ("storage", .bool true),
    ("subresources", .object [("status", .object [])])]

/-- The definition of clusters. -/
def definition : Json :=
  .object [
    ("apiVersion", .string "apiextensions.k8s.io/v1"),
    ("kind", .string "CustomResourceDefinition"),
    ("metadata", .object [("name", .string s!"{apiType.plural}.{group}")]),
    ("spec", .object [
      ("group", .string group),
      ("names", .object [
        ("categories", .array []),
        ("kind", .string apiType.kind),
        ("plural", .string apiType.plural),
        ("shortNames", .list .string ["ic"]),
        ("singular", .string "interconnect")]),
      ("scope", .string "Namespaced"),
      ("versions", .array [servedVersion])])]

end Interconnect

end RouterOperator
