import RequestAtlas.Collection.Basic

/-!
# Collections as documents

The JSON document of a collection, and a short outline of it. Parts that are
absent have no field, and the fields stand in a fixed order. The body of a
request holds its JSON payload as indented text.
-/

namespace RequestAtlas

/-- A field with its value, when there is one. -/
def Json.Fields.optional (key : String) (value : Option Json) : Json.Fields :=
  (value.map fun v => (key, v)).toList

/-- A header or a query parameter; none of them is switched off. -/
def Parameter.toJson (p : Parameter) : Json :=
  .obj [("key", .str p.key), ("value", .str p.value), ("disabled", .bool false)]

/-- A variable of a collection. -/
def Parameter.toVariable (p : Parameter) : Json :=
  .obj [("key", .str p.key), ("value", .str p.value), ("type", .str "string")]

/-- A list of texts, unless it is empty. -/
def Json.strings? (ss : List String) : Option Json :=
  if ss.isEmpty then none else some (.strings ss)

/-- The document of an address. -/
def Url.toJson (u : Url) : Json :=
  .obj <| ("raw", .str u.raw) :: Json.Fields.optional "protocol" (u.protocol.map .str)
    ++ Json.Fields.optional "host" (Json.strings? u.host)
    ++ Json.Fields.optional "port" (u.port.map .str)
    ++ [("path", .strings u.path)]
    ++ (if u.query.isEmpty then [] else [("query", .arr (u.query.map Parameter.toJson))])

/-- The document of a form field. -/
def FormField.toJson : FormField → Json
  | .file key source =>
    .obj [("key", .str key), ("type", .str "file"), ("src", .str source)]
  | .text key value =>
    .obj [("key", .str key), ("type", .str "text"), ("value", .str value)]

/-- The document of a body. -/
def Body.toJson : Body → Json
  | .json payload =>
    .obj [("mode", .str "raw"), ("raw", .str payload.indented),
      ("options", .obj [("raw", .obj [("language", .str "json")])])]
  | .form fields =>
    .obj [("mode", .str "formdata"), ("formdata", .arr (fields.map FormField.toJson))]

/-- The document of a request. -/
def Request.toJson (r : Request) : Json :=
  .obj [("name", .str r.name),
    ("request", .obj <|
      [("method", .str r.method.name), ("header", .arr (r.headers.map Parameter.toJson)),
        ("url", r.url.toJson)] ++ Json.Fields.optional "body" (r.body.map Body.toJson))]

/-- The document of a group. -/
def Group.toJson (g : Group) : Json :=
  .obj [("name", .str g.name), ("item", .arr (g.requests.map Request.toJson))]

/-- The document of an entry. -/
def Entry.toJson : Entry → Json
  | .request r => r.toJson
  | .group g => g.toJson

/-- The document of a folder. -/
def Folder.toJson (f : Folder) : Json :=
  .obj [("name", .str f.name), ("item", .arr (f.entries.map Entry.toJson))]

namespace Collection

/-- The format a collection is written in. -/
def formatUrl : String :=
  "https://schema.getpostman.com/json/collection/v2.1.0/collection.json"

/-- The description of a collection. -/
def infoJson (c : Collection) : Json :=
  .obj [("name", .str c.name), ("description", .str c.description), ("schema", .str formatUrl)]

/-- The document of a collection. -/
def toJson (c : Collection) : Json :=
  .obj [("info", c.infoJson), ("item", .arr (c.folders.map Folder.toJson)),
    ("variable", .arr (c.parameters.map Parameter.toVariable))]

/-- The text of a collection's document. -/
def text (c : Collection) : String :=
  c.toJson.indented

end Collection

/-- The names in a group. -/
def Group.outline (g : Group) : Json :=
  .obj [("name", .str g.name), ("item", .arr (g.requests.map (.str ·.name)))]

/-- The names in a folder. -/
def Folder.outline (f : Folder) : Json :=
  .obj [("name", .str f.name), ("item", .arr (f.entries.map fun
    | .request r => .str r.name
    | .group g => g.outline))]

/-- The description of a collection and the names in it. -/
def Collection.outline (c : Collection) : Json :=
  .obj [("info", c.infoJson), ("item", .arr (c.folders.map Folder.outline))]

end RequestAtlas
