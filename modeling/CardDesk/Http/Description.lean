import CardDesk.Http.Message
import CardDesk.Record

namespace CardDesk.Http.Description

open Json

abbrev Member := String × String

def strings (items : List String) : String :=
  list (items.map quote)

def reference (schema : String) : String :=
  object [("$ref", quote ("#/components/schemas/" ++ schema))]

def about (text : String) : Member :=
  ("description", quote text)

def ofType (name : String) : Member :=
  ("type", quote name)

def string : String :=
  object [ofType "string"]

def nullable : Member :=
  ("nullable", "true")

def content (media schema : String) : Member :=
  ("content", object [(media, object [("schema", schema)])])

def jsonContent (schema : String) : Member :=
  content "application/json" schema

def response (status text : String) (members : List Member) : Member :=
  (status, object (about text :: members))

def operation (method tag summary name : String) (body : List Member) (responses : List Member) :
    Member :=
  (method, object ([("tags", strings [tag]), ("summary", quote summary),
    ("operationId", quote name)] ++ body ++ [("responses", object responses)]))

def info : Member :=
  ("info", object [("title", quote "Library Card API"),
    about "Library card registration service",
    ("contact", object [("name", quote "")]),
    ("license", object [("name", quote "AGPL-3.0")]),
    ("version", quote version)])

def cardPath : Member :=
  ("/card", object [
    operation "get" "cards" "List all cards" "list_cards" [] [
      response "200" "Card list, or an error object if the store failed"
        [jsonContent (object [ofType "array", ("items", reference "Card")])]],
    operation "post" "cards" "Create or remove a card" "post_card"
      [("requestBody", object [jsonContent (reference "CardRequest"), ("required", "true")])] [
      response "200" "Outcome message" [content "text/plain" string],
      response "400" "Body is not a valid card request"
        [jsonContent (reference "ErrorResponse")]],
    operation "options" "cards" "CORS preflight" "preflight" [] [
      response "204" "Preflight accepted" []]])

def healthPath : Member :=
  ("/health", object [
    operation "get" "health" "Health check endpoint" "health_check" [] [
      response "200" "Service is healthy" [jsonContent (reference "HealthResponse")]]])

def readyPath : Member :=
  ("/ready", object [
    operation "get" "health" "Readiness check endpoint (checks card store connectivity)"
      "readiness_check" [] [
      response "200" "Service is ready" [jsonContent (reference "HealthResponse")],
      response "503" "Card store unreachable" [jsonContent (reference "ErrorResponse")]]])

def schema (name : String) (text : List Member) (required : List String)
    (properties : List Member) (more : List Member) : Member :=
  (name, object ([ofType "object"] ++ text ++ [("required", strings required),
    ("properties", object properties)] ++ more))

def schemas : Member :=
  ("schemas", object [
    schema "Card" [about "Card record"] ["id", "name", "department", "type"] [
      ("department", string),
      ("id", object [ofType "integer", ("format", quote "int32"),
        about "Assigned by the store on creation"]),
      ("name", string),
      ("type", reference "CardType")] [],
    schema "CardRequest" [about "Body of `POST /card`"] ["op"] [
      ("department", object [ofType "string", nullable]),
      ("id", object [ofType "integer", ("format", quote "int32"),
        about "Target card for `remove`", nullable]),
      ("name", object [ofType "string", nullable]),
      ("op", object [ofType "string", about "`new` or `remove`"]),
      ("type", object [ofType "string", about "`教师`, `学生`, `T` or `S`", nullable])]
      [("additionalProperties", "false")],
    ("CardType", object [ofType "string", about "Borrowing-rights category of a card",
      ("enum", strings ["T", "S"])]),
    schema "ErrorResponse"
      [about "Error response body, `\x7b\\\"error\\\": \\\"...\\\"\x7d`"] ["error"] [
      ("error", string)] [],
    schema "HealthResponse" [] ["status", "version"] [
      ("status", object [ofType "string", about "Current status of the service"]),
      ("version", object [ofType "string", about "Version of the service"])] []])

def tags : Member :=
  ("tags", list [
    object [("name", quote "health"), about "Health check endpoints"],
    object [("name", quote "cards"), about "Library card management"]])

def document : String :=
  object [("openapi", quote "3.0.3"), info,
    ("paths", object [cardPath, healthPath, readyPath]),
    ("components", object [schemas]), tags]

end CardDesk.Http.Description
