import CardDesk.Json.Text

namespace CardDesk.Http

structure Request where
  method : String
  target : String
  pieces : List Json.Bytes
  failure : Option String
  deriving DecidableEq, Repr

inductive Status where
  | ok
  | noContent
  | badRequest
  | notFound
  | methodNotAllowed
  | requestTimeout
  | contentTooLarge
  | unavailable
  deriving DecidableEq, Repr

def Status.code : Status → Nat
  | ok => 200
  | noContent => 204
  | badRequest => 400
  | notFound => 404
  | methodNotAllowed => 405
  | requestTimeout => 408
  | contentTooLarge => 413
  | unavailable => 503

inductive Media where
  | json
  | text
  deriving DecidableEq, Repr

def Media.name : Media → String
  | json => "application/json"
  | text => "text/plain; charset=utf-8"

/-- A response. The length announced is that of the full body, which a response to HEAD leaves
out. -/
structure Response where
  status : Status
  media : Option Media
  allow : Option String
  length : Nat
  body : String
  deriving DecidableEq, Repr

namespace Response

def empty (status : Status) : Response :=
  ⟨status, none, none, 0, ""⟩

def text (status : Status) (body : String) : Response :=
  ⟨status, some .text, none, body.utf8ByteSize, body⟩

def json (status : Status) (body : String) : Response :=
  ⟨status, some .json, none, body.utf8ByteSize, body⟩

def error (status : Status) (message : String) : Response :=
  json status (Json.object [("error", Json.quote message)])

def notAllowed (methods : String) : Response :=
  { empty .methodNotAllowed with allow := some methods }

def withoutBody (r : Response) : Response :=
  { r with body := "" }

def originHeaders : List (String × String) :=
  [("access-control-allow-headers", "Content-Type"),
    ("access-control-allow-methods", "GET, POST, OPTIONS"),
    ("access-control-allow-origin", "*")]

def ownHeaders (r : Response) : List (String × String) :=
  (r.allow.map fun methods => ("allow", methods)).toList ++
    [("content-length", toString r.length)] ++
    (r.media.map fun m => ("content-type", m.name)).toList

def headers (r : Response) : List (String × String) :=
  originHeaders ++ r.ownHeaders

end Response

def pathOf (target : String) : String :=
  let stop (c : Char) : Bool := c == '?' || c == '#'
  let cut (cs : List Char) : String := String.ofList (cs.takeWhile fun c => !stop c)
  match target.toList with
  | '/' :: r => cut ('/' :: r)
  | cs =>
    match cs.dropWhile fun c => c != ':' && c != '/' && !stop c with
    | ':' :: '/' :: '/' :: r =>
      match r.dropWhile fun c => c != '/' && !stop c with
      | '/' :: r => cut ('/' :: r)
      | _ => "/"
    | _ => cut cs

end CardDesk.Http
