import CardDesk.Card.Json
import CardDesk.Http.Body
import CardDesk.Http.Description
import CardDesk.Request
import CardDesk.Service
import CardDesk.Store.Timed

/-!
The desk over HTTP. Outcomes of operations on cards are told in the body under status 200; other
statuses are for requests that could not be dealt with at all. Each request is one dialogue with the
store, which is dropped when its time is over.
-/

namespace CardDesk.Http

inductive AppError where
  | badRequest (message : String)
  | unavailable (message : String)
  deriving DecidableEq, Repr

namespace AppError

def display : AppError → String
  | badRequest message => "Bad request: " ++ message
  | unavailable message => "Service unavailable: " ++ message

def response : AppError → Response
  | badRequest message => .error .badRequest message
  | unavailable message => .error .unavailable message

def records : AppError → List Record
  | badRequest _ => []
  | unavailable message => [.unavailable message]

def answer (e : AppError) : Dialogue Response :=
  e.records.foldr .note (.done e.response)

end AppError

inductive Route where
  | health
  | ready
  | card
  | description
  deriving DecidableEq, Repr

def Route.ofPath? (path : String) : Option Route :=
  if path = "/health" then some health
  else if path = "/ready" then some ready
  else if path = "/card" then some card
  else if path = "/api-docs/openapi.json" then some description
  else none

def Route.path : Route → String
  | health => "/health"
  | ready => "/ready"
  | card => "/card"
  | description => "/api-docs/openapi.json"

theorem Route.ofPath?_eq_some_iff {path : String} {route : Route} :
    ofPath? path = some route ↔ path = route.path := by
  constructor
  · intro h
    unfold ofPath? at h
    split at h
    · cases h
      assumption
    split at h
    · cases h
      assumption
    split at h
    · cases h
      assumption
    split at h
    · cases h
      assumption
    · cases h
  · rintro rfl
    cases route <;> decide

def statusJson (status : String) : String :=
  Json.object [("status", Json.quote status), ("version", Json.quote version)]

def getHealth : Dialogue Response :=
  .done (.json .ok (statusJson "healthy"))

def getReady : Dialogue Response :=
  Service.ping.bind fun
    | .ok () => .done (.json .ok (statusJson "ready"))
    | .error r => (AppError.unavailable r.message).answer

def getDescription : Dialogue Response :=
  .done (.json .ok Description.document)

def cardsJson (cards : List Card) : String :=
  Json.list (cards.map Card.json)

def getCards : Dialogue Response :=
  Service.list.bind fun
    | .ok cards => .done (.json .ok (cardsJson cards))
    | .error r => .done (.error .ok r.message)

def created : String := "Successfully created a card."

def removed : String := "Successfully removed the card."

def invalidOperation : String := "Invalid operation."

def perform : Except Refusal Command → Dialogue String
  | .error r => .done r.message
  | .ok (.register a) =>
    (Service.register a).bind fun
      | .ok _ => .done created
      | .error r => .done r.message
  | .ok (.remove id) =>
    (Service.remove id).bind fun
      | .ok () => .done removed
      | .error r => .note (.notRemoved id r) (.done r.message)
  | .ok (.unsupported op) => .note (.unsupported op) (.done invalidOperation)

def postDecoded (q : CardDesk.Request) : Dialogue Response :=
  .note (.received q.op q.id) ((perform q.command).bind fun message => .done (.text .ok message))

def postBytes (body : Json.Bytes) : Dialogue Response :=
  match CardDesk.Request.ofJson body with
  | .error c =>
    .note (.malformed c) (AppError.badRequest ("Invalid card request: " ++ c.message)).answer
  | .ok q => postDecoded q

def postCard (q : Request) : Dialogue Response :=
  match q.body with
  | .error e => .done e.response
  | .ok body => postBytes body

def readOnly (method : String) (get : Dialogue Response) : Dialogue Response :=
  if method = "GET" then get
  else if method = "HEAD" then get.bind fun r => .done r.withoutBody
  else .done (.notAllowed "GET,HEAD")

def answerCard (q : Request) : Dialogue Response :=
  if q.method = "GET" then getCards
  else if q.method = "POST" then postCard q
  else if q.method = "OPTIONS" then .done (.empty .noContent)
  else if q.method = "HEAD" then .done (.empty .methodNotAllowed)
  else .done (.notAllowed "GET,HEAD,POST,OPTIONS")

def answer (q : Request) : Dialogue Response :=
  match Route.ofPath? (pathOf q.target) with
  | none => .done (.empty .notFound)
  | some .health => readOnly q.method getHealth
  | some .ready => readOnly q.method getReady
  | some .description => readOnly q.method getDescription
  | some .card => answerCard q

/-- Thirty years, which stand for limits too far away to be reckoned with. -/
def farAway : Nat := 86400 * 365 * 30 * 1000

def limitOf (seconds : UInt64) : Nat :=
  if seconds.toNat < Nat.pow 2 63 then seconds.toNat * 1000 else farAway

structure Exchange where
  response : Response
  events : List Event
  world : World

def serve (seconds : UInt64) (q : Request) (w : World) : Exchange :=
  let limit := some (limitOf seconds)
  if reached limit 0 then ⟨.empty .requestTimeout, [], w⟩
  else
    let o := (answer q).within limit 0 w
    ⟨o.result.getD (.empty .requestTimeout), o.events, o.world⟩

def serveAll (seconds : UInt64) : List Request → World → List Exchange
  | [], _ => []
  | q :: qs, w =>
    let x := serve seconds q w
    x :: serveAll seconds qs x.world

end CardDesk.Http
