import CardDesk.Http.Message

namespace CardDesk.Http

def bodyLimit : Nat := 2097152

inductive BodyError where
  | tooLarge
  | failed (text : String)
  deriving DecidableEq, Repr

def BodyError.message : BodyError → String
  | tooLarge => "Failed to buffer the request body: length limit exceeded"
  | failed text => "Failed to buffer the request body: " ++ text

def BodyError.response : BodyError → Response
  | tooLarge => .text .contentTooLarge tooLarge.message
  | failed text => .text .badRequest (failed text).message

def gather (room : Nat) (done : List Json.Bytes) :
    List Json.Bytes → Option String → Except BodyError Json.Bytes
  | [], none => .ok done.reverse.flatten
  | [], some text => .error (.failed text)
  | piece :: pieces, failure =>
    if room < piece.length then .error .tooLarge
    else gather (room - piece.length) (piece :: done) pieces failure

def Request.body (q : Request) : Except BodyError Json.Bytes :=
  gather bodyLimit [] q.pieces q.failure

theorem gather_eq (room : Nat) (done pieces : List Json.Bytes) (failure : Option String) :
    gather room done pieces failure =
      if room < pieces.flatten.length then .error .tooLarge
      else match failure with
        | some text => .error (.failed text)
        | none => .ok (done.reverse.flatten ++ pieces.flatten) := by
  induction pieces generalizing room done with
  | nil => cases failure <;> simp [gather]
  | cons piece pieces ih =>
    rw [gather, ih, List.flatten_cons, List.length_append, List.reverse_cons, List.flatten_append]
    by_cases h : room < piece.length
    · rw [if_pos h, if_pos (by omega)]
    · rw [if_neg h]
      by_cases h' : room - piece.length < pieces.flatten.length
      · rw [if_pos h', if_pos (by omega)]
      · rw [if_neg h', if_neg (by omega)]
        simp

end CardDesk.Http
