import OneFs.Exchange

/-!
# Sending one request

`Http.send` is the plan that sends one request and ends in the reply, if one is received in full.
-/

namespace OneFs.Http

/-- A reply that is received in full. -/
structure Reply where
  status : Nat
  body : String
  deriving DecidableEq, Inhabited

/-- Whether a reply reports success. -/
def Reply.isSuccess (r : Reply) : Bool :=
  Http.isSuccess r.status

/-- Whether the body of a reply holds nothing but blanks. -/
def Reply.isEmpty (r : Reply) : Bool :=
  Text.isBlankText r.body

/-- The reply that a delivery brings, or the failure that it is. -/
def replyOf (r : Request) : Delivery → Except Failure Reply
  | .received status body => .ok ⟨status, body⟩
  | .brokenOff => .error (.request .brokenOff)
  | .unanswered => .error .timeout
  | .closed => .error (.request (.closed r.url))
  | .unreachable => .error (.request (.unreachable r.url))
  | .misled fault => .error (.request fault)

/-- Send a request and wait for its reply, which is the last one if there are redirections on the
way. -/
def transmit (r : Request) : Exchange Reply :=
  .sent r fun d => Exchange.ofExcept (replyOf r d)

/-- Send what a caller asks for, if it can be sent. -/
def send (options : Options) (method : String) (url : Url) (auth : String)
    (headers : List (String × String)) (body : Option (List UInt8)) : Exchange Reply :=
  match prepare options method url auth headers body with
  | .ok r => transmit r
  | .error fault => .failed (.request fault)

end OneFs.Http
