import Courier.Template.Fault
import Courier.Text.Blank

/-!
# Requests

A request asks for a number of messages from one template. It is refused as a whole, before anything
is sent, if the number is zero, the topic is blank or the template is faulty.
-/

namespace Courier.Batch

open Courier.Template

/-- Messages from one template, to one topic of one server. -/
structure Request where
  server : String
  topic : String
  template : MessageTemplate
  count : Nat
deriving DecidableEq

/-- What is wrong with a request apart from its template. -/
inductive RequestFault where
  | noMessages
  | blankTopic
deriving DecidableEq, Repr

/-- The wording of a fault. -/
def RequestFault.message : RequestFault → String
  | .noMessages => "count must be at least 1, got 0"
  | .blankTopic => "topic must not be empty"

/-- Why a request is refused. -/
inductive DispatchError where
  | invalid (fault : RequestFault)
  | template (cause : TemplateError)
deriving DecidableEq, Repr

namespace DispatchError

/-- The wording of a refusal. -/
def message : DispatchError → String
  | .invalid fault => "Invalid dispatch request: " ++ fault.message
  | .template cause => "Template error: " ++ cause.message

/-- The wordings of the refusal and of what caused it, from the outside in. -/
def chain (e : DispatchError) : List String :=
  match e with
  | .invalid _ => [e.message]
  | .template cause => e.message :: cause.chain

end DispatchError

namespace Request

/-- Refuses a request for no messages or to a blank topic. -/
def validate (r : Request) : Except DispatchError Unit :=
  if r.count = 0 then .error (.invalid .noMessages)
  else if Text.trim r.topic = "" then .error (.invalid .blankTopic)
  else .ok ()

/-- Compiles the template of a request that is in order in all respects. -/
def accept (r : Request) : Except DispatchError CompiledTemplate :=
  match r.validate with
  | .error e => .error e
  | .ok () =>
    match CompiledTemplate.compile r.template with
    | .error e => .error (.template e)
    | .ok t =>
      match t.validate with
      | .error e => .error (.template e)
      | .ok () => .ok t

/-- All that is wrong with a request, the weightiest first. -/
def faults (r : Request) : List DispatchError :=
  (if r.count = 0 then [.invalid .noMessages] else []) ++
    (if Text.trim r.topic = "" then [.invalid .blankTopic] else []) ++
      r.template.faults.map .template

end Request

end Courier.Batch
