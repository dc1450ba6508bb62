import Courier.Cluster.Unanswered
import Courier.Command.Plan

/-!
# Commands where no broker can be reached

The program as it runs by itself: its messages find no broker, and its screen takes all that is
printed.
-/

namespace Courier.Command

open Batch Cluster Template

/-- The plan for a command. -/
def plan (files : Files) : Command → Except Failure Plan :=
  planOver .unanswered files

/-- Does what the words of the command line ask for. -/
def perform (env : Environment) (files : Files) (clock : Time.Clock) (supply : UuidSupply)
    (words : List String) : Output :=
  performOver .unanswered {} env files clock supply words

end Courier.Command
