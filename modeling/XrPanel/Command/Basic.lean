import XrPanel.ActiveRuntime
import XrPanel.Panel

namespace XrPanel

inductive Command where
  | view (panel : Panel)
  | change (panel : Panel) (control value : String)
  | reset (panel : Panel) (group : Option String)
  | status
  | active
  | select (choice : RuntimeChoice)
  | version
  deriving DecidableEq

def Command.writesStore : Command → Bool
  | .change .. | .reset .. | .select _ => true
  | .view _ | .status | .active | .version => false

structure Invocation where
  standalone : Bool
  storeFile : Option String
  noElevate : Bool
  json : Bool
  installDir : Option String
  command : Command
  deriving DecidableEq

def Invocation.deployment (i : Invocation) : Deployment := if i.standalone then .standalone else .bundled

structure Environment where
  standalone : Option String
  storeFile : Option String
  installDir : Option String
  deriving DecidableEq

end XrPanel
