import Docket.Settings.Config
import Docket.Settings.Environment

/-!
# Loading the configuration

Configuration comes in layers, later ones over earlier ones: the values that
every setting has, files, and the environment. There is a file in the working
directory, one in a directory of the user or of the system under the name of the
service, and one under `/etc`. The file in the working directory is over the
others. A file that is given replaces this search.

A file that is not TOML and a setting that does not fit make the whole
configuration fail.
-/

set_option autoImplicit false

namespace Docket

/-- What the machine has: the texts of the files that are there, and the
variables of its environment. -/
structure Surroundings where
  /-- The file in the working directory. -/
  working : Option String
  /-- The file of the user. -/
  user : Option String
  /-- The file of the system. -/
  system : Option String
  /-- The file under `/etc`. -/
  global : Option String
  environment : List (String × String)
  /-- The directory of the user's configuration. -/
  userDirectory : String
  /-- The directory of the system's configuration. -/
  systemDirectory : String

namespace Config

/-- The directory of configuration files, below the directories for all. -/
def directory : String := "acton-docstore"

/-- The file name of configuration files. -/
def fileName : String := "config.toml"

/-- The directory in which a service has a file below another directory. A name
that begins at the root stands for itself. -/
def joined (parent child : String) : String :=
  if Text.startsWith child "/" then child
  else if Text.endsWith parent "/" then parent ++ child
  else parent ++ "/" ++ child

/-- A file that may be read: where it is, and its text if it is there. -/
structure Candidate where
  path : String
  text : Option String

/-- The files of a service, the one with the last word first. The file of the
system counts only if the user has none, and both are named only if they are
there. -/
def candidates (machine : Surroundings) (service : String) : List Candidate :=
  let below := fun (parent : String) => joined (joined parent service) fileName
  let own : List Candidate := match machine.user, machine.system with
    | some text, _ => [⟨below (joined machine.userDirectory directory), some text⟩]
    | none, some text => [⟨below (joined machine.systemDirectory directory), some text⟩]
    | none, none => []
  [⟨fileName, machine.working⟩] ++ own ++
    [⟨below (joined "/etc" directory), machine.global⟩]

/-- A report of the loading. -/
def report (level : LogLevel) (message : String) : LogEntry :=
  { level, origin := .configuration, message, values := [] }

/-- The configuration of layers, the last one over the others. A layer is the
text of a file. -/
def ofLayers (files : List String) (environment : List (String × String)) : Option Config := do
  let base ← (encode default).toOption
  let documents ← files.mapM Toml.parse?
  let layered := documents.foldl (fun below document => Document.over below document) base
  (decode (.object (Document.over layered (Environment.settings environment)))).toOption

/-- The configuration of a service. -/
def loadForService (machine : Surroundings) (service : String) : Logged (Option Config) :=
  let files := candidates machine service
  let found := files.reverse.filterMap fun file => file.text.map fun text => (file.path, text)
  let searching := report .debug "Searching for config files in order:" ::
    files.map fun file => report .debug ("  - " ++ file.path)
  let loading := found.map fun file =>
    report .info ("Loading configuration from: " ++ file.1)
  ⟨ofLayers (found.map Prod.snd) machine.environment, searching ++ loading⟩

/-- The configuration of a given file, which may be missing. -/
def loadFrom (file : Option String) (environment : List (String × String)) : Option Config :=
  ofLayers file.toList environment

end Config

end Docket
