import OrderDesk.Cache.Location
import OrderDesk.Desk
import OrderDesk.Toml.Reader

/-!
Settings. They start from what is usual, and a file is laid over them, and then the environment. A
layer gives a setting by a key, or by the first of two variables that is there, and what it gives
replaces what was there before, also when it is blank. A file that cannot be read is no layer.
-/
namespace OrderDesk
open Text

/-- The settings of a workplace. -/
structure Settings where
  baseUrl : Option String := none
  metaUrl : Option String := none
  cacheUrl : String := Cache.defaultUrl
  cookie : Option String := none
  progress : Bool := true
  deriving DecidableEq, Repr

namespace Settings

/-- The names of one setting: the variable that decides first, the variable that decides next, and
the key of the file. -/
structure Names where
  first : String
  next : String
  key : String
  deriving DecidableEq, Repr

/-- The names of the url that others are relative to. -/
def baseUrlNames : Names := ⟨"APP__BASE_URL", "ORDER_CONTROLS_BASE_URL", "base_url"⟩

/-- The names of the endpoint that the graph is fetched from. -/
def metaUrlNames : Names := ⟨"APP__META_URL", "ORDER_CONTROLS_META_URL", "meta_url"⟩

/-- The names of the location of the cache. -/
def cacheUrlNames : Names := ⟨"APP__CACHE_URL", "ORDER_CONTROLS_CACHE_URL", "cache_database_url"⟩

/-- The names of the cookie header. -/
def cookieNames : Names := ⟨"APP__COOKIE", "ORDER_CONTROLS_COOKIE", "cookie"⟩

/-- The names of the flag for texts of progress. -/
def progressNames : Names :=
  ⟨"APP__PROGRESS_MESSAGES", "ORDER_CONTROLS_PROGRESS", "progress_messages"⟩

/-- The name of the settings file. -/
def fileName : String := "order_controls.toml"

/-- The text of a value of the file: a string itself, a date or time as a marked table, and any
other value as it is written. -/
def textOf : Toml.Value → String
  | .text t => t
  | .moment m => (Toml.Value.table [(Toml.Value.momentKey, .text m.text)]).print
  | v => v.print

/-- The texts that the bytes of a file give, if they are a document. -/
def textsOf? (bs : List UInt8) : Option (Dict String) := do
  let members ← Toml.ofText? (String.ofList (← ofBytes? bs))
  return Dict.ofList (members.map fun m => (m.1, textOf m.2))

/-- The text that a file gives a setting. -/
def fromFile (texts : Dict String) (n : Names) : Option String :=
  texts.get? n.key

/-- The text that the environment gives a setting. -/
def fromEnvironment (environment : Dict String) (n : Names) : Option String :=
  environment.get? n.first <|> environment.get? n.next

/-- The flag that a word stands for. -/
def flag? (raw : String) : Option Bool :=
  match lowerAscii (trim raw) with
  | "1" | "true" | "yes" | "on" => some true
  | "0" | "false" | "no" | "off" => some false
  | _ => none

/-- The settings with a layer of texts laid over them. A word that stands for no flag is laid over
nothing. -/
def overlay (s : Settings) (given : Names → Option String) : Settings where
  baseUrl := (given baseUrlNames).elim s.baseUrl nonBlank?
  metaUrl := (given metaUrlNames).elim s.metaUrl nonBlank?
  cacheUrl := (given cacheUrlNames).elim s.cacheUrl Cache.normalize
  cookie := (given cookieNames).elim s.cookie nonBlank?
  progress := ((given progressNames).bind flag?).getD s.progress

/-- The settings that the bytes of a file, if there is one, and the environment give. -/
def load (file : Option (List UInt8)) (environment : Dict String) : Settings :=
  let usual : Settings := {}
  let filed := (file.bind textsOf?).elim usual fun texts => usual.overlay (fromFile texts)
  filed.overlay (fromEnvironment environment)

/-- The settings that the file in the working directory and the environment give. -/
def onDisk (disk : Disk) (environment : Dict String) : Settings :=
  load (disk.read? fileName.toList) environment

/-- The schedule of progress that the settings ask for. -/
def schedule (s : Settings) : Schedule :=
  if s.progress then Schedule.usual else Schedule.none

end Settings
end OrderDesk
