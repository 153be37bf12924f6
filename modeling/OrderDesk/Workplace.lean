import OrderDesk.Cache.Open
import OrderDesk.Http.Network
import OrderDesk.Settings
import OrderDesk.Timeline

/-!
A workplace: a desk that is set up from settings, with its line to the backend and the disk that
its cache is kept on. A cache that cannot be opened is replaced by the stand-in, so only a base
that is no url keeps a workplace from being opened.
-/
namespace OrderDesk

/-- Why a workplace cannot be opened. -/
structure OpenError where
  cause : TransportError
  deriving DecidableEq, Repr

/-- The text of an error, without its cause. -/
def OpenError.message (_ : OpenError) : String :=
  "failed to build order state backend"

/-- A workplace. -/
structure Workplace where
  disk : Disk
  timeline : Timeline Line

namespace Workplace

/-- The desk of a workplace. -/
def desk (w : Workplace) : Desk := w.timeline.desk

/-- The requests that have reached the server. -/
def seen (w : Workplace) : List Http.Request := w.timeline.backend.network.seen

/-- The desk that starts with a cache. -/
def startingDesk (s : Settings) (cache : Cache) : Desk :=
  { store := Store.starting cache s.metaUrl, schedule := s.schedule }

/-- Opens a workplace. -/
def open? (s : Settings) (disk : Disk) (network : Http.Network) : Except OpenError Workplace :=
  match Client.ofCookie? s.baseUrl s.cookie with
  | .error e => .error ⟨e⟩
  | .ok client =>
    let (disk, cache) := Cache.openAt disk s.cacheUrl
    .ok ⟨disk, { session := { desk := startingDesk s cache }, backend := ⟨client, network⟩ }⟩

/-- The workplace with another timeline, whose cache is put on the disk. -/
def advanceTo (w : Workplace) (timeline : Timeline Line) : Workplace :=
  ⟨Cache.save w.disk timeline.desk.store.cache, timeline⟩

/-- The workplace after an event. -/
def apply (w : Workplace) (e : Event) : Workplace :=
  w.advanceTo (w.timeline.apply e)

/-- Runs a task from its beginning to its end. -/
def run (w : Workplace) (wish : Wish) : Workplace × Option Task :=
  let (timeline, t) := w.timeline.run wish
  (w.advanceTo timeline, t)

/-- Binds a new page. -/
def bindPage (w : Workplace) (descriptors : List Descriptor) : Workplace :=
  let session := w.timeline.session
  { w with timeline :=
      { w.timeline with session := { session with desk := session.desk.bindPage descriptors } } }

end Workplace
end OrderDesk
