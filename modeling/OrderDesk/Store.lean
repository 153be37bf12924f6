import OrderDesk.Cache
import OrderDesk.Graph.Standard
import OrderDesk.Transport

/-!
The store of the transition graph. The graph is replaced as a whole or left alone, and what keeps
it durable is a best effort: a cache that fails changes nothing in the store.
-/
namespace OrderDesk

/-- The graph, the cache that outlives it, and the endpoint that it is fetched from. -/
structure Store where
  graph : Graph
  cache : Cache
  metaUrl : Option String
  deriving DecidableEq

/-- Why a refresh left the graph as it was. -/
inductive RefreshError where
  | noEndpoint
  | transport (error : TransportError)
  | missingGraph
  deriving DecidableEq, Repr

/-- The text of an error. -/
def RefreshError.message : RefreshError → String
  | noEndpoint => "no transitions metadata endpoint configured"
  | transport e => e.message
  | missingGraph => "metadata endpoint did not return a transition graph"

namespace Store

/-- Takes a graph in place of the present one. -/
def replace (s : Store) (g : Graph) : Store :=
  { s with graph := g }

/-- Writes a text to the cache, and says whether it was written. -/
def save (s : Store) (text : String) : Store × Bool :=
  match s.cache.write Cache.graphKey text with
  | .ok cache => ({ s with cache := cache }, true)
  | .error _ => (s, false)

/-- Writes the graph to the cache, and says whether it was written. -/
def persist (s : Store) : Store × Bool :=
  s.save s.graph.text

/-- The graph in the cache, if there is one that can be read. -/
def cached? (c : Cache) : Option Graph :=
  match c.read Cache.graphKey with
  | .ok (some entry) => Graph.ofText? entry.value
  | _ => none

/-- Takes the graph of the cache, and says whether there was one. -/
def restore (s : Store) : Store × Bool :=
  match cached? s.cache with
  | some g => (s.replace g, true)
  | none => (s, false)

/-- The store that starts with the cached graph, or with the standard one. -/
def starting (cache : Cache) (metaUrl : Option String) : Store :=
  (restore ⟨Graph.standard, cache, metaUrl⟩).1

end Store

end OrderDesk
