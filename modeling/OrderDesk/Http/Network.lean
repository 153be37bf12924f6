import OrderDesk.Http.Client

/-!
A network with one server, which answers the requests that reach it from a row of prepared
answers, and a line to the backend over such a network.
-/
namespace OrderDesk

namespace Http

/-- A network. The server is reached under a host and a number, or not at all. -/
structure Network where
  server : Option (List Char × Nat)
  answers : List Answer
  seen : List Request := []

/-- The number that a request goes to at its host. -/
def portNumberOf (u : Url) (a : Url.Authority) : Option Nat :=
  a.portNumber <|> Url.usualPortNumber? u.scheme

/-- Whether a request for a url reaches the server. -/
def Network.reaches (n : Network) (u : Url) : Bool :=
  match n.server, u.authority with
  | some (host, portNumber), some a =>
    u.scheme == "http" && a.host == host && portNumberOf u a == some portNumber
  | _, _ => false

/-- Whether an answer of a status comes without a body. -/
def isBodiless (status : Nat) : Bool :=
  status = 204 || status = 304

/-- An answer as it arrives. -/
def Answer.arriving : Answer → Answer
  | whole status body => if isBodiless status then whole status [] else whole status body
  | cut status body => if isBodiless status then whole status [] else cut status body
  | a => a

/-- The answer of a server that has none prepared. -/
def Answer.missing : Answer := whole 500 []

/-- Sends a request. -/
def Network.send (n : Network) (r : Request) : Network × Answer :=
  if n.reaches r.url then
    ({ n with answers := n.answers.tail, seen := n.seen ++ [r] },
      (n.answers.head?.getD Answer.missing).arriving)
  else (n, .unreached)

end Http

/-- A client and the network that it sends its requests over. -/
structure Line where
  client : Client
  network : Http.Network

namespace Line

/-- Asks for the graph. A request that goes out takes a moment, even when it reaches nobody. -/
def transitions (l : Line) (endpoint : String) : Line × Arrival MetaResult :=
  match l.client.askTransitions endpoint with
  | .error e => (l, ⟨none, .error e⟩)
  | .ok r =>
    let (network, answer) := l.network.send r
    ({ l with network := network }, ⟨some 0, Client.readTransitions r.url answer⟩)

/-- Asks for a change of state. -/
def setState (l : Line) (endpoint : String) (s : SetRequest) : Line × Arrival SetResult :=
  match l.client.askSet endpoint s with
  | .error e => (l, ⟨none, .error e⟩)
  | .ok r =>
    let (network, answer) := l.network.send r
    ({ l with network := network }, ⟨some 0, Client.readSet r.url answer⟩)

end Line

instance : Backend Line where
  transitions := Line.transitions
  setState := Line.setState

end OrderDesk
