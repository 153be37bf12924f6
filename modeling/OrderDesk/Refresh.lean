import OrderDesk.Desk

/-!
Fetching the graph from the backend. A refresh swaps the graph in memory first and saves it after;
others may come between any two of its steps.
-/
namespace OrderDesk

/-- How far a refresh of the store has come. -/
inductive Refresh where
  /-- About to ask. -/
  | ask
  /-- Waiting for the answer. -/
  | asked (url : String)
  /-- About to take over the fetched graph. -/
  | adopt (fetched : Graph)
  /-- About to look up the graph that is to be saved. -/
  | copy (fetched : Graph)
  /-- About to save a text. -/
  | save (fetched : Graph) (text : String)
  | done (result : Except RefreshError Graph)

namespace Refresh

/-- One step. A refresh that waits or is done takes none. -/
def step (d : Desk) : Refresh → Desk × Refresh
  | ask =>
    match d.store.metaUrl with
    | none => (d, done (.error .noEndpoint))
    | some url => (d.ask (.transitions url), asked url)
  | adopt g => ({ d with store := d.store.replace g }, copy g)
  | copy g => (d, save g d.store.graph.text)
  | save g text => ({ d with store := (d.store.save text).1 }, done (.ok g))
  | r => (d, r)

/-- What follows the answer. -/
def answered : MetaResult → Refresh
  | .error e => done (.error (.transport e))
  | .ok response =>
    match response.graph? with
    | some g => adopt g
    | none => done (.error .missingGraph)

/-- The most steps that are left before a refresh waits or is done. -/
def rank : Refresh → Nat
  | ask => 1
  | asked _ => 0
  | adopt _ => 3
  | copy _ => 2
  | save _ _ => 1
  | done _ => 0

end Refresh

/-- How far a refresh that an operator asked for has come. When the store is refreshed, the idle
controls of the page are brought up to date. -/
inductive PageRefresh where
  | fetch (refresh : Refresh)
  /-- About to look up the graph and the controls that are idle. -/
  | survey
  | perform (todo : List (Seat × Touch))
  | finished (refreshed : Bool)

namespace PageRefresh

/-- The text on the button that asked for the refresh. -/
def label (refreshed : Bool) : String :=
  if refreshed then Feedback.refreshDone else Feedback.refreshFailed

/-- One step of a refresh for a page. One that waits or is finished takes none. -/
def step (d : Desk) (page : Nat) : PageRefresh → Desk × PageRefresh
  | fetch (.done (.ok _)) => (d, survey)
  | fetch (.done (.error _)) => (d, finished false)
  | fetch r =>
    let (d, r) := r.step d
    (d, fetch r)
  | survey => (d, perform (d.repopulation page))
  | perform [] => (d, finished true)
  | perform (t :: todo) => (d.touch t.1 t.2, perform todo)
  | finished b => (d, finished b)

/-- The most steps that are left before a refresh waits or is finished. -/
def rank (d : Desk) : PageRefresh → Nat
  | fetch r => r.rank + d.controls.length + 3
  | survey => d.controls.length + 2
  | perform todo => todo.length + 1
  | finished _ => 0

end PageRefresh
end OrderDesk
