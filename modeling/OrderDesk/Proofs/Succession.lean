import OrderDesk.Proofs.Fetching
import OrderDesk.Proofs.Printing
import OrderDesk.Proofs.Renewal
import OrderDesk.Proofs.Reopening

/-! One run of the console after another. What a run leaves on the disk is the database with the
graph that came last, and a later run starts from it. -/
namespace OrderDesk
open Text

variable {d e disk used made : Disk} {raw : String} {place : List String} {rows rows' : Table}
  {r : Cache.Request} {g : Graph}

namespace Cache

/-- A location at which a database file can be opened and written to, and opened again when that was
done. -/
def IsUsable (d : Disk) (raw : String) : Prop :=
  ∃ place rows, Opens d raw (.database ⟨some place, false, rows⟩) ∧
    ∃ cache, Opens (openAt d raw).1 raw cache

/-- A location at which a database file with rows is opened, now and whenever rows are put back. -/
def Stands (d : Disk) (raw : String) (place : List String) (rows : Table) : Prop :=
  ∃ made r used, Leads made (normalize raw) place r ∧ IsStraight made (normalize raw) ∧
    openAt d raw = (used, .database ⟨some place, false, rows⟩) ∧ made.KeepsWay place used ∧
    used.item? place = some (.table rows)

theorem stands_of_kept (hl : Leads made (normalize raw) place r)
    (hs : IsStraight made (normalize raw)) (hk : made.KeepsWay place d)
    (ht : d.item? place = some (.table rows)) : Stands d raw place rows := by
  have hp : prepare d raw = (d, .ok (normalize raw)) :=
    prepare_eq_ok.mpr ⟨rfl, ensureParent_again hl.parent hk.toExtends⟩
  have hu := hl.openUrl_eq hk ht
  rw [if_pos hs] at hu
  obtain ⟨hkept, htable⟩ := hk.put_table ht rows
  exact ⟨made, r, _, hl, hs, openAt_of_opened hp hu, hkept, htable⟩

/-- A database file that opens once more opens time and again. -/
theorem stands_of_opens (h : Opens d raw (.database ⟨some place, false, rows⟩))
    (hagain : ∃ cache, Opens (openAt d raw).1 raw cache) : Stands d raw place rows := by
  obtain ⟨before, url, used, hp, hu⟩ := h
  obtain ⟨rfl, hparent⟩ := prepare_eq_ok.mp hp
  obtain ⟨made, r, hl, hk, -, ht⟩ := exists_leads hu
  have hopen := openAt_of_opened hp hu
  refine ⟨made, r, used, hl, ?_, hopen, hk, ht⟩
  -- A path that leads through the file is barred as soon as the file is there.
  by_contra hcrooked
  obtain ⟨cache, before', url', used', hp', hu'⟩ := hagain
  obtain ⟨rfl, hparent'⟩ := prepare_eq_ok.mp hp'
  rw [hopen, ensureParent_again hl.parent hk.toExtends] at hparent'
  obtain rfl := (Prod.mk.inj hparent').1
  rw [hl.openUrl_eq hk ht, if_neg hcrooked] at hu'
  cases (Prod.mk.inj hu').2

namespace Stands

/-- The rows that are put back are there the next time. -/
theorem save (h : Stands d raw place rows) (rows' : Table) :
    Stands (Cache.save (openAt d raw).1 (.database ⟨some place, false, rows'⟩)) raw place
      rows' := by
  obtain ⟨made, r, used, hl, hs, ho, hk, ht⟩ := h
  rw [ho]
  obtain ⟨hkept, htable⟩ := hk.put_table ht rows'
  exact stands_of_kept hl hs hkept htable

theorem again (h : Stands d raw place rows) : Stands (openAt d raw).1 raw place rows := by
  obtain ⟨made, r, used, hl, hs, ho, hk, ht⟩ := h
  rw [ho]
  exact stands_of_kept hl hs hk ht

theorem cache (h : Stands d raw place rows) :
    (openAt d raw).2 = .database ⟨some place, false, rows⟩ := by
  obtain ⟨made, r, used, -, -, ho, -⟩ := h
  rw [ho]

end Stands

end Cache

namespace Timeline
variable {tl : Timeline Line} {st : Store}

/-- A timeline in which nothing goes on. -/
structure Idle (st : Store) (tl : Timeline Line) : Prop where
  store : tl.desk.store = st
  tasks : tl.session.tasks = []
  pending : tl.pending = []

theorem Idle.still (h : tl.Idle st) : tl.Still st :=
  ⟨⟨h.store, by simp [h.tasks]⟩, by simp [h.pending]⟩

/-- The timeline with a new page. -/
def bindPage (tl : Timeline Line) (ds : List Descriptor) : Timeline Line :=
  { tl with session := { tl.session with desk := tl.session.desk.bindPage ds } }

theorem Idle.bindPage (h : tl.Idle st) (ds : List Descriptor) : (tl.bindPage ds).Idle st :=
  ⟨h.store, h.tasks, h.pending⟩

end Timeline

theorem Workplace.run_eq (d : Disk) (tl : Timeline Line) (wish : Wish) :
    (⟨d, tl⟩ : Workplace).run wish =
      (⟨Cache.save d (tl.run wish).1.desk.store.cache, (tl.run wish).1⟩, (tl.run wish).2) := by
  unfold run
  simp only
  rcases tl.run wish with ⟨tl', t⟩
  rfl

theorem Workplace.bindPage_eq (d : Disk) (tl : Timeline Line) (ds : List Descriptor) :
    (⟨d, tl⟩ : Workplace).bindPage ds = ⟨d, tl.bindPage ds⟩ := rfl

/-- The graph that a refresh fetches comes over the network. -/
theorem Timeline.fetched_graphs (tl : Timeline Line) :
    tl.backend.network.graphsSince tl.fetched.1.network = tl.fetched.2.toOption.toList := by
  rw [fetched]
  cases tl.desk.store.metaUrl with
  | none => exact Http.Network.graphsSince_self _
  | some url =>
    exact (tl.backend.reply_spec (.transitions url)).2.trans
      (congrArg Option.toList (Refresh.graph?_eq _))

namespace Console

/-- What a selection ends with: its outcome and the controls. -/
def selected (json : Bool) (t : Option Task) (views : List View) : Output :=
  match t with
  | some (.selection s) =>
    { code := 0, out := s.outcome?.elim "" (outcomeText json) ++ viewsText json views }
  | _ => { code := 0, out := viewsText json views }

/-- What a refresh ends with. -/
def refreshed (json : Bool) (t : Option Task) : Output :=
  match t with
  | some (.pageRefresh _ (.finished true)) =>
    { code := 0, out := refreshText json true, err := line Feedback.refreshLoading }
  | _ =>
    { code := 1, out := refreshText json false,
      err := line Feedback.refreshLoading ++ failure "transition graph could not be refreshed" }

/-- The selection that a command asks for on a page. -/
def wishOf (tl : Timeline Line) (o : OrderArguments) (scope : Scope) (action : String) : Wish :=
  .select ⟨tl.desk.page, ⟨o.order⟩, scope⟩ action

theorem runSet_eq (tl : Timeline Line) (json : Bool) {o : OrderArguments} (scope : Scope)
    (action : String) (hurl : o.setUrl.isNone = false) (d : Disk) :
    runSet ⟨d, tl⟩ json o scope action =
      let bound := tl.bindPage o.descriptors
      let ran := bound.run (wishOf bound o scope action)
      (⟨Cache.save d ran.1.desk.store.cache, ran.1⟩, selected json ran.2 ran.1.desk.views) := by
  simp only [runSet, hurl, Workplace.bindPage_eq, Workplace.run_eq, Workplace.desk, wishOf,
    selected]
  rcases (tl.bindPage o.descriptors).run _ with ⟨tl', _ | (s | ⟨page, r⟩ | r)⟩ <;> rfl

theorem runRefresh_eq (tl : Timeline Line) (json : Bool) (d : Disk) :
    runRefresh ⟨d, tl⟩ json =
      let ran := (tl.bindPage []).run .refreshPage
      (⟨Cache.save d ran.1.desk.store.cache, ran.1⟩, refreshed json ran.2) := by
  simp only [runRefresh, Workplace.bindPage_eq, Workplace.run_eq, refreshed]
  rcases (tl.bindPage []).run .refreshPage with
    ⟨tl', _ | (s | ⟨page, r | _ | _ | (_ | _)⟩ | r)⟩ <;> rfl

/-- What a command does at a workplace with a timeline: it leaves the store as it is, or runs a task
and puts its cache on the disk. The disk is not looked at. -/
theorem exists_runCommand (json : Bool) (c : Command) {tl : Timeline Line} {st : Store}
    (h : tl.Idle st) : ∃ (tl' : Timeline Line) (output : Output),
      ((∀ d, runCommand ⟨d, tl⟩ json c = (⟨d, tl'⟩, output)) ∧
        tl'.desk.store = st ∧ tl'.backend = tl.backend) ∨
      ((∀ d, runCommand ⟨d, tl⟩ json c = (⟨Cache.save d tl'.desk.store.cache, tl'⟩, output)) ∧
        ∃ bound : Timeline Line, bound.Idle st ∧ bound.backend = tl.backend ∧
          bound.Reaches tl') := by
  cases c with
  | «show» o =>
    exact ⟨tl.bindPage o.descriptors,
      { code := 0, out := viewsText json (tl.bindPage o.descriptors).desk.views },
      Or.inl ⟨fun d => rfl, h.store, rfl⟩⟩
  | set o scope action =>
    cases hurl : o.setUrl.isNone with
    | true =>
      refine ⟨tl, { code := 1, err := failure "--set-url is required to change a state" },
        Or.inl ⟨fun d => ?_, h.store, rfl⟩⟩
      simp [runCommand, runSet, hurl]
    | false =>
      exact ⟨_, _, Or.inr ⟨runSet_eq tl json scope action hurl,
        tl.bindPage o.descriptors, h.bindPage _, rfl, Timeline.run_reaches _ _⟩⟩
  | refresh =>
    exact ⟨_, _, Or.inr ⟨runRefresh_eq tl json, tl.bindPage [], h.bindPage _, rfl,
      Timeline.run_reaches _ _⟩⟩

/-- The timeline that a run starts with. -/
def startOf (s : Settings) (cache : Cache) (client : Client) (network : Http.Network) :
    Timeline Line where
  session := Workplace.sessionWith s cache
  backend := ⟨client, network⟩

theorem idle_startOf (s : Settings) (cache : Cache) (client : Client) (network : Http.Network) :
    (startOf s cache client network).Idle (Store.starting cache s.metaUrl) :=
  ⟨rfl, rfl, rfl⟩

theorem open?_eq (s : Settings) (d : Disk) (network : Http.Network) :
    Workplace.open? s d network =
      match Client.ofCookie? s.baseUrl s.cookie with
      | .error error => .error ⟨error⟩
      | .ok client => .ok ⟨(Cache.openAt d s.cacheUrl).1,
          startOf s (Cache.openAt d s.cacheUrl).2 client network⟩ := by
  unfold Workplace.open?
  generalize Cache.openAt d s.cacheUrl = opened
  cases Client.ofCookie? s.baseUrl s.cookie <;> rfl

/-- A run at a terminal: the environment, the network and the words. -/
structure Start where
  environment : Dict String
  network : Http.Network
  words : List String

namespace Start

/-- What a run on a disk ends with. -/
def on (r : Start) (d : Disk) : Ended := run r.environment d r.network r.words

/-- A run on a disk whose settings name a location for the cache. -/
def Uses (r : Start) (raw : String) (d : Disk) : Prop :=
  ∀ a, Arguments.parse? r.words = some a → (settingsOf r.environment d a).cacheUrl = raw

/-- A run whose settings are the same on two disks. -/
def Agrees (r : Start) (d e : Disk) : Prop :=
  ∀ a, Arguments.parse? r.words = some a →
    settingsOf r.environment d a = settingsOf r.environment e a

variable {r : Start} {a : Arguments} {s : Settings}

theorem on_of_misuse (h : Arguments.parse? r.words = none) (d : Disk) :
    r.on d = ⟨d, r.network, { code := 2 }⟩ := by
  simp [on, run, h]

theorem on_of_unopened {error : TransportError} (ha : Arguments.parse? r.words = some a)
    (hs : settingsOf r.environment d a = s)
    (hc : Client.ofCookie? s.baseUrl s.cookie = .error error) :
    r.on d = ⟨d, r.network, { code := 1, err := openFailure ⟨error⟩ }⟩ := by
  simp [on, run, ha, hs, open?_eq, hc]

theorem on_of_opened {client : Client} (ha : Arguments.parse? r.words = some a)
    (hs : settingsOf r.environment d a = s)
    (hc : Client.ofCookie? s.baseUrl s.cookie = .ok client) :
    r.on d =
      let ran := runCommand ⟨(Cache.openAt d s.cacheUrl).1,
        startOf s (Cache.openAt d s.cacheUrl).2 client r.network⟩ a.json a.command
      ⟨ran.1.disk, ran.1.timeline.backend.network, ran.2⟩ := by
  simp only [on, run, ha, hs, open?_eq, hc]

/-- A database file stays one when it is written to. -/
theorem exists_rows_of_reaches {tl tl' : Timeline Line} (h : tl.Reaches tl')
    (hc : ∃ rows, tl.desk.store.cache = .database ⟨some place, false, rows⟩) :
    ∃ rows, tl'.desk.store.cache = .database ⟨some place, false, rows⟩ := by
  refine h.cache (P := fun c => ∃ rows, c = .database ⟨some place, false, rows⟩) ?_ hc
  rintro _ c' text ⟨rows, rfl⟩ hw
  exact ⟨rows.insert Cache.graphKey ⟨text, .clock⟩, (Except.ok.inj hw).symm⟩

/-- What a run with a database file ends with is decided by its settings and by what is in the
file, and by nothing else on the disk. The file is a database when the run is over, and the same one
unless a graph was received. -/
theorem exists_ended (hraw : r.Uses raw d) : ∃ (output : Output) (network : Http.Network)
    (rows' : Table), (r.network.graphsSince network = [] → rows' = rows) ∧
      ∀ e, Cache.Stands e raw place rows → r.Agrees d e → (r.on e).output = output ∧
        (r.on e).network = network ∧ Cache.Stands (r.on e).disk raw place rows' := by
  cases ha : Arguments.parse? r.words with
  | none =>
    refine ⟨{ code := 2 }, r.network, rows, fun _ => rfl, fun e he _ => ?_⟩
    rw [on_of_misuse ha]
    exact ⟨rfl, rfl, he⟩
  | some a =>
    obtain rfl := hraw a ha
    cases hc : Client.ofCookie? (settingsOf r.environment d a).baseUrl
      (settingsOf r.environment d a).cookie with
    | error error =>
      refine ⟨{ code := 1, err := openFailure ⟨error⟩ }, r.network, rows, fun _ => rfl,
        fun e he hsame => ?_⟩
      rw [on_of_unopened ha (hsame a ha).symm hc]
      exact ⟨rfl, rfl, he⟩
    | ok client =>
      have hidle := idle_startOf (settingsOf r.environment d a)
        (.database ⟨some place, false, rows⟩) client r.network
      obtain ⟨tl', output, ⟨hrun, -⟩ | ⟨hrun, bound, hbound, hbackend, gs, hmoves⟩⟩ :=
        exists_runCommand a.json a.command hidle
      · refine ⟨output, tl'.backend.network, rows, fun _ => rfl, fun e he hsame => ?_⟩
        rw [on_of_opened ha (hsame a ha).symm hc, he.cache]
        simp only [hrun]
        exact ⟨trivial, trivial, he.again⟩
      · have hopen : bound.desk.store.cache = .database ⟨some place, false, rows⟩ := by
          rw [hbound.store, Store.starting_eq]
        obtain ⟨rows', hrows⟩ := exists_rows_of_reaches ⟨gs, hmoves⟩ ⟨rows, hopen⟩
        refine ⟨output, tl'.backend.network, rows', fun hnone => ?_, fun e he hsame => ?_⟩
        · -- Without a graph the store that the run ends with is the one that it has started with.
          have hgraphs := hmoves.network.2
          rw [hbackend] at hgraphs
          have hstill := (hmoves.still (hgraphs.symm.trans hnone) hbound.still).session.store
          rw [← hbound.store] at hstill
          have hsame := hrows.symm.trans ((congrArg Store.cache hstill).trans hopen)
          simpa using hsame
        · rw [on_of_opened ha (hsame a ha).symm hc, he.cache]
          simp only [hrun, hrows]
          exact ⟨trivial, trivial, he.save rows'⟩

/-- A run that receives no graph leaves the database file as it is. -/
theorem on_of_no_graph (hd : Cache.Stands d raw place rows) (hraw : r.Uses raw d)
    (hnone : r.network.graphsSince (r.on d).network = []) :
    Cache.Stands (r.on d).disk raw place rows := by
  obtain ⟨output, network, rows', hkept, hended⟩ := exists_ended hraw
  obtain ⟨-, rfl, hstands⟩ := hended d hd fun _ _ => rfl
  exact hkept hnone ▸ hstands

/-- What a refresh fetches whose settings and client are given. -/
def fetched (r : Start) (s : Settings) (client : Client) : Except RefreshError Graph :=
  match s.metaUrl with
  | none => .error .noEndpoint
  | some url => Refresh.resultOf (Line.transitions ⟨client, r.network⟩ url).2.result

/-- A refresh ends well when it fetches a graph, which the database file holds from then on. -/
theorem on_refresh {client : Client} (hd : Cache.Stands d raw place rows)
    (ha : Arguments.parse? r.words = some a) (hcommand : a.command = .refresh)
    (hs : settingsOf r.environment d a = s) (hraw : s.cacheUrl = raw)
    (hc : Client.ofCookie? s.baseUrl s.cookie = .ok client) :
    r.network.graphsSince (r.on d).network = (r.fetched s client).toOption.toList ∧
      (r.on d).output.code = (if (r.fetched s client).isOk then 0 else 1) ∧
      ∀ g, r.fetched s client = .ok g →
        Cache.Stands (r.on d).disk raw place (rows.insert Cache.graphKey ⟨g.text, .clock⟩) := by
  obtain rfl := hraw
  rw [on_of_opened ha hs hc, hd.cache, hcommand]
  simp only [runCommand, runRefresh_eq]
  generalize hbound : (startOf s (.database ⟨some place, false, rows⟩) client r.network).bindPage
    [] = bound
  have hidle : bound.Idle _ := hbound ▸ (idle_startOf s _ client r.network).bindPage []
  have hcalm : bound.session.Calm := hbound ▸ Session.calm_opened _ _ []
  have htimers : bound.desk.timers = [] := hbound ▸ rfl
  have hline : bound.backend = ⟨client, r.network⟩ := hbound ▸ rfl
  have hurl : bound.desk.store.metaUrl = s.metaUrl := by rw [hidle.store, Store.starting_eq]
  have hopen : bound.desk.store.cache = .database ⟨some place, false, rows⟩ := by
    rw [hidle.store, Store.starting_eq]
  have hfetched : bound.fetched.2 = r.fetched s client := by
    rw [Timeline.fetched, hurl, hline, fetched]
    cases s.metaUrl <;> rfl
  obtain ⟨htask, hstore, hbackend⟩ :=
    Timeline.run_refreshPage hcalm (by simp [Session.task?, hidle.tasks]) htimers hidle.pending
  have hgraphs := bound.fetched_graphs
  rw [hline, ← hbackend, hfetched] at hgraphs
  refine ⟨hgraphs, ?_, fun g hg => ?_⟩
  · rw [htask, hfetched]
    cases r.fetched s client <;> rfl
  · rw [hfetched, hg] at hstore
    have hwritten : bound.desk.store.cache.write Cache.graphKey g.text =
        .ok (.database ⟨some place, false, rows.insert Cache.graphKey ⟨g.text, .clock⟩⟩) := by
      rw [hopen]
      rfl
    rw [hstore]
    change Cache.Stands (Cache.save _ (bound.desk.store.adopted g).cache) _ _ _
    rw [Store.adopted_of_write hwritten]
    exact hd.save _

/-- A refresh receives a graph and ends well, or receives none and ends with a failure. -/
theorem on_refresh_cases (hd : Cache.Stands d raw place rows)
    (ha : Arguments.parse? r.words = some a) (hcommand : a.command = .refresh)
    (hs : settingsOf r.environment d a = s) (hraw : s.cacheUrl = raw) :
    (∃ g client, Client.ofCookie? s.baseUrl s.cookie = .ok client ∧
      r.network.graphsSince (r.on d).network = [g] ∧ (r.on d).output.code = 0 ∧
      Cache.Stands (r.on d).disk raw place (rows.insert Cache.graphKey ⟨g.text, .clock⟩)) ∨
    r.network.graphsSince (r.on d).network = [] ∧ (r.on d).output.code = 1 := by
  cases hc : Client.ofCookie? s.baseUrl s.cookie with
  | error error =>
    rw [on_of_unopened ha hs hc]
    exact Or.inr ⟨Http.Network.graphsSince_self _, rfl⟩
  | ok client =>
    obtain ⟨hgraphs, hcode, hafter⟩ := on_refresh hd ha hcommand hs hraw hc
    cases hfetched : r.fetched s client with
    | error error =>
      rw [hfetched] at hgraphs hcode
      exact Or.inr ⟨hgraphs, hcode⟩
    | ok g =>
      rw [hfetched] at hgraphs hcode
      exact Or.inl ⟨g, client, rfl, hgraphs, hcode, hafter g hfetched⟩

end Start

/-- What a graph offers for the three controls of an order that have an endpoint: the actions that
have a name, in their order. -/
def offered (g : Graph) (o : OrderArguments) : List Offer :=
  [(.order, o.orderState), (.payment, o.paymentState), (.delivery, o.deliveryState)].map
    fun (scope, state) => ⟨⟨o.order⟩, scope, state,
      (g.actionsFor scope state).filter fun a => !a.isEmpty, some ⟨"Bereit. Status wählen.", .info⟩⟩

theorem firstOfEach_descriptors (o : OrderArguments) :
    Desk.firstOfEach [] o.descriptors = o.descriptors := by
  simp [OrderArguments.descriptors, Desk.firstOfEach]

theorem views_startOf (s : Settings) (cache : Cache) (client : Client) (network : Http.Network)
    (o : OrderArguments) :
    ((startOf s cache client network).bindPage o.descriptors).desk.views =
      o.descriptors.map fun ds =>
        (Control.bind (Store.starting cache s.metaUrl).graph 0 ds).view := by
  change (List.filter _ ([] ++ (Desk.firstOfEach [] o.descriptors).map _)).map _ = _
  rw [firstOfEach_descriptors, List.nil_append, List.filter_eq_self.mpr, List.map_map]
  · rfl
  · intro c hc
    obtain ⟨ds, -, rfl⟩ := List.mem_map.mp hc
    rw [Control.bind_seat]
    rfl

/-- A control with an endpoint offers what a graph permits. -/
theorem offerOf_bind (g : Graph) {ds : Descriptor} (h : ds.setUrl.isSome = true) :
    offerOf (Control.bind g 0 ds).view = ⟨ds.order, ds.scope, ds.state,
      (g.actionsFor ds.scope ds.state).filter fun a => !a.isEmpty,
      some ⟨"Bereit. Status wählen.", .info⟩⟩ := by
  simp only [offerOf, Control.bind, Control.isBound, h, if_true, Control.view, Control.derive,
    View.actions, Control.permitted, Control.actions_choicesFor]
  rfl

theorem isLabelled_bind (g : Graph) {ds : Descriptor} (h : ds.setUrl.isSome = true) :
    IsLabelled (Control.bind g 0 ds).view where
  state := rfl
  actions c hc hne := by
    simp only [Control.bind, Control.isBound, h, if_true, Control.view, Control.derive] at hc
    rcases Control.choicesFor_cases (Control.permitted _ g) with ⟨-, h⟩ | ⟨-, h⟩ <;> rw [h] at hc
    · exact absurd (by rw [List.mem_singleton.mp hc]) hne
    · rcases List.mem_cons.mp hc with rfl | hc
      · exact absurd rfl hne
      · obtain ⟨a, -, rfl⟩ := List.mem_map.mp hc
        rfl

namespace Start
variable {r : Start} {a : Arguments} {o : OrderArguments}

/-- What is shown of an order is what the graph in the database file offers. -/
theorem on_show {client : Client} (hd : Cache.Stands d raw place rows)
    (ha : Arguments.parse? r.words = some a) (hcommand : a.command = .show o) (hraw : r.Uses raw d)
    (hc : Client.ofCookie? (settingsOf r.environment d a).baseUrl
      (settingsOf r.environment d a).cookie = .ok client)
    (hg : Store.cached? (.database ⟨some place, false, rows⟩) = some g)
    (hurl : o.setUrl.isSome = true) :
    ∃ w out, Workplace.open? (settingsOf r.environment d a) d r.network = .ok w ∧
      (w.bindPage o.descriptors).desk.views.map offerOf = offered g o ∧
      (r.on d).output = { code := 0, out := out } ∧ Prints a.json (offered g o) out := by
  obtain rfl := hraw a ha
  generalize hs : settingsOf r.environment d a = s at hc hd ⊢
  -- The three controls of an order have its endpoint in common.
  have hbound : ∀ ds ∈ o.descriptors, ds.setUrl.isSome = true := by
    intro ds hds
    simp only [OrderArguments.descriptors, List.mem_cons, List.not_mem_nil, or_false] at hds
    rcases hds with rfl | rfl | rfl <;> exact hurl
  have hviews := views_startOf s (Cache.openAt d s.cacheUrl).2 client r.network o
  rw [hd.cache, Store.starting_eq, hg, Option.getD_some] at hviews
  have hoffers : (((startOf s (.database ⟨some place, false, rows⟩) client r.network).bindPage
      o.descriptors).desk.views).map offerOf = offered g o := by
    rw [hviews, List.map_map]
    exact List.map_congr_left fun ds hds => offerOf_bind g (hbound ds hds)
  have hlabelled : ∀ v ∈ ((startOf s (.database ⟨some place, false, rows⟩) client
      r.network).bindPage o.descriptors).desk.views, IsLabelled v := by
    intro v hv
    obtain ⟨ds, hds, rfl⟩ := List.mem_map.mp (hviews ▸ hv)
    exact isLabelled_bind g (hbound ds hds)
  have hprints := prints_viewsText a.json hlabelled
  refine ⟨_, _, by rw [open?_eq, hc], ?_, by rw [on_of_opened ha hs hc, hcommand]; rfl, ?_⟩
  · rw [hd.cache]
    exact hoffers
  · rw [hd.cache]
    exact hoffers ▸ hprints

end Start

theorem ofCookie?_congr {base cookie : Option String} {client : Client}
    (h : Client.ofCookie? base cookie = .ok client) (other : Option String) :
    ∃ client', Client.ofCookie? base other = .ok client' := by
  unfold Client.ofCookie? Client.make? at h ⊢
  cases base with
  | none => exact ⟨_, rfl⟩
  | some raw =>
    simp only at h ⊢
    cases hu : Url.read none raw with
    | error error => simp [hu] at h
    | ok u => exact ⟨_, rfl⟩

/-- The disk after a row of runs. -/
def diskAfter (d : Disk) (rs : List Start) : Disk := rs.foldl (fun d r => (r.on d).disk) d

/-- What the runs of a row end with. -/
def outputs : Disk → List Start → List Output
  | _, [] => []
  | d, r :: rs => (r.on d).output :: outputs (r.on d).disk rs

/-- A row of runs with one location for the cache that receive no graph. -/
def Quiet (raw : String) : Disk → List Start → Prop
  | _, [] => True
  | d, r :: rs => r.Uses raw d ∧ r.network.graphsSince (r.on d).network = [] ∧
      Quiet raw (r.on d).disk rs

/-- A row of runs with the same settings on two disks, and one location for the cache. -/
def Alike (raw : String) : Disk → Disk → List Start → Prop
  | _, _, [] => True
  | d, e, r :: rs => r.Uses raw d ∧ r.Agrees d e ∧ Alike raw (r.on d).disk (r.on e).disk rs

theorem Quiet.stands {rs : List Start} (h : Quiet raw d rs) (hd : Cache.Stands d raw place rows) :
    Cache.Stands (diskAfter d rs) raw place rows := by
  induction rs generalizing d with
  | nil => exact hd
  | cons r rs ih =>
    obtain ⟨hraw, hnone, hrest⟩ := h
    exact ih hrest (Start.on_of_no_graph hd hraw hnone)

theorem Alike.outputs_eq {rs : List Start} (h : Alike raw d e rs)
    (hd : Cache.Stands d raw place rows) (he : Cache.Stands e raw place rows) :
    outputs d rs = outputs e rs := by
  induction rs generalizing d e rows with
  | nil => rfl
  | cons r rs ih =>
    obtain ⟨hraw, hsame, hrest⟩ := h
    obtain ⟨output, network, rows', -, hended⟩ := Start.exists_ended hraw
    obtain ⟨hd', -, hdisk⟩ := hended d hd fun _ _ => rfl
    obtain ⟨he', -, hdisk'⟩ := hended e he hsame
    rw [outputs, outputs, hd', he', ih hrest hdisk hdisk']

/-- One run of the console after another, for every refresh whose cache is a database file that can
be opened and written to. It ends well when it has received a graph. Then every later run that shows
an order binds a page that offers for each scope the actions of that graph which have a name, in
their order, and prints these and no other ones, as long as the settings are the same and no graph
was received in between. A set that is refused receives one too. When the refresh fails, all later
runs tell what they would have told without it. -/
theorem graph_across_runs (r : Start) (disk : Disk) (a : Arguments)
    (ha : Arguments.parse? r.words = some a) (hcommand : a.command = .refresh)
    (husable : Cache.IsUsable disk (settingsOf r.environment disk a).cacheUrl) :
    ((r.on disk).output.code = 0 ↔ ∃ g, r.network.graphsSince (r.on disk).network = [g]) ∧
    (∀ g, r.network.graphsSince (r.on disk).network = [g] →
      ∀ rs : List Start, Quiet (settingsOf r.environment disk a).cacheUrl (r.on disk).disk rs →
      ∀ (later : Start) (b : Arguments) (o : OrderArguments),
        Arguments.parse? later.words = some b → b.command = .show o → o.setUrl.isSome = true →
        (settingsOf later.environment (diskAfter (r.on disk).disk rs) b).cacheUrl =
          (settingsOf r.environment disk a).cacheUrl →
        (settingsOf later.environment (diskAfter (r.on disk).disk rs) b).baseUrl =
          (settingsOf r.environment disk a).baseUrl →
        ∃ w out, Workplace.open? (settingsOf later.environment (diskAfter (r.on disk).disk rs) b)
            (diskAfter (r.on disk).disk rs) later.network = .ok w ∧
          (w.bindPage o.descriptors).desk.views.map offerOf = offered g o ∧
          (later.on (diskAfter (r.on disk).disk rs)).output = { code := 0, out := out } ∧
          Prints b.json (offered g o) out) ∧
    ((r.on disk).output.code = 1 →
      ∀ rs : List Start, Alike (settingsOf r.environment disk a).cacheUrl disk (r.on disk).disk rs →
        outputs disk rs = outputs (r.on disk).disk rs) := by
  obtain ⟨place, rows, hopens, hagain⟩ := husable
  have hd := Cache.stands_of_opens hopens hagain
  have hraw : r.Uses (settingsOf r.environment disk a).cacheUrl disk := by
    intro b hb
    rw [Option.some.inj (ha.symm.trans hb)]
  rcases Start.on_refresh_cases hd ha hcommand rfl rfl with
    ⟨g, client, hc, hgraphs, hcode, hafter⟩ | ⟨hgraphs, hcode⟩
  · refine ⟨by simp [hcode, hgraphs], ?_, fun hfail => by omega⟩
    intro g' hg' rs hrs later b o hb hshow hurl hcache hbase
    obtain rfl : g = g' := by simpa using hgraphs.symm.trans hg'
    have hlater : later.Uses (settingsOf r.environment disk a).cacheUrl
        (diskAfter (r.on disk).disk rs) := by
      intro c hb'
      rw [← Option.some.inj (hb.symm.trans hb'), hcache]
    obtain ⟨client', hc'⟩ := ofCookie?_congr hc
      (settingsOf later.environment (diskAfter (r.on disk).disk rs) b).cookie
    refine Start.on_show (hrs.stands hafter) hb hshow hlater (hbase ▸ hc') ?_ hurl
    refine (Cache.cached?_iff_holds _).mpr ⟨⟨g.text, .clock⟩, ?_, Or.inl rfl, g.ofText?_text⟩
    exact Dict.get?_insert _ _ _
  · refine ⟨by simp [hcode, hgraphs], by simp [hgraphs], fun _ rs hrs => ?_⟩
    exact hrs.outputs_eq hd (Start.on_of_no_graph hd hraw hgraphs)

/-- The environment of a program whose graph comes from a server. -/
def sampleEnvironment : Dict String :=
  Dict.ofList [("APP__BASE_URL", ""), ("APP__META_URL", "http://[::1]/meta"),
    ("APP__CACHE_URL", "cache.db"), ("APP__COOKIE", "")]

/-- The settings that it gives. -/
def sampleSettings (progress : Bool) : Settings :=
  { metaUrl := some "http://[::1]/meta", cacheUrl := "sqlite://cache.db", progress := progress }

/-- What is on the disk decides about the progress alone. -/
theorem settingsOf_sampleEnvironment (d : Disk) (json : Bool) (c : Command) :
    ∃ progress, settingsOf sampleEnvironment d ⟨none, json, c⟩ = sampleSettings progress := by
  have hbase : Settings.fromEnvironment sampleEnvironment Settings.baseUrlNames = some "" := by
    decide +kernel
  have hmeta : Settings.fromEnvironment sampleEnvironment Settings.metaUrlNames =
      some "http://[::1]/meta" := by decide +kernel
  have hcache : Settings.fromEnvironment sampleEnvironment Settings.cacheUrlNames =
      some "cache.db" := by decide +kernel
  have hcookie : Settings.fromEnvironment sampleEnvironment Settings.cookieNames = some "" := by
    decide +kernel
  have hblank : nonBlank? "" = none := by decide +kernel
  have hurl : nonBlank? "http://[::1]/meta" = some "http://[::1]/meta" := by decide +kernel
  have hplace : Cache.normalize "cache.db" = "sqlite://cache.db" := by decide +kernel
  simp [settingsOf, Settings.onDisk, Settings.load, Settings.overlay, hbase, hmeta, hcache, hcookie,
    hblank, hurl, hplace, sampleSettings]

/-- An answer with a graph of one action that has a name, and one that has none. -/
def sampleBody : String :=
  "\x7b\"ok\":true,\"transitions\":\x7b\"order\":\x7b\"open\":[\"\",\"ship\"]\x7d\x7d\x7d"

/-- A refresh that receives it. -/
def sampleRefresh : Start where
  environment := sampleEnvironment
  network := ⟨some ("[::1]".toList, 80), [.whole 200 sampleBody.toUTF8.toList], []⟩
  words := ["refresh"]

/-- The graph that it receives. -/
def sampleGraph : Graph :=
  ⟨Dict.ofList [("order", Dict.ofList [("open", ["", "ship"])])]⟩

/-- An order with an endpoint for its changes. -/
def sampleOrder : OrderArguments := { order := "1", setUrl := some "/set" }

/-- A run that shows it, without a network. -/
def sampleShow : Start where
  environment := sampleEnvironment
  network := ⟨none, [], []⟩
  words := ["show", "--order-id", "1", "--set-url", "/set"]

theorem fetched_sampleRefresh (progress : Bool) :
    sampleRefresh.fetched (sampleSettings progress) ⟨none, none⟩ = .ok sampleGraph := by
  cbv

/-- What that run prints. -/
def sampleLines : String :=
  "[1] order    Offen (open)\n    - ship               Versenden\n" ++
  "    i Bereit. Status wählen.\n" ++
  "[1] payment  Offen (open)\n    i Bereit. Status wählen.\n" ++
  "[1] delivery Offen (open)\n    i Bereit. Status wählen.\n"

theorem printsLines_sample : PrintsLines (offered sampleGraph sampleOrder) sampleLines := by
  have hoffers : offered sampleGraph sampleOrder =
      [⟨⟨"1"⟩, .order, "open", ["ship"], some ⟨"Bereit. Status wählen.", .info⟩⟩,
        ⟨⟨"1"⟩, .payment, "open", [], some ⟨"Bereit. Status wählen.", .info⟩⟩,
        ⟨⟨"1"⟩, .delivery, "open", [], some ⟨"Bereit. Status wählen.", .info⟩⟩] := by
    decide +kernel
  have horder : InColumn 8 "order" "order   " := ⟨3, by decide, by decide⟩
  have hpayment : InColumn 8 "payment" "payment " := ⟨1, by decide, by decide⟩
  have hdelivery : InColumn 8 "delivery" "delivery" := ⟨0, by decide, by decide⟩
  have hship : InColumn 18 "ship" "ship              " := ⟨14, by decide, by decide⟩
  have hlines := PrintsLines.cons
    (o := ⟨⟨"1"⟩, .order, "open", ["ship"], some ⟨"Bereit. Status wählen.", .info⟩⟩)
    horder (.cons hship .nil) (.info _)
    (.cons (o := ⟨⟨"1"⟩, .payment, "open", [], some ⟨"Bereit. Status wählen.", .info⟩⟩)
      hpayment .nil (.info _)
      (.cons (o := ⟨⟨"1"⟩, .delivery, "open", [], some ⟨"Bereit. Status wählen.", .info⟩⟩)
        hdelivery .nil (.info _) .nil))
  rw [hoffers]
  refine Eq.subst (motive := PrintsLines _) ?_ hlines
  decide +kernel

theorem graph_across_runs_kept :
    (sampleShow.on (sampleRefresh.on Cache.bareDisk).disk).output =
      { code := 0, out := sampleLines } := by
  have hfirst : (Cache.openAt Cache.bareDisk "sqlite://cache.db").2 =
      .database ⟨some ["home", "cache.db"], false, Dict.empty⟩ := by decide +kernel
  have hsecond : (Cache.openAt (Cache.openAt Cache.bareDisk "sqlite://cache.db").1
      "sqlite://cache.db").2 =
        .database ⟨some ["home", "cache.db"], false, Dict.empty⟩ := by decide +kernel
  have hopens := Cache.opens_of_openAt hfirst
  have hagain := Cache.opens_of_openAt hsecond
  have hwords : Arguments.parse? sampleRefresh.words = some ⟨none, false, .refresh⟩ := by
    decide +kernel
  obtain ⟨progress, hs⟩ := settingsOf_sampleEnvironment Cache.bareDisk false .refresh
  have hclient : Client.ofCookie? none none = .ok ⟨none, none⟩ := rfl
  obtain ⟨hgraphs, -⟩ :=
    Start.on_refresh (Cache.stands_of_opens hopens ⟨_, hagain⟩) hwords rfl hs rfl hclient
  rw [fetched_sampleRefresh] at hgraphs
  obtain ⟨-, hkept, -⟩ := graph_across_runs sampleRefresh Cache.bareDisk _ hwords rfl
    (hs ▸ ⟨_, _, hopens, _, hagain⟩)
  obtain ⟨progress', hs'⟩ := settingsOf_sampleEnvironment (sampleRefresh.on Cache.bareDisk).disk
    false (.show sampleOrder)
  obtain ⟨w, out, -, -, hout, hprints⟩ := hkept sampleGraph hgraphs [] trivial sampleShow
    ⟨none, false, .show sampleOrder⟩ sampleOrder (by decide +kernel) rfl rfl
    ((congrArg Settings.cacheUrl hs').trans (congrArg Settings.cacheUrl hs).symm)
    ((congrArg Settings.baseUrl hs').trans (congrArg Settings.baseUrl hs).symm)
  cases hprints with
  | lines hlines => exact hlines.unique printsLines_sample ▸ hout

end Console
end OrderDesk
