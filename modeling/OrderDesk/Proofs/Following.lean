import OrderDesk.Proofs.Rejection

/-! What a fetched graph does to the controls of a page. It comes in over two ways, a refresh that
an operator asked for and a selection that was refused; on both the idle controls with an endpoint
follow the graph, and all other controls stay as they are, but for the one that was refused. -/
namespace OrderDesk

variable {d e : Desk} {s : Session} {sel : Selection} {c : Control} {g : Graph} {seat : Seat}
  {seats : List Seat} {page id : Nat} {ev : Event} {es : List Event} {stage : Stage}
  {reply : SetReply} {m : MetaResult} {store : Store} {schedule : Schedule}
  {ds : List Descriptor}

/-- A view that follows a graph: its choices are those that the graph permits in the state that it
shows, and all else is as it was. -/
def View.following (v : View) (g : Graph) : View :=
  { v with
    choices := Control.choicesFor (g.actionsFor v.scope v.state)
    selectable := !v.busy && !(g.actionsFor v.scope v.state).isEmpty }

/-- A view that follows a graph as the request for its control ends, which was refused. -/
def View.refused (v : View) (g : Graph) : View :=
  View.following { v with
    busy := false
    progress := false
    feedback := some (Feedback.error (Feedback.unavailable (g.actionsFor v.scope v.state))) } g

namespace Control

/-- What a control shows when a graph was fetched: it follows if it has an endpoint and is idle. -/
def followed (g : Graph) (c : Control) : View :=
  if c.isBound && !c.busy then c.view.following g else c.view

/-- What a control shows when a graph was fetched for the request of the control in a seat, which
was refused. -/
def followedFor (seat : Seat) (g : Graph) (c : Control) : View :=
  if c.seat = seat then c.view.refused g else c.followed g

theorem populate_populate (c : Control) (g : Graph) :
    (c.touch (.populate g)).touch (.populate g) = c.touch (.populate g) := by
  cases hb : c.setUrl <;> simp [touch, isBound, derive, permitted, hb]

/-- Controls that are brought up to date one by one are each brought up to date on their own,
however often they are named. -/
theorem undergo_populates (c : Control) (g : Graph) (seats : List Seat) :
    c.undergo (seats.map fun other => (other, .populate g)) =
      if c.seat ∈ seats then c.touch (.populate g) else c := by
  induction seats generalizing c with
  | nil => rfl
  | cons other seats ih =>
    rw [List.map_cons, undergo_cons]
    by_cases ho : c.seat = other
    · simp [ho, ih, populate_populate]
    · simp [ho, ih]

theorem view_populate (c : Control) (g : Graph) :
    (c.touch (.populate g)).view = if c.isBound then c.view.following g else c.view := by
  cases hb : c.setUrl <;>
    simp [touch, isBound, derive, permitted, view, View.following, hb, Bool.and_comm]

/-- The end of a request that was refused, after its control was brought up to date. -/
theorem view_populate_refused (hb : c.isBound = true) (g : Graph) :
    view { c.touch (.populate g) with
      feedback := some (Feedback.error (Feedback.unavailable (c.permitted g)))
      progress := false
      busy := false } = c.view.refused g := by
  have hsome : c.setUrl.isSome = true := hb
  simp [touch, derive, permitted, view, View.refused, View.following, isBound, hsome]

end Control

namespace Desk

/-- With one control to a seat, the request for the control there makes it busy. -/
theorem isBusy_of_mem (hn : d.seats.Nodup) (hc : c ∈ d.controls) : d.isBusy c.seat = c.busy := by
  rw [isBusy, control?_of_mem hn hc, Option.any_some]

/-- A repopulation of a page brings up to date those of its controls that are idle. -/
theorem perform_repopulation (hn : d.seats.Nodup) (page : Nat) :
    (d.perform (d.repopulation page)).controls = d.controls.map fun c =>
      if c.seat.page = page ∧ c.busy = false then c.touch (.populate d.store.graph) else c := by
  have hrows : d.repopulation page =
      (((d.controlsOn page).filter fun c => !c.busy).map (·.seat)).map fun other =>
        (other, .populate d.store.graph) := by
    simp [repopulation, List.map_map, Function.comp_def]
  rw [perform_eq, hrows]
  refine List.map_congr_left fun c hc => ?_
  rw [Control.undergo_populates]
  have hmem : c.seat ∈ ((d.controlsOn page).filter fun c => !c.busy).map (·.seat) ↔
      c.seat.page = page ∧ c.busy = false := by
    constructor
    · intro hm
      obtain ⟨c', hc', hseat⟩ := List.mem_map.mp hm
      obtain ⟨hon, hidle⟩ := List.mem_filter.mp hc'
      obtain ⟨hc', hpage⟩ := List.mem_filter.mp hon
      rw [← isBusy_of_mem hn hc, ← hseat, isBusy_of_mem hn hc']
      exact ⟨by simpa using hpage, by simpa using hidle⟩
    · rintro ⟨hpage, hidle⟩
      exact List.mem_map_of_mem (List.mem_filter.mpr
        ⟨List.mem_filter.mpr ⟨hc, by simpa using hpage⟩, by simpa using hidle⟩)
  simp only [hmem]

end Desk

namespace Task

/-- A refresh that has got a graph has the store take it and then the idle controls of its page
follow. -/
theorem settle_refreshed (d : Desk) (page : Nat) (g : Graph) :
    (pageRefresh page (.fetch (.adopt g))).settle d =
      ({ d with store := d.store.adopted g }.perform
        ({ d with store := d.store.adopted g }.repopulation page),
        pageRefresh page (.finished true)) := by
  rw [settle_step rfl, settle_step rfl, settle_step rfl, settle_step rfl]
  exact settle_survey _ page

/-- One that got none is over, and the desk is as it was. -/
theorem settle_unrefreshed (d : Desk) (page : Nat) (error : RefreshError) :
    (pageRefresh page (.fetch (.done (.error error)))).settle d =
      (d, pageRefresh page (.finished false)) :=
  (settle_step rfl).trans (settle_of_rests rfl)

end Task

/-- A repopulation of the one page there is lets the idle controls with an endpoint follow the graph
of the store. -/
theorem Desk.views_repopulated (hn : d.seats.Nodup) (hs : d.Single) :
    (d.perform (d.repopulation 0)).controls.map (·.view) =
      d.controls.map (·.followed d.store.graph) := by
  rw [perform_repopulation hn, List.map_map]
  refine List.map_congr_left fun c hc => ?_
  have hpage : c.seat.page = 0 := hs c.seat (List.mem_map_of_mem hc)
  cases hb : c.busy <;> simp [Control.followed, hpage, hb, Control.view_populate]

namespace Selection

/-- A selection that has fetched a graph lets the idle controls follow, and its own. -/
theorem controls_renewed (hn : d.seats.Nodup) (hseats : sel.seats = d.seats) (g : Graph) :
    (sel.renewed d g).controls = d.controls.map fun c =>
      if c.seat = sel.seat ∨ c.busy = false then c.touch (.populate g) else c := by
  rw [renewed, Desk.perform_eq]
  refine List.map_congr_left fun c hc => ?_
  have hmem : c.seat ∈ sel.seats.filter (sel.reaches d) ↔ c.seat = sel.seat ∨ c.busy = false := by
    rw [List.mem_filter, hseats, reaches, Desk.isBusy_of_mem hn hc]
    simp [Desk.seats, List.mem_map_of_mem hc]
  rw [renewals, Control.undergo_populates]
  simp only [hmem]

/-- The actions on offer after that are those that the graph permits in the state of its control. -/
theorem offered_eq_permitted (hc : d.control? sel.seat = some c) (g : Graph) :
    sel.offered d g = c.permitted g := by
  have hcontrol : (sel.renewed d g).control? sel.seat =
      some (c.undergo (sel.renewals d sel.seats g)) := by
    have hc : Desk.control? { d with store := d.store.adopted g } sel.seat = some c := hc
    rw [renewed, Desk.control?_perform, hc, Option.map_some]
  rw [offered, hcontrol, Option.elim_some, renewals, Control.undergo_populates]
  split
  · cases hb : c.setUrl <;> simp [Control.touch, Control.isBound, Control.derive, hb]
    rfl
  · rfl

/-- When a selection that was refused has fetched a graph, the idle controls with an endpoint
follow, and its own as the request for it ends. -/
theorem views_refused (hn : d.seats.Nodup) (hseats : sel.seats = d.seats)
    (hbound : (d.setUrl? sel.seat).isSome) (g : Graph) :
    ((sel.renewed d g).perform
      (sel.closing (Feedback.unavailable (sel.offered d g)))).controls.map (·.view) =
      d.controls.map (·.followedFor sel.seat g) := by
  rw [Desk.perform_eq, controls_renewed hn hseats, List.map_map, List.map_map]
  refine List.map_congr_left fun c hc => ?_
  simp only [Function.comp_apply]
  by_cases hseat : c.seat = sel.seat
  · have hcontrol : d.control? sel.seat = some c := hseat ▸ Desk.control?_of_mem hn hc
    have hb : c.isBound = true := by simpa [Desk.setUrl?, hcontrol, Control.isBound] using hbound
    have hthere : (c.touch (.populate g)).seat = sel.seat := by rw [Control.touch_seat, hseat]
    rw [offered_eq_permitted hcontrol, undergo_closing, if_pos (Or.inl hseat), if_pos hthere,
      Control.view_populate_refused hb, Control.followedFor, if_pos hseat]
  · rw [undergo_closing]
    cases hb : c.busy <;>
      simp [hseat, hb, Control.followedFor, Control.followed, Control.view_populate]

end Selection

namespace Session

/-- A session at one page with one control to a seat, in which all tasks rest and each selection has
the page before it and an endpoint to go to. -/
structure OnePage (s : Session) : Prop extends s.Paged where
  nodup : s.desk.seats.Nodup
  pages : s.desk.pages = 1
  bound : s.Bound

theorem onePage_opened (store : Store) (schedule : Schedule) (ds : List Descriptor) :
    (opened store schedule ds).OnePage where
  toPaged := paged_opened store schedule ds
  nodup := Desk.seats_nodup_first store schedule ds
  pages := rfl
  bound := fun _ hp => by simp [opened] at hp

theorem onePage_turn (hs : s.OnePage) (he : ev.isPaged s.desk.seats) : (s.turn ev).OnePage where
  toPaged := paged_turn hs.toPaged he
  nodup := s.turn_seats ev ▸ hs.nodup
  pages := (s.play_asked ev.toRest).pages.trans hs.pages
  bound := bound_turn hs.calm hs.bound ev

theorem onePage_turns (hes : ∀ ev ∈ es, ev.isPaged (opened store schedule ds).desk.seats) :
    ((opened store schedule ds).turns es).OnePage := by
  suffices h : ∀ s : Session, s.OnePage → s.desk.seats = (opened store schedule ds).desk.seats →
      (s.turns es).OnePage from h _ (onePage_opened store schedule ds) rfl
  induction es with
  | nil => exact fun s hs _ => hs
  | cons ev es ih =>
    intro s hs hseats
    refine ih (fun f hf => hes f (List.mem_cons_of_mem ev hf)) _ (onePage_turn hs ?_) ?_
    · rw [hseats]
      exact hes ev List.mem_cons_self
    · rw [s.turn_seats, hseats]

/-- All controls are on the one page there is. -/
theorem OnePage.views (hs : s.OnePage) : s.desk.views = s.desk.controls.map (·.view) := by
  have hall : s.desk.controlsOn s.desk.page = s.desk.controls := by
    refine List.filter_eq_self.mpr fun c hc => ?_
    rw [Desk.page, hs.pages, hs.single c.seat (List.mem_map_of_mem hc)]
    rfl
  rw [Desk.views, hall]

/-- To ask for the graph changes nothing that the page shows. -/
theorem views_asked (hnew : s.task? id = none) :
    (s.turn (.begin id .refreshPage)).desk.views = s.desk.views := by
  rw [turn_begin hnew]
  cases hurl : s.desk.store.metaUrl with
  | none => rw [Task.settle_refreshPage_none hurl]
  | some url => rw [Task.settle_refreshPage_some hurl]; rfl

/-- A refresh that brings a graph. -/
theorem turn_refreshed {url : String} (hs : s.OnePage)
    (ht : s.task? id = some (.pageRefresh 0 (.fetch (.asked url))))
    (hm : Refresh.graph? m = some g) :
    (s.turn (.answer id (.transitions m))).task? id = some (.pageRefresh 0 (.finished true)) ∧
      (s.turn (.answer id (.transitions m))).desk.views =
        s.desk.controls.map (·.followed g) := by
  have hend : s.turn (.answer id (.transitions m)) = s.put id
      ((Task.pageRefresh 0 (.fetch (.adopt g))).settle s.desk) := by
    rw [turn_answer ht, Task.answered, Refresh.answered_of_graph? hm]
  refine ⟨?_, ?_⟩
  · rw [hend, task?_put ht, Task.settle_refreshed]
  · rw [(onePage_turn hs rfl).views, hend, Task.settle_refreshed]
    have hgraph := Store.adopted_graph s.desk.store g
    have hviews := Desk.views_repopulated (d := { s.desk with store := s.desk.store.adopted g })
      hs.nodup hs.single
    rw [hgraph] at hviews
    exact hviews

/-- A refresh that brings none. -/
theorem turn_unrefreshed {url : String}
    (ht : s.task? id = some (.pageRefresh 0 (.fetch (.asked url))))
    (hm : Refresh.graph? m = none) :
    (s.turn (.answer id (.transitions m))).task? id = some (.pageRefresh 0 (.finished false)) ∧
      (s.turn (.answer id (.transitions m))).desk = s.desk := by
  obtain ⟨error, ha⟩ := Refresh.answered_of_graph?_none hm
  have hend : s.turn (.answer id (.transitions m)) =
      s.put id (s.desk, .pageRefresh 0 (.finished false)) := by
    rw [turn_answer ht, Task.answered, ha, Task.settle_unrefreshed]
  exact ⟨by rw [hend, task?_put ht], by rw [hend]; rfl⟩

/-- A refusal that lets a selection go on to fetch the graph. -/
theorem turn_refused {epoch : Nat} {url endpoint : String} (hs : s.OnePage)
    (ht : s.task? id = some (.selection sel)) (hstage : sel.stage = .sent epoch url)
    (hr : reply.isSuccess = false) (hurl : s.desk.store.metaUrl = some endpoint) :
    (s.turn (.answer id (.setState (.ok reply)))).task? id =
        some (.selection (sel.moveTo (.fetch reply (.asked endpoint)))) ∧
      (s.turn (.answer id (.setState (.ok reply)))).desk.views = s.desk.views := by
  have hend : s.turn (.answer id (.setState (.ok reply))) = s.put id
      (((s.desk.stopTimers sel.seat epoch).touch sel.seat .endProgress).ask
        (.transitions endpoint), .selection (sel.moveTo (.fetch reply (.asked endpoint)))) := by
    have hurl : (s.desk.stopTimers sel.seat epoch).store.metaUrl = some endpoint := hurl
    rw [turn_answer ht, Task.answered_of_sent hstage, Task.settle_refused rfl hr, hurl]
    rfl
  refine ⟨by rw [hend, task?_put ht], ?_⟩
  rw [(onePage_turn hs rfl).views, hs.views, hend]
  simp only [put, Desk.ask, Desk.touch, List.map_map]
  refine List.map_congr_left fun c _ => ?_
  by_cases h : c.seat = sel.seat <;> simp [h, Control.touch, Control.view, Control.isBound]

/-- The graph that a selection fetches after a refusal. -/
theorem turn_rejected {url : String} (hs : s.OnePage) (ht : s.task? id = some (.selection sel))
    (hstage : sel.stage = .fetch reply (.asked url)) (hm : Refresh.graph? m = some g) :
    (∃ available message, (s.turn (.answer id (.transitions m))).task? id =
        some (.selection (sel.moveTo (.finished (.rejected (some available) message))))) ∧
      (s.turn (.answer id (.transitions m))).desk.views =
        s.desk.controls.map (·.followedFor sel.seat g) := by
  have hmem := mem_of_task? ht
  have hholds : sel.holdsClaim = true := by simp [Selection.holdsClaim, hstage]
  obtain ⟨hseat, hseats⟩ := hs.placed _ hmem sel rfl
  have hend : s.turn (.answer id (.transitions m)) = s.put id
      ((Task.selection (sel.moveTo (.fetch reply (.adopt g)))).settle s.desk) := by
    rw [turn_answer ht, Task.answered_of_asked hstage, Refresh.answered_of_graph? hm]
  rw [Task.settle_fetched rfl] at hend
  refine ⟨⟨_, _, by rw [hend, task?_put ht]; rfl⟩, ?_⟩
  rw [(onePage_turn hs rfl).views, hend]
  exact Selection.views_refused hs.nodup (hseats (hseat hholds)) (hs.bound _ hmem sel rfl hholds) g

/-- In every run of turns on a page, whatever of its controls is busy: a refresh that an operator
asks for shows nothing as it asks. When the answer brings a graph, the idle controls with an
endpoint follow it, and when it brings none, or there was no endpoint to ask, nothing is shown. A
selection that is refused shows nothing as it goes on to ask for the graph. When the answer brings
one, the idle controls with an endpoint follow it, of all orders, and its own control follows it as
the request for it ends. All other controls show what they showed. -/
theorem refresh_follows (id : Nat)
    (hes : ∀ ev ∈ es, ev.isPaged (opened store schedule ds).desk.seats)
    (hs : s = (opened store schedule ds).turns es) :
    (s.task? id = none →
      (s.turn (.begin id .refreshPage)).desk.views = s.desk.views ∧
      (s.turn (.begin id .refreshPage)).task? id = some (.pageRefresh 0
        (s.desk.store.metaUrl.elim (.finished false) fun url => .fetch (.asked url)))) ∧
    (∀ url m, s.task? id = some (.pageRefresh 0 (.fetch (.asked url))) →
      (∀ g, Refresh.graph? m = some g →
        (s.turn (.answer id (.transitions m))).task? id = some (.pageRefresh 0 (.finished true)) ∧
        (s.turn (.answer id (.transitions m))).desk.views =
          s.desk.controls.map fun c => c.followed g) ∧
      (Refresh.graph? m = none →
        (s.turn (.answer id (.transitions m))).task? id = some (.pageRefresh 0 (.finished false)) ∧
        (s.turn (.answer id (.transitions m))).desk.views = s.desk.views)) ∧
    ∀ sel reply, s.task? id = some (.selection sel) →
      (∀ epoch url endpoint, sel.stage = .sent epoch url → reply.isSuccess = false →
        s.desk.store.metaUrl = some endpoint →
          (s.turn (.answer id (.setState (.ok reply)))).task? id =
            some (.selection (sel.moveTo (.fetch reply (.asked endpoint)))) ∧
          (s.turn (.answer id (.setState (.ok reply)))).desk.views = s.desk.views) ∧
      ∀ url m g, sel.stage = .fetch reply (.asked url) → Refresh.graph? m = some g →
        (s.desk.setUrl? sel.seat).isSome ∧
        (∃ available message, (s.turn (.answer id (.transitions m))).task? id =
          some (.selection (sel.moveTo (.finished (.rejected (some available) message))))) ∧
        (s.turn (.answer id (.transitions m))).desk.views =
          s.desk.controls.map fun c => c.followedFor sel.seat g := by
  have hone : s.OnePage := hs ▸ onePage_turns hes
  refine ⟨fun hnew => ⟨views_asked hnew, ?_⟩, fun url m ht => ⟨fun g hm => ?_, fun hm => ?_⟩,
    fun sel reply ht => ⟨fun epoch url endpoint hstage hr hurl => ?_,
      fun url m g hstage hm => ⟨?_, turn_rejected hone ht hstage hm⟩⟩⟩
  · have hpage : s.desk.page = 0 := by rw [Desk.page, hone.pages]
    rw [task?_turn_begin hnew]
    cases hurl : s.desk.store.metaUrl with
    | none => rw [Task.settle_refreshPage_none hurl, hpage]; rfl
    | some url => rw [Task.settle_refreshPage_some hurl, hpage]; rfl
  · exact turn_refreshed hone ht hm
  · obtain ⟨htask, hdesk⟩ := turn_unrefreshed ht hm
    exact ⟨htask, congrArg Desk.views hdesk⟩
  · exact turn_refused hone ht hstage hr hurl
  · have hholds : sel.holdsClaim = true := by simp [Selection.holdsClaim, hstage]
    exact hone.bound _ (mem_of_task? ht) sel rfl hholds

/-- The answer with a graph that lets an open order be cancelled. -/
def follow : Event := .answer 0 (.transitions (.ok ⟨true, some revised⟩))

/-- The graph is asked for, and then an action is selected for the payment. -/
def meanwhile : List Event :=
  [.begin 0 .refreshPage, .begin 1 (.select ⟨0, ⟨"10001"⟩, .payment⟩ "paid")]

/-- A change of the order is refused. -/
def denial : List Event :=
  [.begin 0 (.select sampleSeat "process"),
    .answer 0 (.setState (.ok ⟨409, ⟨false, none, none, none, none⟩⟩))]

/-- The control for the order follows when it is idle and when it is the one that was refused, and
the one for the payment keeps its request. -/
theorem refresh_follows_order :
    (((remote.turns meanwhile).turn follow).desk.views.map fun v => (v.actions, v.busy)) =
      [(["cancel"], false), ([], true)] ∧
    (((remote.turns denial).turn follow).desk.views.map fun v => (v.actions, v.busy)) =
      [(["cancel"], false), ([], false)] := by
  have hasked : (remote.turns meanwhile).task? 0 =
      some (.pageRefresh 0 (.fetch (.asked "/meta"))) := rfl
  have hrefused : (remote.turns denial).task? 0 = some (.selection ⟨sampleSeat, "process",
      samplePage.map fun x => ⟨0, x.order, x.scope⟩,
      .fetch ⟨409, ⟨false, none, none, none, none⟩⟩ (.asked "/meta")⟩) := rfl
  have hmeanwhile : ∀ ev ∈ meanwhile, ev.isPaged remote.desk.seats := by decide
  have hselected : ∀ ev ∈ denial, ev.isPaged remote.desk.seats := by decide
  obtain ⟨-, hrefresh, -⟩ := refresh_follows 0 hmeanwhile rfl
  obtain ⟨-, -, hreject⟩ := refresh_follows 0 hselected rfl
  have hfollowed := ((hrefresh _ (.ok ⟨true, some revised⟩) hasked).1 revised rfl).2
  have hrejected := ((hreject _ _ hrefused).2 _ (.ok ⟨true, some revised⟩) revised rfl rfl).2.2
  rw [follow]
  exact ⟨(congrArg _ hfollowed).trans (by decide), (congrArg _ hrejected).trans (by decide)⟩

end Session
end OrderDesk
