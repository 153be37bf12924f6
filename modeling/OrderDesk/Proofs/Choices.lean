import OrderDesk.Proofs.Calls
import OrderDesk.Proofs.Replacement

/-! The choices of a control and the graph of the store. The store takes over a graph as a whole,
but the controls follow one by one, and those that other requests hold are passed over. -/
namespace OrderDesk

variable {d : Desk} {s s' : Session} {g : Graph} {seat : Seat} {seats : List Seat} {ev : Event}
  {es : List Event}

/-- A regular event on a page that leaves the graph of the store to the tasks of the page, and lets
no one else change what controls offer. -/
def Event.isUsual (seats : List Seat) : Event → Bool
  | .begin _ .refreshStore | .repopulate | .replace _ | .restore => false
  | .touch _ u => u.keepsChoices
  | e => e.isRegular seats

theorem Event.isPaged_of_isUsual (h : ev.isUsual seats) : ev.isPaged seats := by
  cases ev with
  | begin id wish => cases wish <;> first | exact h | rfl
  | _ => rfl

namespace Session

/-- The graph that the choices of the control in a seat come from after an event, if they are
derived anew. -/
def renews? (s : Session) (seat : Seat) : Event → Option Graph
  | .answer id reply => (s.task? id).bind (·.renews? s.desk reply seat)
  | _ => none

/-- Whether an event fetches the graph while another request holds the control in a seat. -/
def passes (s : Session) (seat : Seat) : Event → Bool
  | .answer id reply =>
    (s.task? id).any fun t => (t.fetched? reply).isSome && t.passes s.desk seat
  | _ => false

/-- The graphs that the choices of the control in a seat come from in the turns of a row of events,
one after another. -/
def renewals (s : Session) (seat : Seat) : List Event → List Graph
  | [] => []
  | e :: es => (s.renews? seat e).toList ++ (s.turn e).renewals seat es

/-- Whether in the turns of a row of events a graph is fetched while another request holds the
control in a seat, and the choices of that control are not derived anew afterwards. -/
def misses (s : Session) (seat : Seat) : List Event → Bool
  | [] => false
  | e :: es =>
    s.passes seat e && ((s.turn e).renewals seat es).isEmpty || (s.turn e).misses seat es

/-- A session at one page to which all its tasks belong. -/
structure Closed (s : Session) : Prop extends s.Paged where
  nodup : s.desk.seats.Nodup
  page : s.desk.page = 0
  locals : ∀ p ∈ s.tasks, p.2.Local 0

theorem closed_opened (store : Store) (schedule : Schedule) (ds : List Descriptor) :
    (opened store schedule ds).Closed where
  toPaged := paged_opened store schedule ds
  nodup := Desk.seats_nodup_first store schedule ds
  page := rfl
  locals := fun _ hp => by simp [opened] at hp

theorem local_ofWish {id : Nat} {wish : Wish} (h : (Event.begin id wish).isUsual seats) :
    (Task.ofWish d wish).Local d.page := by
  cases wish with
  | select | submit => trivial
  | refreshPage => rfl
  | refreshStore => simp [Event.isUsual] at h

theorem closed_turn (hs : s.Closed) (he : ev.isUsual s.desk.seats) : (s.turn ev).Closed := by
  have hseats := s.turn_seats ev
  have hpages : (s.turn ev).desk.pages = s.desk.pages := (s.play_asked ev.toRest).pages
  refine ⟨paged_turn hs.toPaged (Event.isPaged_of_isUsual he), hseats ▸ hs.nodup, ?_, ?_⟩
  · rw [Desk.page, hpages]
    exact hs.page
  · intro p hp
    rcases (turn_spec hs.calm ev).task_cases hp with
      hp | ⟨wish, rfl, -, ht⟩ | ⟨reply, t, rfl, hm, -, ht⟩
    · exact hs.locals p hp
    · rw [ht, ← hs.page]
      exact Task.local_settle (local_ofWish he)
    · rw [ht]
      exact Task.local_settle (Task.local_answered (hs.locals _ (mem_of_task? hm)) reply)

/-- An event that is about no task leaves the choices as they are. -/
theorem offersAt_apply (hid : ev.id? = none) (he : ev.isUsual seats)
    (ho : s.desk.OffersAt seat g) : (s.apply ev).desk.OffersAt seat g := by
  cases ev with
  | begin | step | settle | answer | drop => simp [Event.id?] at hid
  | repopulate | replace | restore => simp [Event.isUsual] at he
  | fire timer => exact (ho.touch (u := .progress timer.epoch timer.text) rfl).congr rfl
  | hold other =>
    simp only [apply, Desk.claim?]
    split
    · exact ho.touch rfl
    · exact ho
  | release other =>
    simp only [apply]
    split
    · exact ho.touch rfl
    · exact ho
  | touch other u => exact ho.touch he
  | _ => exact ho.congr rfl

/-- A turn leaves in the store the graph that is fetched in it, if one is. -/
theorem graph_turn (hs : s.Calm) (he : ev.isUsual seats) :
    (s.turn ev).desk.store.graph = (s.fetched? ev).getD s.desk.store.graph := by
  rw [store_turn hs, stored_graph]
  cases ev with
  | replace | restore => simp [Event.isUsual] at he
  | _ => rfl

/-- The choices of a control come after a turn from the graph that they are derived from anew in it,
if they are, or else from the same graph as before. -/
theorem Turn.offersAt (h : s.Turn ev s') (hs : s.Closed) (he : ev.isUsual s.desk.seats)
    (hseat : seat ∈ s.desk.seats) (ho : s.desk.OffersAt seat g) :
    s'.desk.OffersAt seat ((s.renews? seat ev).getD g) := by
  have hpage : seat.page = 0 := hs.single seat hseat
  cases h with
  | still hnone =>
    cases ev with
    | answer id reply => simpa [renews?, hnone id reply rfl] using ho
    | _ => exact ho
  | @begun id wish _ =>
    have hplaced := placed_ofWish hs.single (Event.isPaged_of_isUsual he)
    have hlocal : (Task.ofWish s.desk wish).Local seat.page := by
      rw [hpage, ← hs.page]
      exact local_ofWish he
    have htodo : (Task.ofWish s.desk wish).todo = [] := by cases wish <;> rfl
    have hrenewal : (Task.ofWish s.desk wish).renewal? s.desk seat = none := by
      cases wish with
      | refreshPage => exact ite_self _
      | _ => rfl
    have hend := Task.offersAt_settle hs.single hs.nodup hseat hplaced hlocal htodo ho
    rw [hrenewal] at hend
    exact hend
  | @answered id reply t ht =>
    have hm := mem_of_task? ht
    have hr := hs.calm.rests _ hm
    have hcontrols := (t.answered_frame s.desk reply default).1
    have hseats := Desk.seats_congr hcontrols
    have hplaced := Task.meets_answered (fun _ hp => hp.answered reply) (hs.placed _ hm)
    have hsingle : (t.answered s.desk reply).1.Single :=
      fun other ho => hs.single other (hseats ▸ ho)
    have hlocal : t.Local seat.page := by
      rw [hpage]
      exact hs.locals _ hm
    have hend := Task.offersAt_settle hsingle (hseats ▸ hs.nodup) (hseats ▸ hseat) hplaced
      (Task.local_answered hlocal reply) (Task.idle_answered hr reply seat).1 (ho.congr hcontrols)
    rw [Task.renewal?_answered hr hlocal] at hend
    simpa [renews?, ht, put] using hend
  | @dropped id t ht =>
    obtain ⟨f, hf, ⟨hd, -⟩ | ⟨sel, -, -, hd⟩⟩ := t.dropped_cases s.desk
    · exact ho.congr (hd ▸ hf)
    · change (t.dropped s.desk).OffersAt seat _
      rw [hd]
      exact (ho.congr hf).touch rfl
  | other hid =>
    have hnone : s.renews? seat ev = none := by
      cases ev with
      | answer => simp [Event.id?] at hid
      | _ => rfl
    rw [hnone]
    exact offersAt_apply hid he ho

/-- The graph that choices are derived anew from in a turn is the one in the store after it. -/
theorem graph_of_renews? (hs : s.Closed) (he : ev.isUsual seats)
    (hr : s.renews? seat ev = some g) : (s.turn ev).desk.store.graph = g := by
  rw [graph_turn hs.calm he]
  cases ev with
  | answer id reply =>
    obtain ⟨t, ht, hr⟩ := Option.bind_eq_some_iff.mp hr
    simpa [fetched?, ht] using Task.fetched?_of_renews? hr
  | _ => simp [renews?] at hr

/-- The store keeps its graph in a turn that neither derives the choices of a control anew nor
passes it over. -/
theorem graph_of_passes (hs : s.Closed) (he : ev.isUsual seats) (hr : s.renews? seat ev = none)
    (hp : s.passes seat ev = false) : (s.turn ev).desk.store.graph = s.desk.store.graph := by
  have hnone : s.fetched? ev = none := by
    cases ev with
    | answer id reply =>
      cases ht : s.task? id with
      | none => simp [fetched?, ht]
      | some t =>
        cases hf : t.fetched? reply with
        | none => simp [fetched?, ht, hf]
        | some graph =>
          have hpassed := Task.passes_of_fetched? hf (by simpa [renews?, ht] using hr)
          simp [passes, ht, hf, hpassed] at hp
    | _ => rfl
  rw [graph_turn hs.calm he, hnone, Option.getD_none]

theorem getLast?_renewals_cons (s : Session) (seat : Seat) (ev : Event) (es : List Event)
    (g : Graph) : (s.renewals seat (ev :: es)).getLast?.getD g =
      ((s.turn ev).renewals seat es).getLast?.getD ((s.renews? seat ev).getD g) := by
  rw [renewals, List.getLast?_append]
  cases ((s.turn ev).renewals seat es).getLast? <;> cases s.renews? seat ev <;> rfl

/-- In every run of turns the choices of a control come from the graph that they were last derived
anew from. -/
theorem offersAt_turns (hs : s.Closed) (hes : ∀ e ∈ es, e.isUsual s.desk.seats)
    (hseat : seat ∈ s.desk.seats) (ho : s.desk.OffersAt seat g) :
    (s.turns es).desk.OffersAt seat ((s.renewals seat es).getLast?.getD g) := by
  induction es generalizing s g with
  | nil => exact ho
  | cons ev es ih =>
    have he := hes ev List.mem_cons_self
    have hseats := s.turn_seats ev
    rw [turns_cons, getLast?_renewals_cons]
    exact ih (closed_turn hs he) (fun f hf => hseats ▸ hes f (List.mem_cons_of_mem ev hf))
      (hseats ▸ hseat) ((turn_spec hs.calm ev).offersAt hs he hseat ho)

/-- Choices that come from the graph of the store, or are derived anew, come from the graph of the
store in the end, unless the control misses one. -/
theorem renewals_current (hs : s.Closed) (hes : ∀ e ∈ es, e.isUsual s.desk.seats)
    (hm : s.misses seat es = false) (hg : g = s.desk.store.graph ∨ s.renewals seat es ≠ []) :
    (s.renewals seat es).getLast?.getD g = (s.turns es).desk.store.graph := by
  induction es generalizing s g with
  | nil => exact hg.resolve_right (by simp [renewals])
  | cons ev es ih =>
    have he := hes ev List.mem_cons_self
    have hseats := s.turn_seats ev
    obtain ⟨hnow, hlater⟩ := Bool.or_eq_false_iff.mp hm
    rw [turns_cons, getLast?_renewals_cons]
    have hrest := fun f hf => hseats ▸ hes f (List.mem_cons_of_mem ev hf)
    refine ih (closed_turn hs he) hrest hlater ?_
    cases hr : s.renews? seat ev with
    | some fetched => exact Or.inl (graph_of_renews? hs he hr).symm
    | none =>
      cases hp : s.passes seat ev with
      -- The control is passed over, and as it does not miss the graph it is to follow later.
      | true => exact Or.inr (by simpa [hp] using hnow)
      | false =>
        rw [graph_of_passes hs he hr hp]
        simpa [renewals, hr] using hg

/-- In every run of turns that leaves the graph to the tasks of the page, a control with an endpoint
offers what the graph that its choices were last derived from permits in its present state. This is
the graph of the store, unless a graph was fetched while another request held the control and the
choices were not derived anew since. -/
theorem choices_history (store : Store) (schedule : Schedule) {ds : List Descriptor}
    {x : Descriptor} (hx : x ∈ Desk.firstOfEach [] ds) (hurl : x.setUrl.isSome)
    (hes : ∀ e ∈ es, e.isUsual (opened store schedule ds).desk.seats) :
    ∃ c, ((opened store schedule ds).turns es).desk.control? ⟨0, x.order, x.scope⟩ = some c ∧
      c.choices = Control.choicesFor (c.permitted
        (((opened store schedule ds).renewals ⟨0, x.order, x.scope⟩ es).getLast?.getD
          store.graph)) ∧
      ((opened store schedule ds).misses ⟨0, x.order, x.scope⟩ es = false →
        c.choices = Control.choicesFor (c.permitted
          ((opened store schedule ds).turns es).desk.store.graph)) := by
  have hs := closed_opened store schedule ds
  have hfirst := control?_opened store schedule hx
  have hseat : (⟨0, x.order, x.scope⟩ : Seat) ∈ (opened store schedule ds).desk.seats :=
    Desk.exists_control_iff.mp ⟨_, hfirst⟩
  have ho : (opened store schedule ds).desk.OffersAt ⟨0, x.order, x.scope⟩ store.graph := by
    intro c hc
    obtain rfl := Option.some.inj (hfirst.symm.trans hc)
    exact Control.offers_bind store.graph 0 x
  have htouched : (opened store schedule ds).desk.Touched
      ((opened store schedule ds).turns es).desk := by
    rw [turns_eq_play]
    exact play_touched _ _
  obtain ⟨c, hc⟩ := htouched.exists_control hfirst
  have hbound : c.isBound = true := by
    have hkept := htouched.setUrl?_eq ⟨0, x.order, x.scope⟩
    rw [Desk.setUrl?, Desk.setUrl?, hc, hfirst] at hkept
    have hseturl : c.setUrl = x.setUrl := hkept.trans (Control.bind_setUrl store.graph 0 x)
    rwa [Control.isBound, hseturl]
  have hend := (offersAt_turns hs hes hseat ho c hc hbound).2
  refine ⟨c, hc, hend, fun hm => ?_⟩
  rw [renewals_current (g := store.graph) hs hes hm (Or.inl rfl)] at hend
  exact hend

/-- A graph that lets an open order be cancelled and one in progress be completed. -/
def revised : Graph :=
  (Graph.empty.withActions .order "open" ["cancel"]).withActions .order "in_progress" ["complete"]

/-- A refresh fetches that graph while a change of the order waits for its answer. -/
def overtaken (result : SetResult) : List Event :=
  [.begin 0 (.select sampleSeat "process"), .begin 1 .refreshPage,
    .answer 1 (.transitions (.ok ⟨true, some revised⟩)), .answer 0 (.setState result)]

/-- The answer that the order is in progress. -/
def processed : SetResult := .ok ⟨200, ⟨true, some "in_progress", none, none, none⟩⟩

theorem choices_history_processed :
    ∃ c, (remote.turns (overtaken processed)).desk.control? sampleSeat = some c ∧
      c.choices = Control.choicesFor ["complete"] := by
  have hx : ⟨⟨"10001"⟩, .order, "open", some "/set-order"⟩ ∈ Desk.firstOfEach [] samplePage := by
    decide
  have hes : ∀ ev ∈ overtaken processed, ev.isUsual remote.desk.seats := by decide
  have hm : remote.misses sampleSeat (overtaken processed) = false := by decide
  obtain ⟨c, hc, -, hchoices⟩ :=
    choices_history { sampleStore with metaUrl := some "/meta" } Schedule.usual hx rfl hes
  refine ⟨c, hc, (hchoices hm).trans ?_⟩
  have hstate : c.state = "in_progress" :=
    Option.some.inj ((congrArg (Option.map Control.state) hc).symm.trans rfl)
  rw [Control.permitted, Desk.seat_of_control? hc, hstate]
  rfl

/-- The answer that does not come through. -/
def unprocessed : SetResult := .error (.status "/set-order" 503)

theorem choices_outdated :
    (∀ ev ∈ overtaken unprocessed, ev.isUsual remote.desk.seats) ∧
    ((remote.turns (overtaken unprocessed)).tasks.map fun p => p.2.isFinished) = [true, true] ∧
    ∃ c, (remote.turns (overtaken unprocessed)).desk.control? sampleSeat = some c ∧
      c.isBound = true ∧ c.choices ≠ Control.choicesFor
        (c.permitted (remote.turns (overtaken unprocessed)).desk.store.graph) :=
  ⟨by decide, by decide, _, rfl, by decide, by decide⟩

end Session
end OrderDesk
