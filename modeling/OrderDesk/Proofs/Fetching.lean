import OrderDesk.Proofs.Move

/-! A refresh for a page that runs by itself, with nothing else going on. It asks for the graph,
waits for the answer if that takes time, and is over with it. -/
namespace OrderDesk

variable {st : Store} {s : Session} {t : Task} {id : Nat}

/-- A refresh for a page stays one. -/
theorem Task.settle_pageRefresh (d : Desk) (page : Nat) (r : PageRefresh) :
    ∃ r', ((pageRefresh page r).settle d).2 = pageRefresh page r' :=
  settle_keeps (P := fun _ t => ∃ r', t = pageRefresh page r') (by
    rintro d t ⟨r, rfl⟩ -
    exact ⟨_, rfl⟩) ⟨r, rfl⟩

namespace Session

/-- A refresh for a page is over with the answer that it waits for. -/
theorem turn_answer_page {page : Nat} {url : String} (hs : s.Calm)
    (ht : s.task? id = some (.pageRefresh page (.fetch (.asked url)))) (m : MetaResult) :
    (s.turn (.answer id (.transitions m))).task? id =
        some (.pageRefresh page (.finished (Refresh.resultOf m).isOk)) ∧
      (s.turn (.answer id (.transitions m))).desk.store =
        (Refresh.resultOf m).toOption.elim s.desk.store s.desk.store.adopted := by
  have hreturns : s.returns? id (.answer id (.transitions m)) = some (Refresh.resultOf m) := by
    rw [returns?, if_pos rfl, ht]
    rfl
  obtain ⟨hfetched, t, hthere, hreturned⟩ := returned_turn hs hreturns
  refine ⟨?_, by rw [store_turn hs, stored, hfetched]⟩
  obtain ⟨r, hr⟩ := Task.settle_pageRefresh s.desk page (.fetch (Refresh.answered m))
  have hsettled : (s.turn (.answer id (.transitions m))).task? id = some (.pageRefresh page r) := by
    rw [turn_answer ht, task?_put ht]
    exact congrArg some hr
  obtain rfl := Option.some.inj (hthere.symm.trans hsettled)
  rw [hthere, show r = .finished (Refresh.resultOf m).isOk from hreturned]

end Session

namespace Timeline
variable {β : Type} [Backend β] {tl : Timeline β}

/-- What a backend gives to a refresh, and the backend after it. -/
def fetched (tl : Timeline β) : β × Except RefreshError Graph :=
  match tl.desk.store.metaUrl with
  | none => (tl.backend, .error .noEndpoint)
  | some url => ((Backend.transitions tl.backend url).1,
      Refresh.resultOf (Backend.transitions tl.backend url).2.result)

/-- A task that needs no answer is pursued to where it rests. -/
theorem pursue_of_still {n : Nat} (h : (tl.apply (.settle id)).session.task? id = some t)
    (ha : t.awaits = none) : pursue (n + 1) tl id = tl.apply (.settle id) := by
  simp [pursue, h, ha]

theorem awaitWithin_of_finished (h : tl.isFinished id = true) (n : Nat) :
    awaitWithin n tl id = tl := by
  cases n <;> simp [awaitWithin, h]

/-- A refresh for a page that is pursued with its answer is over. -/
theorem pursue_answer (tl : Timeline β) {page : Nat} (n : Nat) {url : String} {m : MetaResult}
    (hs : tl.session.Calm)
    (ht : tl.session.task? id = some (.pageRefresh page (.fetch (.asked url)))) :
    pursue (n + 1) (tl.apply (.answer id (.transitions m))) id =
      { tl with session := tl.session.turn (.answer id (.transitions m)) } :=
  pursue_of_still (Session.turn_answer_page hs ht m).1 rfl

/-- A timeline in which a refresh for a page is over that has found a store. -/
structure Refreshed (st : Store) (id page : Nat) (res : Except RefreshError Graph)
    (tl : Timeline β) : Prop where
  task : tl.session.task? id = some (.pageRefresh page (.finished res.isOk))
  store : tl.desk.store = res.toOption.elim st st.adopted

theorem Refreshed.awaitWithin {page : Nat} {res : Except RefreshError Graph}
    (h : tl.Refreshed st id page res) (n : Nat) : Timeline.awaitWithin n tl id = tl := by
  refine awaitWithin_of_finished ?_ n
  rw [isFinished, h.task]
  rfl

omit [Backend β] in
/-- The task is taken away when it is over, and what it has done stays. -/
theorem Refreshed.collect {page : Nat} {res : Except RefreshError Graph}
    (h : tl.Refreshed st id page res) :
    (tl.collect id).2 = some (.pageRefresh page (.finished res.isOk)) ∧
      (tl.collect id).1.desk.store = res.toOption.elim st st.adopted ∧
      (tl.collect id).1.backend = tl.backend :=
  ⟨h.task, h.store, rfl⟩

/-- An answer on its way to a refresh for a page arrives, when nothing else is to come. -/
theorem await_arrival (tl : Timeline β) {page : Nat} {url : String} {m : MetaResult} {due : Nat}
    (hs : tl.session.Calm)
    (ht : tl.session.task? id = some (.pageRefresh page (.fetch (.asked url))))
    (htimers : tl.desk.timers = []) (hp : tl.pending = [⟨due, id, .transitions m⟩]) :
    (tl.await id).Refreshed tl.desk.store id page (Refresh.resultOf m) ∧
      (tl.await id).backend = tl.backend := by
  have hlive : 0 < tl.session.tasks.length := List.length_pos_of_mem (Session.mem_of_task? ht)
  have hfuel : 0 < tl.fuel := by
    rw [fuel, maxQuestions]
    omega
  obtain ⟨n, hfuel⟩ := Nat.exists_eq_add_one.mpr hfuel
  have hbusy : tl.isFinished id = false := by
    rw [isFinished, ht]
    rfl
  -- Nothing else is left to happen, so the answer is what comes next.
  have hnext : tl.next? none = some (tl.arrive ⟨due, id, .transitions m⟩) := by
    simp [next?, firstPending?, firstTimer?, hp, htimers]
  have hpassed := Session.calm_turn hs (.pass (due - tl.desk.now))
  have ht' : (tl.session.turn (.pass (due - tl.desk.now))).task? id =
      some (.pageRefresh page (.fetch (.asked url))) := by
    rw [Session.task?_turn_of_ne (by simp [Event.id?]), ht]
  obtain ⟨htask, hstore⟩ := Session.turn_answer_page hpassed ht' m
  rw [Session.store_turn hs] at hstore
  have harrive := pursue_answer (({ tl with
    pending := tl.pending.filter fun q => q.task != id }).passTo due) 2 hpassed ht' (m := m)
  have hdone : (tl.arrive ⟨due, id, .transitions m⟩).Refreshed tl.desk.store id page
      (Refresh.resultOf m) := by
    rw [arrive, maxQuestions, harrive]
    exact ⟨htask, hstore⟩
  have hawait : tl.await id = tl.arrive ⟨due, id, .transitions m⟩ := by
    rw [await, hfuel, Timeline.awaitWithin, hnext]
    simp only [hbusy, Bool.false_eq_true, if_false]
    exact hdone.awaitWithin n
  rw [hawait]
  refine ⟨hdone, ?_⟩
  rw [arrive, maxQuestions, harrive]
  rfl

/-- The timeline in which a new task rests for the first time. -/
def begin_ (tl : Timeline β) (wish : Wish) : Timeline β :=
  { tl with begun := tl.begun + 1, session := tl.session.turn (.begin tl.begun wish) }

theorem start_of_still {wish : Wish} (h : (tl.begin_ wish).session.task? tl.begun = some t)
    (ha : t.awaits = none) : (tl.start wish).1 = tl.begin_ wish :=
  pursue_of_still h ha

/-- A task that asks a question waits for its answer, or goes on with it at once. -/
theorem start_of_asking {wish : Wish} {q : Question}
    (h : (tl.begin_ wish).session.task? tl.begun = some t) (ha : t.awaits = some q) :
    (tl.start wish).1 =
      let (b, arrival) := Backend.reply tl.backend q
      let asked := { tl.begin_ wish with backend := b }
      match arrival.delay with
      | none => pursue 2 (asked.apply (.answer tl.begun arrival.result)) tl.begun
      | some delay =>
        { asked with
          pending := tl.pending ++
            [⟨(tl.begin_ wish).desk.now + delay, tl.begun, arrival.result⟩] } := by
  have hsettled : (({ tl with begun := tl.begun + 1 }).apply (.begin tl.begun wish)).apply
      (.settle tl.begun) = tl.begin_ wish := rfl
  rw [start, maxQuestions, pursue]
  simp only [hsettled, h, Option.bind_some, ha]
  rfl

/-- What a refresh for a page comes to that runs by itself, when nothing else goes on. -/
theorem run_refreshPage (hs : tl.session.Calm) (hnew : tl.session.task? tl.begun = none)
    (htimers : tl.desk.timers = []) (hpending : tl.pending = []) :
    (tl.run .refreshPage).2 =
        some (.pageRefresh tl.desk.page (.finished tl.fetched.2.isOk)) ∧
      (tl.run .refreshPage).1.desk.store =
        tl.fetched.2.toOption.elim tl.desk.store tl.desk.store.adopted ∧
      (tl.run .refreshPage).1.backend = tl.fetched.1 := by
  rw [run_eq]
  suffices h : ((tl.start .refreshPage).1.await tl.begun).Refreshed tl.desk.store tl.begun
      tl.desk.page tl.fetched.2 ∧
      ((tl.start .refreshPage).1.await tl.begun).backend = tl.fetched.1 by
    obtain ⟨htask, hstore, hbackend⟩ := h.1.collect
    exact ⟨htask, hstore, hbackend.trans h.2⟩
  have hcalm : (tl.begin_ .refreshPage).session.Calm := Session.calm_turn hs _
  have hbegun : (tl.begin_ .refreshPage).session = _ := Session.turn_begin hnew .refreshPage
  have hthere : (tl.begin_ .refreshPage).session.task? tl.begun = _ :=
    Session.task?_turn_begin hnew .refreshPage
  have hdesk : tl.session.desk = tl.desk := rfl
  rw [fetched]
  cases hurl : tl.desk.store.metaUrl with
  | none =>
    rw [hdesk, Task.settle_refreshPage_none hurl] at hbegun hthere
    have hdone : (tl.begin_ .refreshPage).Refreshed tl.desk.store tl.begun tl.desk.page
        (.error .noEndpoint) := ⟨hthere, congrArg (·.desk.store) hbegun⟩
    rw [start_of_still hthere rfl, await, hdone.awaitWithin]
    exact ⟨hdone, rfl⟩
  | some url =>
    rw [hdesk, Task.settle_refreshPage_some hurl] at hbegun hthere
    have hstore : (tl.begin_ .refreshPage).desk.store = tl.desk.store :=
      congrArg (·.desk.store) hbegun
    have htimers' : (tl.begin_ .refreshPage).desk.timers = [] :=
      (congrArg (·.desk.timers) hbegun).trans htimers
    rw [start_of_asking hthere rfl, ← hstore]
    rcases hr : Backend.transitions tl.backend url with ⟨b, delay, m⟩
    simp only [Backend.reply, hr]
    cases delay with
    | none =>
      obtain ⟨htask, hstored⟩ := Session.turn_answer_page hcalm hthere m
      have hdone : ({ tl.begin_ .refreshPage with
          backend := b
          session := (tl.begin_ .refreshPage).session.turn (.answer tl.begun (.transitions m)) } :
          Timeline β).Refreshed (tl.begin_ .refreshPage).desk.store tl.begun tl.desk.page
          (Refresh.resultOf m) := ⟨htask, hstored⟩
      simp only [pursue_answer { tl.begin_ .refreshPage with backend := b } 1 hcalm hthere, await,
        hdone.awaitWithin]
      exact ⟨hdone, trivial⟩
    | some delay =>
      exact await_arrival { tl.begin_ .refreshPage with
        backend := b
        pending := tl.pending ++ [⟨(tl.begin_ .refreshPage).desk.now + delay, tl.begun,
          .transitions m⟩] } hcalm hthere htimers' (by rw [hpending]; rfl)

end Timeline

end OrderDesk
