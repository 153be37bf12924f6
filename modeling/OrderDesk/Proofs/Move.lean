import OrderDesk.Proofs.Exchange
import OrderDesk.Proofs.Opening
import OrderDesk.Timeline

/-! What a timeline does by itself is a row of moves: events of its session, questions that are put
to its backend, and answers that arrive. Each move is labelled with the graph that an answer brings.
Without such a graph the store stays as it is. -/
namespace OrderDesk

variable {st : Store} {s : Session} {t : Task} {d : Desk} {reply : Reply} {e : Event} {id : Nat}

/-- The graph that a reply brings. -/
def Reply.graph? : Reply → Option Graph
  | .transitions result => Refresh.graph? result
  | .setState _ => none

/-- An event of a session that brings no answer and is not the work of an operator. -/
def Event.isOwn : Event → Bool
  | .begin _ _ | .settle _ | .fire _ | .pass _ => true
  | _ => false

namespace Task

theorem answered_of_busy (hr : t.rests = false) (reply : Reply) : t.answered d reply = (d, t) := by
  cases t with
  | selection s =>
    rcases s.answered_cases d reply with h | ⟨_, _, _, hs, -, -⟩ | ⟨_, _, _, hs, -, -⟩
    · simp [answered, h]
    · simp [rests, awaits, Selection.awaits, hs] at hr
    · simp [rests, awaits, Selection.awaits, hs] at hr
  | _ =>
    unfold answered
    split <;> simp_all [rests, awaits]

/-- A task that is about to change nothing in the store is not after a reply without a graph. -/
theorem stored_answered_of_none (h : t.stored st = st) (hg : reply.graph? = none) (d : Desk) :
    (t.answered d reply).2.stored st = st := by
  cases hr : t.rests with
  | false => rwa [answered_of_busy hr]
  | true =>
    have hnone : t.fetched? reply = none := by
      cases reply with
      | setState result => rfl
      | transitions result =>
        have hg : Refresh.graph? result = none := hg
        simp [fetched?, hg]
    rw [stored_answered hr, hnone]
    rfl

/-- The cache after the steps of a task was written to, or is the one before. -/
theorem stored_cache {P : Cache → Prop}
    (hP : ∀ c c' text, P c → c.write Cache.graphKey text = .ok c' → P c') (t : Task)
    (h : P st.cache) : P (t.stored st).cache := by
  have hsave : ∀ (st : Store) text, P st.cache → P (st.save text).1.cache := by
    intro st text h
    rcases st.save_cache text with hsame | hw
    · exact hsame ▸ h
    · exact hP _ _ _ h hw
  have hrefresh : ∀ r : Refresh, P (r.stored st).cache := by
    intro r
    cases r with
    | adopt g => exact hsave _ _ h
    | copy g => exact hsave _ _ h
    | save g text => exact hsave _ _ h
    | _ => exact h
  cases t with
  | selection s =>
    simp only [stored]
    split
    · exact hrefresh _
    · exact h
  | pageRefresh page r =>
    cases r with
    | fetch r => exact hrefresh r
    | _ => exact h
  | storeRefresh r => exact hrefresh r

end Task

namespace Session

theorem store_answer (s : Session) (id : Nat) (reply : Reply) :
    (s.apply (.answer id reply)).desk.store = s.desk.store := by
  rw [apply]
  cases s.task? id with
  | none => rfl
  | some t => exact Task.store_answered s.desk t reply

/-- An event that brings no answer leaves the store alone, but for the steps of a task. -/
theorem store_own (h : e.isOwn = true) : (s.apply e).desk.store = s.desk.store ∨
    ∃ p ∈ s.tasks, (s.apply e).desk.store = p.2.stored s.desk.store := by
  cases e with
  | begin id wish =>
    refine Or.inl ?_
    rw [apply]
    split <;> rfl
  | settle id =>
    rw [apply]
    cases ht : s.task? id with
    | none => exact Or.inl rfl
    | some t => exact Or.inr ⟨_, mem_of_task? ht, Task.store_settle s.desk t⟩
  | fire timer => exact Or.inl rfl
  | pass time => exact Or.inl rfl
  | _ => cases h

/-- A session with a store that no task is about to change. -/
structure Still (st : Store) (s : Session) : Prop where
  store : s.desk.store = st
  tasks : ∀ p ∈ s.tasks, p.2.stored st = st

theorem Still.own (hs : s.Still st) (h : e.isOwn = true) : (s.apply e).Still st := by
  cases e with
  | begin id wish =>
    rw [apply]
    split
    · exact hs
    · refine ⟨hs.store, fun p hp => ?_⟩
      rcases List.mem_append.mp hp with hold | hnew
      · exact hs.tasks p hold
      · rw [List.mem_singleton.mp hnew, Task.stored_ofWish]
  | settle id =>
    rw [apply]
    cases ht : s.task? id with
    | none => exact hs
    | some t =>
      have htask := hs.tasks _ (mem_of_task? ht)
      refine ⟨(Task.store_settle s.desk t).trans (hs.store ▸ htask), fun p hp => ?_⟩
      rcases mem_put hp with rfl | hold
      · dsimp only
        rw [Task.stored_of_rests (Task.settle_rests s.desk t)]
      · exact hs.tasks p hold
  | fire timer => exact ⟨hs.store, hs.tasks⟩
  | pass time => exact ⟨hs.store, hs.tasks⟩
  | _ => cases h

theorem Still.answer (hs : s.Still st) (hg : reply.graph? = none) (id : Nat) :
    (s.apply (.answer id reply)).Still st := by
  refine ⟨(store_answer s id reply).trans hs.store, fun p hp => ?_⟩
  rw [apply] at hp
  cases ht : s.task? id with
  | none =>
    rw [ht] at hp
    exact hs.tasks p hp
  | some t =>
    rw [ht] at hp
    rcases mem_put hp with rfl | hold
    · dsimp only
      rw [Task.stored_answered_of_none (hs.tasks _ (mem_of_task? ht)) hg]
    · exact hs.tasks p hold

end Session

namespace Timeline
variable {β : Type} {tl tl' tl'' : Timeline β} {gs hs : List Graph}

theorem mem_of_firstPending? {p : Pending} (h : tl.firstPending? = some p) : p ∈ tl.pending := by
  refine List.foldlRecOn (motive := fun best => ∀ q, best = some q → q ∈ tl.pending) tl.pending _
    (by simp) (fun best hbest q hq r hr => ?_) p h
  split at hr
  · exact Option.some.inj hr ▸ hq
  · split at hr
    · exact Option.some.inj hr ▸ hq
    · exact hbest r hr

variable [Backend β]

/-- A move of a timeline and the graph that it brings. -/
inductive Move (tl : Timeline β) : List Graph → Timeline β → Prop where
  | own {e : Event} (h : e.isOwn = true) : Move tl [] (tl.apply e)
  /-- A question is put to the backend, and the answer is at once there. -/
  | ask (id : Nat) (q : Question) :
    Move tl (Backend.reply tl.backend q).2.result.graph?.toList
      ({ tl with backend := (Backend.reply tl.backend q).1 }.apply
        (.answer id (Backend.reply tl.backend q).2.result))
  /-- A question is put to the backend, and the answer is on its way. -/
  | send (id : Nat) (q : Question) (due : Nat) :
    Move tl (Backend.reply tl.backend q).2.result.graph?.toList
      { tl with
        backend := (Backend.reply tl.backend q).1
        pending := tl.pending ++ [⟨due, id, (Backend.reply tl.backend q).2.result⟩] }
  | arrive {p : Pending} (hp : p ∈ tl.pending) (keep : Pending → Bool) :
    Move tl [] ({ tl with pending := tl.pending.filter keep }.apply (.answer p.task p.reply))
  | number (n : Nat) : Move tl [] { tl with begun := n }
  | collect (id : Nat) : Move tl [] { tl with session := tl.session.remove id }

/-- A row of moves and the graphs that they bring. -/
inductive Moves (tl : Timeline β) : List Graph → Timeline β → Prop where
  | none : Moves tl [] tl
  | snoc {gs hs : List Graph} {near far : Timeline β} :
    Moves tl gs near → Move near hs far → Moves tl (gs ++ hs) far

theorem Move.one (h : Move tl gs tl') : Moves tl gs tl' := .snoc .none h

theorem Moves.trans (h : Moves tl gs tl') (h' : Moves tl' hs tl'') : Moves tl (gs ++ hs) tl'' := by
  induction h' with
  | none => simpa using h
  | snoc _ hmove ih => exact List.append_assoc .. ▸ ih.snoc hmove

/-- The moves of a timeline, whatever graphs they bring. -/
def Reaches (tl tl' : Timeline β) : Prop := ∃ gs, Moves tl gs tl'

theorem Reaches.trans (h : Reaches tl tl') (h' : Reaches tl' tl'') : Reaches tl tl'' := by
  obtain ⟨gs, h⟩ := h
  obtain ⟨hs, h'⟩ := h'
  exact ⟨_, h.trans h'⟩

theorem Move.reaches (h : Move tl gs tl') : Reaches tl tl' := ⟨_, h.one⟩

theorem pursue_reaches (n : Nat) (tl : Timeline β) (id : Nat) : Reaches tl (pursue n tl id) := by
  induction n generalizing tl with
  | zero => exact ⟨_, .none⟩
  | succ n ih =>
    have hsettle : Reaches tl (tl.apply (.settle id)) := (Move.own rfl).reaches
    refine hsettle.trans ?_
    rw [pursue]
    generalize tl.apply (.settle id) = settled
    simp only
    split
    · exact ⟨_, .none⟩
    · next q _ =>
      split
      · exact (Move.ask id q).reaches.trans (ih _)
      · exact (Move.send id q _).reaches

theorem arrive_reaches {p : Pending} (hp : p ∈ tl.pending) : Reaches tl (tl.arrive p) := by
  have hpass : Reaches tl (tl.passTo p.due) := (Move.own rfl).reaches
  have hthere : p ∈ (tl.passTo p.due).pending := hp
  have harrive := (Move.arrive hthere fun q => q.task != p.task).reaches
  exact hpass.trans (harrive.trans (pursue_reaches maxQuestions _ _))

theorem fire_reaches (tl : Timeline β) (timer : Timer) : Reaches tl (tl.fire timer) := by
  have hpass : Reaches tl (tl.passTo timer.due) := (Move.own rfl).reaches
  exact hpass.trans (Move.own rfl).reaches

theorem next?_reaches {limit : Option Nat} (h : tl.next? limit = some tl') : Reaches tl tl' := by
  unfold next? at h
  simp only at h
  split at h
  · cases h
  · next p hp _ =>
    split at h
    · exact Option.some.inj h ▸ arrive_reaches (mem_of_firstPending? hp)
    · cases h
  · split at h
    · exact Option.some.inj h ▸ fire_reaches tl _
    · cases h
  · next p timer hp _ =>
    split at h
    · split at h
      · exact Option.some.inj h ▸ arrive_reaches (mem_of_firstPending? hp)
      · cases h
    · split at h
      · exact Option.some.inj h ▸ fire_reaches tl _
      · cases h

theorem awaitWithin_reaches (n : Nat) (tl : Timeline β) (id : Nat) :
    Reaches tl (awaitWithin n tl id) := by
  induction n generalizing tl with
  | zero => exact ⟨_, .none⟩
  | succ n ih =>
    rw [awaitWithin]
    split
    · exact ⟨_, .none⟩
    · split
      · exact ⟨_, .none⟩
      · next hnext => exact (next?_reaches hnext).trans (ih _)

theorem run_eq (tl : Timeline β) (wish : Wish) :
    tl.run wish = ((tl.start wish).1.await tl.begun).collect tl.begun := rfl

theorem run_reaches (tl : Timeline β) (wish : Wish) : Reaches tl (tl.run wish).1 := by
  have hbegin : Reaches tl (({ tl with begun := tl.begun + 1 }).apply (.begin tl.begun wish)) :=
    (Move.number _).reaches.trans (Move.own rfl).reaches
  have hstart : Reaches tl (tl.start wish).1 := hbegin.trans (pursue_reaches _ _ _)
  have hawait := hstart.trans (awaitWithin_reaches (tl.start wish).1.fuel _ tl.begun)
  rw [run_eq]
  exact hawait.trans (Move.collect _).reaches

/-- A kind of caches that is kept by each write is kept by each move. -/
theorem Reaches.cache {P : Cache → Prop}
    (hP : ∀ c c' text, P c → c.write Cache.graphKey text = .ok c' → P c')
    (h : Reaches tl tl') (hc : P tl.desk.store.cache) : P tl'.desk.store.cache := by
  obtain ⟨gs, h⟩ := h
  induction h with
  | none => exact hc
  | snoc _ hmove ih =>
    have hanswer : ∀ (s : Session) id reply, P s.desk.store.cache →
        P (s.apply (.answer id reply)).desk.store.cache := by
      intro s id reply h
      rwa [Session.store_answer]
    cases hmove with
    | @own e he =>
      rcases Session.store_own he with hsame | ⟨t, -, hsteps⟩
      · exact (congrArg (P ·.cache) hsame).mpr ih
      · exact (congrArg (P ·.cache) hsteps).mpr (Task.stored_cache hP t.2 ih)
    | ask id q => exact hanswer _ _ _ ih
    | arrive hp keep => exact hanswer _ _ _ ih
    | _ => exact ih

/-- A timeline with a store that nothing is about to change. -/
structure Still (st : Store) (tl : Timeline β) : Prop where
  session : tl.session.Still st
  pending : ∀ p ∈ tl.pending, p.reply.graph? = none

theorem Move.still (h : Move tl gs tl') (hnone : gs = []) (hs : tl.Still st) : tl'.Still st := by
  cases h with
  | own he => exact ⟨hs.session.own he, hs.pending⟩
  | ask id q =>
    have hg := Option.toList_eq_nil_iff.mp hnone
    exact ⟨Session.Still.answer (s := tl.session) hs.session hg id, hs.pending⟩
  | send id q due =>
    have hg := Option.toList_eq_nil_iff.mp hnone
    refine ⟨hs.session, fun p hp => ?_⟩
    rcases List.mem_append.mp hp with hold | hnew
    · exact hs.pending p hold
    · rw [List.mem_singleton.mp hnew]
      exact hg
  | arrive hp keep =>
    exact ⟨Session.Still.answer (s := tl.session) hs.session (hs.pending _ hp) _,
      fun q hq => hs.pending q (List.mem_of_mem_filter hq)⟩
  | number n => exact ⟨hs.session, hs.pending⟩
  | collect id =>
    exact ⟨⟨hs.session.store, fun p hp => hs.session.tasks p (List.mem_of_mem_filter hp)⟩,
      hs.pending⟩

/-- Moves that bring no graph change nothing in the store. -/
theorem Moves.still (h : Moves tl gs tl') (hnone : gs = []) (hs : tl.Still st) : tl'.Still st := by
  induction h with
  | none => exact hs
  | snoc _ hmove ih =>
    obtain ⟨hfirst, hlast⟩ := List.append_eq_nil_iff.mp hnone
    exact hmove.still hlast (ih hfirst)

end Timeline

namespace Http.Network
variable {n n' n'' : Network}

/-- Requests with the answers that a server gives to them from a row of prepared ones. -/
def paired : List Request → List Answer → List (Request × Answer)
  | [], _ => []
  | r :: rs, answers => (r, (answers.head?.getD Answer.missing).arriving) :: paired rs answers.tail

theorem paired_append (rs more : List Request) (answers : List Answer) :
    paired (rs ++ more) answers = paired rs answers ++ paired more (answers.drop rs.length) := by
  induction rs generalizing answers with
  | nil => rfl
  | cons r rs ih => simp [paired, ih]

/-- The requests that have reached the server since an earlier time, each with its answer. -/
def exchanged (n n' : Network) : List (Request × Answer) :=
  paired (n'.seen.drop n.seen.length) n.answers

/-- The graph that the answer to a request brings. -/
def graphOf? (p : Request × Answer) : Option Graph :=
  match p.1.method with
  | .get => Refresh.graph? (Client.readTransitions p.1.url p.2)
  | .post => none

/-- The graphs that have come since an earlier time. -/
def graphsSince (n n' : Network) : List Graph := (n.exchanged n').filterMap graphOf?

/-- A network as it may be after further requests. -/
def Goes (n n' : Network) : Prop :=
  ∃ rs, n'.seen = n.seen ++ rs ∧ n'.answers = n.answers.drop rs.length

theorem Goes.refl (n : Network) : n.Goes n := ⟨[], by simp⟩

theorem Goes.trans (h : n.Goes n') (h' : n'.Goes n'') : n.Goes n'' := by
  obtain ⟨rs, hs, ha⟩ := h
  obtain ⟨more, hs', ha'⟩ := h'
  exact ⟨rs ++ more, by simp [hs, hs'], by simp [ha, ha']⟩

theorem graphsSince_self (n : Network) : n.graphsSince n = [] := by
  simp [graphsSince, exchanged, paired]

theorem graphsSince_trans (h : n.Goes n') (h' : n'.Goes n'') :
    n.graphsSince n'' = n.graphsSince n' ++ n'.graphsSince n'' := by
  obtain ⟨rs, hs, ha⟩ := h
  obtain ⟨more, hs', -⟩ := h'
  simp [graphsSince, exchanged, hs, hs', ha, paired_append]

/-- What a request brings that is sent. -/
theorem send_spec (n : Network) (r : Request) : n.Goes (n.send r).1 ∧
    n.graphsSince (n.send r).1 = (graphOf? (r, (n.send r).2)).toList := by
  unfold send
  split
  · refine ⟨⟨[r], rfl, by simp⟩, ?_⟩
    simp only [graphsSince, exchanged, List.drop_left, paired]
    cases hg : graphOf? (r, (n.answers.head?.getD Answer.missing).arriving) <;> simp [hg]
  · refine ⟨.refl n, ?_⟩
    rw [graphsSince_self, graphOf?]
    cases r.method <;> rfl

end Http.Network

theorem Client.askTransitions_method {c : Client} {endpoint : String} {r : Http.Request}
    (h : c.askTransitions endpoint = .ok r) : r.method = .get := by
  unfold askTransitions at h
  cases hu : c.resolve endpoint with
  | error error => simp [hu, bind, Except.bind] at h
  | ok u =>
    simp only [hu, bind, Except.bind] at h
    obtain ⟨-, -, rfl⟩ := build_eq_ok_iff.mp h
    rfl

theorem Client.askSet_method {c : Client} {endpoint : String} {asked : SetRequest}
    {r : Http.Request} (h : c.askSet endpoint asked = .ok r) : r.method = .post := by
  obtain ⟨u, -, rfl⟩ := exists_url_of_askSet h
  rfl

/-- A question over a line brings the graph that comes over its network. -/
theorem Line.reply_spec (l : Line) (q : Question) :
    l.network.Goes (Backend.reply l q).1.network ∧
      l.network.graphsSince (Backend.reply l q).1.network =
        (Backend.reply l q).2.result.graph?.toList := by
  cases q with
  | transitions url =>
    simp only [Backend.reply, Backend.transitions, Line.transitions]
    cases hask : l.client.askTransitions url with
    | error error => exact ⟨.refl _, Http.Network.graphsSince_self _⟩
    | ok r =>
      obtain ⟨hgoes, hgraphs⟩ := l.network.send_spec r
      refine ⟨hgoes, hgraphs.trans ?_⟩
      simp [Http.Network.graphOf?, Client.askTransitions_method hask, Reply.graph?]
  | setState url request =>
    simp only [Backend.reply, Backend.setState, Line.setState]
    cases hask : l.client.askSet url request with
    | error error => exact ⟨.refl _, Http.Network.graphsSince_self _⟩
    | ok r =>
      obtain ⟨hgoes, hgraphs⟩ := l.network.send_spec r
      refine ⟨hgoes, hgraphs.trans ?_⟩
      simp [Http.Network.graphOf?, Client.askSet_method hask, Reply.graph?]

/-- The graphs that moves over a line bring are those that come over its network. -/
theorem Timeline.Moves.network {tl tl' : Timeline Line} {gs : List Graph} (h : Moves tl gs tl') :
    tl.backend.network.Goes tl'.backend.network ∧
      tl.backend.network.graphsSince tl'.backend.network = gs := by
  induction h with
  | none => exact ⟨.refl _, Http.Network.graphsSince_self _⟩
  | snoc _ hmove ih =>
    obtain ⟨hgoes, hgraphs⟩ := ih
    have hone : ∀ {a b : Timeline Line} {hs : List Graph}, Move a hs b →
        a.backend.network.Goes b.backend.network ∧
          a.backend.network.graphsSince b.backend.network = hs := by
      intro a b hs hmove
      cases hmove with
      | ask id q => exact a.backend.reply_spec q
      | send id q due => exact a.backend.reply_spec q
      | _ => exact ⟨.refl _, Http.Network.graphsSince_self _⟩
    obtain ⟨hgoes', hgraphs'⟩ := hone hmove
    refine ⟨hgoes.trans hgoes', ?_⟩
    rw [Http.Network.graphsSince_trans hgoes hgoes', hgraphs, hgraphs']

end OrderDesk
