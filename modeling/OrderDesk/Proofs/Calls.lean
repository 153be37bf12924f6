import OrderDesk.Proofs.Verdict

/-! The questions that a run asks of the backend, each under the number of the task that asks it.
What a task has asked is told by how far it has come: a selection asks for its change as soon as it
holds its control and for the graph once after a refusal, and nothing asks a second time. -/
namespace OrderDesk

variable {d e f : Desk} {s : Session} {sel : Selection} {t : Task} {g : Stage} {wish : Wish}
  {made qs rs : List Question} {got : Option SetResult} {id : Nat} {ev : Event}
  {es : List Event} {reply : Reply}

namespace Desk

/-- The question for the graph, if there is an endpoint to ask. -/
def fetches (d : Desk) : List Question := d.store.metaUrl.toList.map .transitions

/-- A desk that has asked some more questions, with the pages and the endpoints of another. -/
structure Asked (d : Desk) (qs : List Question) (e : Desk) : Prop where
  touched : d.Touched e
  pages : e.pages = d.pages
  metaUrl : e.store.metaUrl = d.store.metaUrl
  questions : e.questions = d.questions ++ qs

theorem Asked.none (h : d.Touched e) (hp : e.pages = d.pages) (hs : e.store = d.store)
    (hq : e.questions = d.questions) : d.Asked [] e :=
  ⟨h, hp, congrArg Store.metaUrl hs, by simp [hq]⟩

theorem Asked.refl (d : Desk) : d.Asked [] d := .none (.of_eq rfl) rfl rfl rfl

theorem Asked.touch (d : Desk) (seat : Seat) (t : Touch) : d.Asked [] (d.touch seat t) :=
  .none (.touch d seat t) rfl rfl rfl

theorem Asked.trans (h : d.Asked qs e) (h' : e.Asked rs f) : d.Asked (qs ++ rs) f :=
  ⟨h.touched.trans h'.touched, h'.pages.trans h.pages, h'.metaUrl.trans h.metaUrl, by
    rw [h'.questions, h.questions, List.append_assoc]⟩

theorem Asked.perform (d : Desk) (w : List (Seat × Touch)) : d.Asked [] (d.perform w) := by
  induction w generalizing d with
  | nil => exact .refl d
  | cons p w ih => exact (Asked.touch d p.1 p.2).trans (ih (d.touch p.1 p.2))

theorem Asked.fetches_eq (h : d.Asked qs e) : e.fetches = d.fetches := by
  rw [fetches, fetches, h.metaUrl]

theorem Asked.setUrl?_eq (h : d.Asked qs e) (seat : Seat) : e.setUrl? seat = d.setUrl? seat :=
  h.touched.setUrl?_eq seat

end Desk

/-- Whether an answer to a change is a refusal. -/
def refuses : Option SetResult → Bool
  | some (.ok reply) => !reply.isSuccess
  | _ => false

namespace Refresh

/-- What a refresh has asked when it has come so far. -/
def Traced (d : Desk) (made : List Question) : Refresh → Prop
  | .ask => made = []
  | _ => made = d.fetches

/-- What a refresh asks as its next step. -/
def asks (d : Desk) : Refresh → List Question
  | .ask => d.fetches
  | _ => []

theorem step_asked (d : Desk) (r : Refresh) : d.Asked (r.asks d) (r.step d).1 := by
  have htouched : d.Touched (r.step d).1 := .of_eq (r.step_controls d)
  cases r with
  | ask =>
    cases hurl : d.store.metaUrl with
    | none => simpa [Refresh.step, asks, Desk.fetches, hurl] using Desk.Asked.refl d
    | some url =>
      simp only [Refresh.step, asks, Desk.fetches, hurl] at htouched ⊢
      exact ⟨htouched, rfl, rfl, rfl⟩
  | save fetched text =>
    refine ⟨htouched, rfl, ?_, by simp [Refresh.step, asks]⟩
    simp only [Refresh.step, Store.save]
    split <;> rfl
  | _ => exact ⟨htouched, rfl, rfl, by simp [Refresh.step, asks]⟩

/-- A refresh asks as its first step, and never again. -/
theorem Traced.step {r : Refresh} (h : r.Traced d made) :
    (r.step d).2.Traced d (made ++ r.asks d) := by
  cases r with
  | ask =>
    have hcalls : made = [] := h
    cases hurl : d.store.metaUrl <;>
      simp [Refresh.step, asks, Traced, Desk.fetches, hurl, hcalls]
  | _ => simpa [Refresh.step, asks, Traced] using h

theorem traced_answered (d : Desk) (result : MetaResult) :
    (Refresh.answered result).Traced d d.fetches := by
  unfold Refresh.answered
  split
  · rfl
  · split <;> rfl

end Refresh

namespace Selection

/-- The question that asks for the change. -/
def change (d : Desk) (s : Selection) : Question :=
  .setState ((d.setUrl? s.seat).getD "") s.request

/-- What a selection has heard of its change and what it has asked, when it has come so far. -/
def Traced (d : Desk) (got : Option SetResult) (made : List Question) (s : Selection) : Prop :=
  match s.stage with
  | .look | .peek | .freshen _ | .claim | .finished (.ignored _) => got = none ∧ made = []
  | .choose | .announce | .send _ => (d.setUrl? s.seat).isSome ∧ got = none ∧ made = []
  | .sent _ _ => (d.setUrl? s.seat).isSome ∧ got = none ∧ made = [s.change d]
  | .conclude _ result =>
    (d.setUrl? s.seat).isSome ∧ got = some result ∧ made = [s.change d]
  | .fetch _ r => (d.setUrl? s.seat).isSome ∧ refuses got = true ∧
    ∃ fetches, made = s.change d :: fetches ∧ r.Traced d fetches
  | .repopulate _ _ | .renew _ _ _ | .reread _ | .perform _ (.rejected _ _)
  | .finished (.rejected _ _) =>
    (d.setUrl? s.seat).isSome ∧ refuses got = true ∧ made = s.change d :: d.fetches
  | .perform _ (.ignored _) => False
  | .survey _ | .perform _ _ | .finished _ =>
    (d.setUrl? s.seat).isSome ∧ refuses got = false ∧ made = [s.change d]

/-- A selection that goes on to ask for its change has found an endpoint for it. -/
theorem setUrl?_of_ignored? (h : sel.ignored? d = none) : (d.setUrl? sel.seat).isSome := by
  simp only [ignored?] at h
  split at h
  · simp at h
  · split at h
    · simp at h
    · next hurl => simpa [Desk.setUrl?, Option.isSome_iff_ne_none] using hurl

/-- A selection that holds its control has found an endpoint there. -/
def Bound (d : Desk) (s : Selection) : Prop :=
  s.holdsClaim = true → (d.setUrl? s.seat).isSome

theorem Bound.touched (hd : d.Touched e) (h : sel.Bound d) : sel.Bound e := by
  intro hc
  rw [hd.setUrl?_eq]
  exact h hc

theorem Step.bound (h : Step d sel e g) (hs : sel.Bound d) : (sel.moveTo g).Bound e := by
  refine Bound.touched h.touched fun hc => ?_
  cases hold : sel.holdsClaim with
  | true => exact hs hold
  | false =>
    cases h with
    | claim _ hi => exact setUrl?_of_ignored? hi
    | _ => simp_all [holdsClaim]

theorem Bound.answered (h : sel.Bound d) (reply : Reply) :
    (sel.answered d reply).2.Bound (sel.answered d reply).1 := by
  rcases sel.answered_cases d reply with ha | ⟨_, _, _, hstage, -, ha⟩ | ⟨_, _, _, hstage, -, ha⟩
  · rwa [ha]
  · rw [ha]
    exact fun _ => h (by simp [holdsClaim, hstage])
  · rw [ha]
    exact fun _ => h (by simp [holdsClaim, hstage])

/-- What a selection asks as its next step. -/
def asks (d : Desk) (s : Selection) : List Question :=
  match s.stage with
  | .send _ => [s.change d]
  | .fetch _ r => r.asks d
  | _ => []

theorem Step.asked (h : Step d sel e g) : d.Asked (sel.asks d) e := by
  cases h with
  | send hstage hurl =>
    simp only [asks, hstage]
    refine ⟨.of_eq rfl, rfl, rfl, ?_⟩
    rw [hurl]
    rfl
  | fetch hstage _ =>
    simp only [asks, hstage]
    exact Refresh.step_asked d _
  | release hstage =>
    simp only [asks, hstage]
    exact (Desk.Asked.touch _ _ _).trans (.touch _ _ _)
  | freshen hstage | claim hstage _ | choose hstage | announce hstage | fail hstage
  | accept hstage _ | refuse hstage _ | renew hstage | perform hstage =>
    simp only [asks, hstage]
    exact .touch _ _ _
  | _ =>
    simp_all only [asks]
    exact .refl d

theorem Step.traced (h : Step d sel e g) (ht : sel.Traced d got made) :
    (sel.moveTo g).Traced d got (made ++ sel.asks d) := by
  cases h with
  | claim hstage hi => simpa [Traced, asks, hstage, setUrl?_of_ignored? hi] using ht
  | fetch hstage _ =>
    simp only [Traced, hstage] at ht
    obtain ⟨hbound, hrefused, fetches, rfl, hr⟩ := ht
    simp only [asks, hstage]
    exact ⟨hbound, hrefused, _, rfl, hr.step⟩
  | @release outcome hstage | @perform _ _ outcome hstage | @rest outcome hstage =>
    cases outcome <;> simp_all [Traced, asks, change, request]
  | _ =>
    simp_all [Traced, asks, change, request, refuses, success, refusal, explanation,
      Refresh.Traced, Refresh.asks]

/-- The answer to its change that a selection waits for, when it arrives. -/
def heard? (s : Selection) : Reply → Option SetResult
  | .setState result => if s.awaits.any Question.isChange then some result else none
  | .transitions _ => none

theorem heard?_of_not_sent (h : ∀ epoch url, sel.stage ≠ .sent epoch url) (reply : Reply) :
    sel.heard? reply = none := by
  cases reply with
  | transitions result => rfl
  | setState result =>
    cases hstage : sel.stage with
    | sent epoch url => exact absurd hstage (h epoch url)
    | fetch refused refresh => cases refresh <;> simp [heard?, awaits, hstage, Question.isChange]
    | _ => simp [heard?, awaits, hstage]

theorem answered_asked (d : Desk) (s : Selection) (reply : Reply) :
    d.Asked [] (s.answered d reply).1 := by
  rcases s.answered_cases d reply with ha | ⟨_, _, _, -, -, ha⟩ | ⟨_, _, _, -, -, ha⟩
  · rw [ha]
    exact .refl d
  · rw [ha]
    exact .none (.of_eq rfl) rfl rfl rfl
  · rw [ha]
    exact .refl d

theorem Traced.answered (ht : sel.Traced d got made) (reply : Reply) :
    (sel.answered d reply).2.Traced d (got.or (sel.heard? reply)) made := by
  cases hstage : sel.stage with
  | sent epoch url =>
    cases reply with
    | setState result =>
      simp only [Selection.answered, hstage]
      simp_all [Traced, heard?, awaits, Question.isChange, change, request]
    | transitions result => simpa [Selection.answered, hstage, heard?] using ht
  | fetch refused refresh =>
    have hnone : sel.heard? reply = none := heard?_of_not_sent (by simp [hstage]) reply
    rw [hnone, Option.or_none]
    cases reply with
    | setState result => simpa [Selection.answered, hstage] using ht
    | transitions result =>
      cases refresh with
      | asked url =>
        simp only [Selection.answered, hstage]
        simp only [Traced, hstage] at ht
        obtain ⟨hbound, hrefused, fetches, hcalls, hr⟩ := ht
        exact ⟨hbound, hrefused, fetches, hcalls, hr ▸ Refresh.traced_answered d result⟩
      | _ => simpa [Selection.answered, hstage] using ht
  | _ =>
    have hnone : sel.heard? reply = none := heard?_of_not_sent (by simp [hstage]) reply
    rw [hnone, Option.or_none]
    cases reply <;> simpa [Selection.answered, hstage] using ht

theorem dropped_asked (d : Desk) (s : Selection) : d.Asked [] (s.dropped d) := by
  have hstop : ∀ epoch, d.Asked [] (d.stopTimers s.seat epoch) :=
    fun _ => .none (.of_eq rfl) rfl rfl rfl
  unfold dropped
  split
  · split
    · exact (hstop _).trans (.touch _ _ _)
    · exact hstop _
  · split
    · exact .touch _ _ _
    · exact .refl d

end Selection

namespace PageRefresh

/-- What a refresh that an operator asked for has asked when it has come so far. -/
def Traced (d : Desk) (made : List Question) : PageRefresh → Prop
  | .fetch r => r.Traced d made
  | _ => made = d.fetches

/-- What a refresh that an operator asked for asks as its next step. -/
def asks (d : Desk) : PageRefresh → List Question
  | .fetch r => r.asks d
  | _ => []

theorem Step.asked {page : Nat} {r r' : PageRefresh} (h : Step d page r e r') :
    d.Asked (r.asks d) e := by
  cases h with
  | fetch => exact Refresh.step_asked d _
  | perform => exact .touch d _ _
  | _ => exact .refl d

theorem Step.traced {page : Nat} {r r' : PageRefresh} (h : Step d page r e r')
    (ht : r.Traced d made) : r'.Traced d (made ++ r.asks d) := by
  cases h with
  | fetch => exact Refresh.Traced.step ht
  | _ => simpa [Traced, asks, Refresh.Traced, Refresh.asks] using ht

end PageRefresh

namespace Task

/-- The answer to its change that a task waits for, when it arrives. -/
def heard? : Task → Reply → Option SetResult
  | selection s, reply => s.heard? reply
  | _, _ => none

/-- A task that does what is wanted has heard and asked what it is to, when it has come so far. -/
def Traced (wish : Wish) (d : Desk) (got : Option SetResult) (made : List Question) :
    Task → Prop
  | selection s => wish.Asks s.seat s.action ∧ s.Traced d got made
  | pageRefresh _ r => wish = .refreshPage ∧ r.Traced d made
  | storeRefresh r => wish = .refreshStore ∧ r.Traced d made

theorem traced_congr (hu : ∀ seat, e.setUrl? seat = d.setUrl? seat) (hf : e.fetches = d.fetches) :
    t.Traced wish e got made ↔ t.Traced wish d got made := by
  have hrefresh : ∀ (r : Refresh) made, r.Traced e made ↔ r.Traced d made := fun r made => by
    cases r <;> simp [Refresh.Traced, hf]
  cases t with
  | selection s => simp only [Traced, Selection.Traced, Selection.change, hu, hf, hrefresh]
  | pageRefresh page r => cases r <;> simp [Traced, PageRefresh.Traced, hf, hrefresh]
  | storeRefresh r => simp only [Traced, hrefresh]

theorem Traced.after (h : d.Asked qs e) (ht : t.Traced wish d got made) :
    t.Traced wish e got made :=
  (traced_congr h.setUrl?_eq h.fetches_eq).mpr ht

/-- What a task asks as its next step. -/
def asks (d : Desk) : Task → List Question
  | selection s => s.asks d
  | pageRefresh _ r => r.asks d
  | storeRefresh r => r.asks d

theorem step_asked (d : Desk) (t : Task) : d.Asked (t.asks d) (t.step d).1 := by
  cases t with
  | selection s =>
    obtain ⟨e, g, he, hstep⟩ := s.step_spec d
    rw [Task.step, he]
    exact hstep.asked
  | pageRefresh page r =>
    obtain ⟨e, r', he, hstep⟩ := r.step_spec d page
    rw [Task.step, he]
    exact hstep.asked
  | storeRefresh r => exact r.step_asked d

theorem exists_settle_asked (d : Desk) (t : Task) : ∃ qs, d.Asked qs (t.settle d).1 := by
  refine settle_keeps (P := fun e _ => ∃ qs, d.Asked qs e) ?_ ⟨[], .refl d⟩
  rintro e u ⟨qs, hasked⟩ -
  exact ⟨_, hasked.trans (u.step_asked e)⟩

theorem Traced.step (h : t.Traced wish d got made) :
    (t.step d).2.Traced wish d got (made ++ t.asks d) := by
  cases t with
  | selection s =>
    obtain ⟨e, g, he, hstep⟩ := s.step_spec d
    rw [Task.step, he]
    exact ⟨h.1, hstep.traced h.2⟩
  | pageRefresh page r =>
    obtain ⟨e, r', he, hstep⟩ := r.step_spec d page
    rw [Task.step, he]
    exact ⟨h.1, hstep.traced h.2⟩
  | storeRefresh r => exact ⟨h.1, h.2.step⟩

theorem Traced.settle (h : t.Traced wish d got made) :
    ∃ qs, d.Asked qs (t.settle d).1 ∧ (t.settle d).2.Traced wish d got (made ++ qs) := by
  refine settle_keeps (P := fun e u => ∃ qs, d.Asked qs e ∧ u.Traced wish d got (made ++ qs))
    ?_ ⟨[], .refl d, by simpa using h⟩
  rintro e u ⟨qs, hasked, hu⟩ -
  refine ⟨_, hasked.trans (u.step_asked e), ?_⟩
  rw [← List.append_assoc]
  exact (traced_congr hasked.setUrl?_eq hasked.fetches_eq).mp (hu.after hasked).step

theorem answered_asked (d : Desk) (t : Task) (reply : Reply) :
    d.Asked [] (t.answered d reply).1 := by
  cases t with
  | selection s => exact s.answered_asked d reply
  | pageRefresh page r =>
    unfold answered
    split <;> simp_all [Desk.Asked.refl]
  | storeRefresh r =>
    unfold answered
    split <;> simp_all [Desk.Asked.refl]

theorem Traced.answered (h : t.Traced wish d got made) (reply : Reply) :
    (t.answered d reply).2.Traced wish d (got.or (t.heard? reply)) made := by
  cases t with
  | selection s =>
    have hwish : wish.Asks (s.answered d reply).2.seat (s.answered d reply).2.action := by
      rw [(s.answered_same d reply).1, (s.answered_same d reply).2]
      exact h.1
    exact ⟨hwish, h.2.answered reply⟩
  | pageRefresh page r =>
    have hsame : (pageRefresh page r).Traced wish d (got.or none) made := by simpa using h
    cases r with
    | fetch r =>
      cases r with
      | asked url =>
        cases reply with
        | setState result => exact hsame
        | transitions result =>
          have hcalls : made = d.fetches := h.2
          exact ⟨h.1, hcalls ▸ Refresh.traced_answered d result⟩
      | _ => exact hsame
    | _ => exact hsame
  | storeRefresh r =>
    have hsame : (storeRefresh r).Traced wish d (got.or none) made := by simpa using h
    cases r with
    | asked url =>
      cases reply with
      | setState result => exact hsame
      | transitions result =>
        have hcalls : made = d.fetches := h.2
        exact ⟨h.1, hcalls ▸ Refresh.traced_answered d result⟩
    | _ => exact hsame

theorem dropped_asked (d : Desk) (t : Task) : d.Asked [] (t.dropped d) := by
  cases t with
  | selection s => exact s.dropped_asked d
  | pageRefresh page r => exact .refl d
  | storeRefresh r => exact .refl d

theorem traced_ofWish (d : Desk) (wish : Wish) : (ofWish d wish).Traced wish d none [] := by
  cases wish with
  | select seat action => exact ⟨⟨rfl, rfl⟩, rfl, rfl⟩
  | submit seat action seats => exact ⟨⟨rfl, rfl⟩, rfl, rfl⟩
  | refreshPage => exact ⟨rfl, rfl⟩
  | refreshStore => exact ⟨rfl, rfl⟩

end Task

namespace Session

/-- Every selection that holds its control has found an endpoint there. -/
def Bound (s : Session) : Prop :=
  ∀ p ∈ s.tasks, p.2.Meets Selection.Bound s.desk

theorem bound_turn (hs : s.Calm) (h : s.Bound) (ev : Event) : (s.turn ev).Bound := by
  refine meets_turn Selection.Step.bound (fun reply h => h.answered reply)
    Selection.Bound.touched (fun id wish _ => ?_) hs h
  intro sel hsel hc
  have hidle := (Task.ofWish_idle s.desk wish sel.seat).1
  simp [hsel, Task.claims, hc] at hidle

theorem bound_turns (hs : s.Calm) (h : s.Bound) (es : List Event) : (s.turns es).Bound :=
  (List.foldlRecOn (motive := fun u => u.Calm ∧ u.Bound) es turn ⟨hs, h⟩ fun _ hu ev _ =>
    ⟨calm_turn hu.1 ev, bound_turn hu.1 hu.2 ev⟩).2

/-- The questions that an event asks of the backend. -/
def asked (s : Session) (ev : Event) : List Question :=
  (s.apply ev).desk.questions.drop s.desk.questions.length

/-- The questions that a run asks, each with the number of the task that the event is about. -/
def calls (s : Session) : List Event → List (Option Nat × Question)
  | [] => []
  | ev :: es => (s.asked ev).map (fun q => (ev.id?, q)) ++ (s.apply ev).calls es

/-- The questions that a task asks in a run. -/
def callsOf (s : Session) (id : Nat) (es : List Event) : List Question :=
  ((s.calls es).filter fun c => c.1 == some id).map (·.2)

/-- The answer to its change that a task gets by an event, if it waits for one. -/
def heard? (s : Session) (id : Nat) : Event → Option SetResult
  | .answer other reply => if other = id then (s.task? id).bind (·.heard? reply) else none
  | _ => none

/-- The answer to its change that a task gets in a run. -/
def heard (s : Session) (id : Nat) : List Event → Option SetResult
  | [] => none
  | ev :: es => (s.heard? id ev).or ((s.apply ev).heard id es)

/-- Only a task that goes on asks anything. -/
theorem apply_asked_cases (s : Session) (ev : Event) :
    s.desk.Asked [] (s.apply ev).desk ∨
      ∃ id t, (ev = .step id ∨ ev = .settle id) ∧ s.task? id = some t ∧ t.isFinished = false ∧
        ∃ qs, s.desk.Asked qs (s.apply ev).desk := by
  have hsame : s.desk.Asked [] s.desk := .refl s.desk
  cases ev with
  | begin id wish =>
    left
    simp only [apply]
    split <;> exact hsame
  | step id =>
    cases ht : s.task? id with
    | none => exact Or.inl (by simpa [apply, ht] using hsame)
    | some t =>
      cases hf : t.isFinished with
      | false =>
        refine Or.inr ⟨id, t, Or.inl rfl, ht, hf, t.asks s.desk, ?_⟩
        simpa [apply, ht, put] using t.step_asked s.desk
      | true =>
        have hr : t.rests = true := by simp [Task.rests, hf]
        exact Or.inl (by simpa [apply, ht, put, Task.step_of_rests hr] using hsame)
  | settle id =>
    cases ht : s.task? id with
    | none => exact Or.inl (by simpa [apply, ht] using hsame)
    | some t =>
      cases hf : t.isFinished with
      | false =>
        obtain ⟨qs, hasked⟩ := t.exists_settle_asked s.desk
        exact Or.inr ⟨id, t, Or.inr rfl, ht, hf, qs, by simpa [apply, ht, put] using hasked⟩
      | true =>
        have hr : t.rests = true := by simp [Task.rests, hf]
        exact Or.inl (by simpa [apply, ht, put, Task.settle_of_rests hr] using hsame)
  | answer id reply =>
    exact Or.inl (elim_task? (P := fun u => s.desk.Asked [] u.desk) hsame
      fun t _ => t.answered_asked s.desk reply)
  | drop id =>
    exact Or.inl (elim_task? (P := fun u => s.desk.Asked [] u.desk) hsame
      fun t _ => t.dropped_asked s.desk)
  | fire timer => exact Or.inl (.none (.touch s.desk timer.seat _) rfl rfl rfl)
  | pass time => exact Or.inl (.none (.of_eq rfl) rfl rfl rfl)
  | hold seat =>
    left
    simp only [apply, Desk.claim?]
    split
    · exact .touch s.desk seat _
    · exact hsame
  | release seat =>
    left
    simp only [apply]
    split
    · exact .touch s.desk seat _
    · exact hsame
  | touch seat t => exact Or.inl (.touch s.desk seat t)
  | repopulate => exact Or.inl (.perform s.desk _)
  | replace graph => exact Or.inl ⟨.of_eq rfl, rfl, rfl, by simp [apply]⟩
  | persist =>
    refine Or.inl ⟨.of_eq rfl, rfl, ?_, by simp [apply]⟩
    simp only [apply, Store.persist, Store.save]
    split <;> rfl
  | restore =>
    refine Or.inl ⟨.of_eq rfl, rfl, ?_, by simp [apply]⟩
    simp only [apply, Store.restore]
    split <;> rfl

theorem asked_eq (h : s.desk.Asked qs (s.apply ev).desk) : s.asked ev = qs := by
  rw [asked, h.questions, List.drop_left]

theorem apply_asked (s : Session) (ev : Event) :
    s.desk.Asked (s.asked ev) (s.apply ev).desk := by
  rcases s.apply_asked_cases ev with h | ⟨_, _, -, -, -, _, h⟩
  · exact (asked_eq h).symm ▸ h
  · exact (asked_eq h).symm ▸ h

/-- Whatever is asked in a run is asked by one of its tasks. -/
theorem play_asked (s : Session) (es : List Event) :
    s.desk.Asked ((s.calls es).map (·.2)) (s.play es).desk := by
  induction es generalizing s with
  | nil => exact .refl s.desk
  | cons ev es ih =>
    have hfirst : ((s.asked ev).map fun q => (ev.id?, q)).map (·.2) = s.asked ev := by
      rw [List.map_map]
      exact List.map_id' _
    rw [calls, List.map_append, hfirst]
    exact (s.apply_asked ev).trans (ih (s.apply ev))

theorem callsOf_cons (s : Session) (id : Nat) (ev : Event) (es : List Event) :
    s.callsOf id (ev :: es) =
      (if ev.id? = some id then s.asked ev else []) ++ (s.apply ev).callsOf id es := by
  rw [callsOf, calls, List.filter_append, List.map_append, List.filter_map]
  congr 1
  by_cases h : ev.id? = some id
  · simp [h, Function.comp_def]
  · simp [h, Function.comp_def]

theorem traced_put {r : Desk × Task} (hev : s.apply ev = s.put id r) (ht : s.task? id = some t)
    (hasked : s.desk.Asked qs r.1) (h : r.2.Traced wish s.desk got (made ++ qs)) :
    ∃ u, (s.apply ev).task? id = some u ∧
      u.Traced wish (s.apply ev).desk got (made ++ s.asked ev) := by
  have hqs : s.asked ev = qs := asked_eq (by rw [hev]; exact hasked)
  rw [hqs, hev]
  exact ⟨r.2, task?_put ht, h.after hasked⟩

/-- What a task has heard and asked goes on with each event up to where it is dropped. -/
theorem traced_apply (ht : s.task? id = some t) (h : t.Traced wish s.desk got made)
    (hev : ev ≠ .drop id) : ∃ u, (s.apply ev).task? id = some u ∧
      u.Traced wish (s.apply ev).desk (got.or (s.heard? id ev))
        (made ++ if ev.id? = some id then s.asked ev else []) := by
  have hsame : t.Traced wish s.desk (got.or none) (made ++ []) := by simpa using h
  by_cases hid : ev.id? = some id
  · rw [if_pos hid]
    cases ev <;> simp only [Event.id?, Option.some.injEq, reduceCtorEq] at hid <;> subst hid
    case begin id other =>
      have hbegin : s.apply (.begin id other) = s := by simp [apply, ht]
      have hnone : s.asked (.begin id other) = [] := asked_eq (by rw [hbegin]; exact .refl s.desk)
      rw [hnone, hbegin]
      exact ⟨t, ht, hsame⟩
    case step =>
      refine traced_put (r := t.step s.desk) (by simp [apply, ht]) ht (t.step_asked s.desk) ?_
      exact Task.Traced.step (by simpa [heard?] using h)
    case settle =>
      obtain ⟨qs, hasked, hu⟩ := h.settle
      refine traced_put (r := t.settle s.desk) (by simp [apply, ht]) ht hasked ?_
      simpa [heard?] using hu
    case answer reply =>
      refine traced_put (r := t.answered s.desk reply) (by simp [apply, ht]) ht
        (t.answered_asked s.desk reply) ?_
      simpa [heard?, ht] using h.answered reply
    case drop => exact absurd rfl hev
  · have hnone : s.heard? id ev = none := by
      cases ev <;> simp_all [heard?, Event.id?]
    rw [if_neg hid, hnone, task?_apply_of_ne hid]
    exact ⟨t, ht, hsame.after (s.apply_asked ev)⟩

theorem traced_play (ht : s.task? id = some t) (h : t.Traced wish s.desk got made)
    (hes : Event.drop id ∉ es) : ∃ u, (s.play es).task? id = some u ∧
      u.Traced wish (s.play es).desk (got.or (s.heard id es)) (made ++ s.callsOf id es) := by
  induction es generalizing s t got made with
  | nil => exact ⟨t, ht, by simpa [heard, callsOf, calls] using h⟩
  | cons ev es ih =>
    have hev : ev ≠ .drop id := fun he => hes (he ▸ List.mem_cons_self)
    obtain ⟨u, hu, htraced⟩ := traced_apply ht h hev
    rw [heard, callsOf_cons, ← Option.or_assoc, ← List.append_assoc]
    exact ih hu htraced fun hm => hes (List.mem_cons_of_mem ev hm)

end Session

/-- A selection that came to nothing. -/
def Task.IsIgnored : Task → Prop
  | .selection s => ∃ reason, s.outcome? = some (.ignored reason)
  | _ => False

/-- What a task asks that does what is wanted. A selection asks for nothing before it holds its
control or when it is ignored; else it asks for its change, at the endpoint of its control, and
after a refusal for the graph, if there is an endpoint for that. A refresh asks for the graph. -/
def Wish.Calls (d : Desk) (got : Option SetResult) (made : List Question) (t : Task) : Wish → Prop
  | .select seat action | .submit seat action _ =>
    let change := .setState ((d.setUrl? seat).getD "") ⟨seat.scope, Text.trim action⟩
    let due := change :: if refuses got then d.fetches else []
    made <+: due ∧
      (t.claims seat = false → t.isFinished = false → made = []) ∧
      (t.IsIgnored → made = []) ∧
      (t.rests = true → ¬ t.IsIgnored → (d.setUrl? seat).isSome ∧ made = due)
  | .refreshPage | .refreshStore => made <+: d.fetches ∧ (t.rests = true → made = d.fetches)

theorem Selection.Traced.calls (h : sel.Traced d got made) :
    (Wish.select sel.seat sel.action).Calls d got made (.selection sel) := by
  have hchange : Question.setState ((d.setUrl? sel.seat).getD "")
      ⟨sel.seat.scope, Text.trim sel.action⟩ = sel.change d := rfl
  simp only [Wish.Calls, hchange]
  cases hstage : sel.stage with
  | fetch refused refresh =>
    simp only [Traced, hstage] at h
    obtain ⟨hbound, hrefused, fetches, rfl, hr⟩ := h
    cases refresh <;>
      simp_all [Refresh.Traced, Task.claims, holdsClaim, Task.rests, Task.awaits, Task.isFinished,
        awaits, outcome?, Task.IsIgnored]
  | perform todo outcome | finished outcome =>
    cases outcome <;>
      simp_all [Traced, refuses, Task.claims, holdsClaim, Task.rests, Task.awaits, Task.isFinished,
        awaits, outcome?, Task.IsIgnored]
  | _ =>
    simp_all [Traced, refuses, Task.claims, holdsClaim, Task.rests, Task.awaits, Task.isFinished,
      awaits, outcome?, Task.IsIgnored]

theorem Task.Traced.calls (h : t.Traced wish d got made) : wish.Calls d got made t := by
  cases t with
  | selection sel =>
    have hcalls := h.2.calls
    cases wish with
    | select seat action =>
      obtain ⟨rfl, rfl⟩ := h.1
      exact hcalls
    | submit seat action seats =>
      obtain ⟨rfl, rfl⟩ := h.1
      exact hcalls
    | refreshPage => exact h.1.elim
    | refreshStore => exact h.1.elim
  | pageRefresh page r =>
    obtain ⟨rfl, hr⟩ := h
    cases r with
    | fetch r =>
      cases r <;>
        simp_all [Wish.Calls, PageRefresh.Traced, Refresh.Traced, rests, awaits, isFinished]
    | _ => simp_all [Wish.Calls, PageRefresh.Traced]
  | storeRefresh r =>
    obtain ⟨rfl, hr⟩ := h
    cases r <;> simp_all [Wish.Calls, Refresh.Traced, rests, awaits, isFinished]

namespace Session

/-- In every run, all that is asked is asked by steps of tasks that are not finished, and each task
up to where it is dropped asks what its wish calls for and nothing else. -/
theorem call_trace (hnew : s.task? id = none) (hes : Event.drop id ∉ es) :
    ((s.apply (.begin id wish)).play es).desk.questions =
      s.desk.questions ++ ((s.apply (.begin id wish)).calls es).map (·.2) ∧
    (∀ (now : Session) ev, now.asked ev ≠ [] → ∃ other t,
      (ev = .step other ∨ ev = .settle other) ∧ now.task? other = some t ∧
      t.isFinished = false) ∧
    ∃ t, ((s.apply (.begin id wish)).play es).task? id = some t ∧
      wish.Calls s.desk ((s.apply (.begin id wish)).heard id es)
        ((s.apply (.begin id wish)).callsOf id es) t := by
  have hdesk : (s.apply (.begin id wish)).desk = s.desk := by simp [apply, hnew]
  have hplay := (s.apply (.begin id wish)).play_asked es
  rw [hdesk] at hplay
  refine ⟨hplay.questions, fun now ev hne => ?_, ?_⟩
  · rcases now.apply_asked_cases ev with h | ⟨other, t, hev, ht, hf, -⟩
    · exact absurd (asked_eq h) hne
    · exact ⟨other, t, hev, ht, hf⟩
  · have hfirst :
        (Task.ofWish s.desk wish).Traced wish (s.apply (.begin id wish)).desk none [] := by
      rw [hdesk]
      exact Task.traced_ofWish s.desk wish
    obtain ⟨t, ht, htraced⟩ := traced_play (task?_begin hnew wish) hfirst hes
    refine ⟨t, ht, ?_⟩
    have hcalls := ((Task.traced_congr hplay.setUrl?_eq hplay.fetches_eq).mp htraced).calls
    simpa using hcalls

/-- What follows on the selection of an action for the order: one for the payment, and a refusal. -/
def inquiry : List Event :=
  [.settle 0, .begin 1 (.select ⟨0, ⟨"10001"⟩, .payment⟩ "process"), .settle 1,
    .answer 0 (.setState (.ok ⟨409, ⟨true, none, none, none, none⟩⟩)), .settle 0, .drop 1]

theorem call_trace_refusal :
    (remote.apply (.begin 0 (.select sampleSeat " process "))).callsOf 0 inquiry =
      [.setState "/set-order" ⟨.order, "process"⟩, .transitions "/meta"] := by
  have hend : ((remote.apply (.begin 0 (.select sampleSeat " process "))).play inquiry).task? 0 =
      some (.selection ⟨sampleSeat, " process ", samplePage.map fun x => ⟨0, x.order, x.scope⟩,
        .fetch ⟨409, ⟨true, none, none, none, none⟩⟩ (.asked "/meta")⟩) := rfl
  have hnot : Event.drop 0 ∉ inquiry := by simp [inquiry]
  obtain ⟨t, ht, hcalls⟩ :
      ∃ t, ((remote.apply (.begin 0 (.select sampleSeat " process "))).play inquiry).task? 0 =
        some t ∧ _ := (call_trace rfl hnot).2.2
  obtain rfl := Option.some.inj (ht.symm.trans hend)
  exact (hcalls.2.2.2 rfl (by rintro ⟨_, ⟨⟩⟩)).2.trans rfl

end Session
end OrderDesk
