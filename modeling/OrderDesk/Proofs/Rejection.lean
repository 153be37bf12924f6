import OrderDesk.Proofs.Choices

/-! What a rejection tells. When the graph is fetched after a refusal, the controls follow before
the actions on offer are looked up, so what the selection returns, what its control offers and what
it tells are one list. When the graph cannot be fetched, the backend's own words are told, and
nothing else changes. -/
namespace OrderDesk

variable {d e : Desk} {s : Session} {sel : Selection} {t : Task} {c : Control} {g : Graph}
  {stage : Stage} {seat : Seat} {seats todo : List Seat} {ev : Event} {es : List Event}
  {reply : Reply} {refused : SetReply} {error : RefreshError} {got : Option SetResult} {id : Nat}

/-- The choices but the first are the actions that they were made for. -/
theorem Control.tail_choicesFor (actions : List String) :
    (choicesFor actions).tail.map (·.action) = actions := by
  cases actions with
  | nil => rfl
  | cons action rest => simp [choicesFor, Function.comp_def]

/-- Whatever a control offered before, it offers what a graph permits once it is brought up to date
with it. -/
theorem Desk.offersAt_populates (hm : seat ∈ seats) :
    (d.perform (seats.map fun other => (other, .populate g))).OffersAt seat g := by
  induction seats generalizing d with
  | nil => cases hm
  | cons other seats ih =>
    by_cases hrest : seat ∈ seats
    · exact ih hrest
    · obtain rfl : seat = other := (List.mem_cons.mp hm).resolve_right hrest
      have hnow : (d.touch seat (.populate g)).OffersAt seat g := by
        intro c hc
        rw [Desk.control?_touch] at hc
        obtain ⟨c₀, -, rfl⟩ := Option.map_eq_some_iff.mp hc
        simpa using c₀.offers_populate g
      have hafter : ((d.touch seat (.populate g)).perform
          (seats.map fun other => (other, .populate g))).OffersAt seat
            (if seat ∈ seats then g else g) := hnow.populates seats
      rw [ite_self] at hafter
      exact hafter

/-- What is told when the graph cannot be fetched: the error that the backend reported, or a text
for one that reported none. -/
def SetReply.complaint (r : SetReply) : String :=
  r.body.errorMessage.getD Feedback.setFailed

namespace Selection

/-- The operations that close a selection that was not made. -/
def closing (s : Selection) (message : String) : List (Seat × Touch) :=
  [(s.seat, .tell (Feedback.error message)), (s.seat, .hideProgress), (s.seat, .release)]

/-- The operations by which a selection has controls follow the graph that it fetched. -/
def renewals (d : Desk) (s : Selection) (todo : List Seat) (g : Graph) : List (Seat × Touch) :=
  (todo.filter (s.reaches d)).map fun other => (other, .populate g)

/-- The desk when a selection has fetched a graph and the controls have followed. -/
def renewed (d : Desk) (s : Selection) (g : Graph) : Desk :=
  { d with store := d.store.adopted g }.perform (s.renewals d s.seats g)

/-- The actions on offer when a selection has fetched a graph. -/
def offered (d : Desk) (s : Selection) (g : Graph) : List String :=
  ((s.renewed d g).control? s.seat).elim [] (·.permitted g)

theorem renewals_congr (hd : ∀ other, e.isBusy other = d.isBusy other) (s : Selection)
    (stage : Stage) (todo : List Seat) (g : Graph) :
    (s.moveTo stage).renewals e todo g = s.renewals d todo g := by
  have hreach : (s.moveTo stage).reaches e = s.reaches d := by
    funext other
    exact reaches_moveTo (hd other) s stage
  rw [renewals, renewals, hreach]

end Selection

namespace Task

theorem settle_closing {message : String} {o : Outcome}
    (hs : sel.stage = .perform [(sel.seat, .tell (Feedback.error message))] o) :
    (selection sel).settle d =
      (d.perform (sel.closing message), selection (sel.moveTo (.finished o))) :=
  settle_perform hs

/-- A selection that learns that its request came to nothing. -/
theorem settle_failure {epoch : Nat} {cause : TransportError}
    (hs : sel.stage = .conclude epoch (.error cause)) :
    (selection sel).settle d =
      (d.perform ((sel.seat, .endProgress) :: sel.closing Feedback.networkFailure),
        selection (sel.moveTo (.finished (.failed Feedback.networkFailure)))) := by
  rw [settle_step (rests_of_stage hs)]
  simp only [step, Selection.step, hs, Selection.verdict]
  exact settle_closing rfl

/-- A selection that was refused and could not fetch the graph. -/
theorem settle_unfetched (hs : sel.stage = .fetch refused (.done (.error error))) :
    (selection sel).settle d = (d.perform (sel.closing refused.complaint),
      selection (sel.moveTo (.finished (.rejected none refused.complaint)))) := by
  rw [settle_step (rests_of_stage hs)]
  simp only [step, Selection.step, hs]
  exact settle_closing rfl

/-- The controls that a selection reaches follow the graph that it fetched, one by one. -/
theorem settle_repopulate (hs : sel.stage = .repopulate g todo) :
    (selection sel).settle d =
      (selection (sel.moveTo (.reread g))).settle (d.perform (sel.renewals d todo g)) := by
  induction todo generalizing d sel with
  | nil =>
    rw [settle_step (rests_of_stage hs)]
    simp [step, Selection.step, hs, Selection.renewals, Desk.perform]
  | cons other todo ih =>
    rw [settle_step (rests_of_stage hs)]
    cases hr : sel.reaches d other with
    | true =>
      have hn : other = sel.seat ∨ d.isBusy other = false := by
        simpa [Selection.reaches] using hr
      have hbusy : ∀ seat, (d.touch other (.populate g)).isBusy seat = d.isBusy seat :=
        fun _ => Desk.isBusy_touch (by simp) (by simp)
      have hrow : sel.renewals d (other :: todo) g =
          (other, .populate g) :: sel.renewals d todo g := by
        simp [Selection.renewals, hr]
      have hnext : (selection sel).step d = (d, selection (sel.moveTo (.renew g other todo))) := by
        simp [step, Selection.step, hs, hn]
      rw [hnext, settle_step rfl]
      refine (@ih (d.touch other (.populate g)) (sel.moveTo (.repopulate g todo)) rfl).trans ?_
      rw [Selection.renewals_congr hbusy, hrow]
      rfl
    | false =>
      have hn : ¬ (other = sel.seat ∨ d.isBusy other = false) := by
        simpa [Selection.reaches] using hr
      have hrow : sel.renewals d (other :: todo) g = sel.renewals d todo g := by
        simp [Selection.renewals, hr]
      have hnext : (selection sel).step d = (d, selection (sel.moveTo (.repopulate g todo))) := by
        simp [step, Selection.step, hs, hn]
      rw [hnext, hrow, ih rfl]
      rfl

/-- A selection that was refused and has fetched a graph. The store takes the graph first, then the
controls follow, and then the actions on offer are looked up. -/
theorem settle_fetched (hs : sel.stage = .fetch refused (.adopt g)) :
    (selection sel).settle d =
      ((sel.renewed d g).perform (sel.closing (Feedback.unavailable (sel.offered d g))),
        selection (sel.moveTo (.finished (.rejected (some (sel.offered d g))
          (Feedback.unavailable (sel.offered d g)))))) := by
  have hadopted : (selection sel).settle d =
      (selection (sel.moveTo (.repopulate g sel.seats))).settle
        { d with store := d.store.adopted g } := by
    rw [settle_step (rests_of_stage hs)]
    simp only [step, Selection.step, hs]
    rw [settle_step rfl, settle_step rfl, settle_step rfl]
    rfl
  rw [hadopted, settle_repopulate rfl, settle_step rfl]
  exact settle_closing rfl

/-- A selection that is refused goes on to fetch the graph, and fails at once to do so when there is
no endpoint to ask. -/
theorem settle_refused {epoch : Nat} (hs : sel.stage = .conclude epoch (.ok refused))
    (hr : refused.isSuccess = false) :
    (selection sel).settle d =
      match d.store.metaUrl with
      | none => (d.perform ((sel.seat, .endProgress) :: sel.closing refused.complaint),
        selection (sel.moveTo (.finished (.rejected none refused.complaint))))
      | some url => ((d.touch sel.seat .endProgress).ask (.transitions url),
        selection (sel.moveTo (.fetch refused (.asked url)))) := by
  have hclosed : (selection sel).settle d =
      (selection (sel.moveTo (.fetch refused .ask))).settle (d.touch sel.seat .endProgress) := by
    rw [settle_step (rests_of_stage hs)]
    simp [step, Selection.step, hs, Selection.verdict, hr]
  rw [hclosed, settle_step rfl]
  cases hurl : d.store.metaUrl with
  | none =>
    have hurl : (d.touch sel.seat .endProgress).store.metaUrl = none := hurl
    simp only [step, Selection.step, Selection.moveTo_stage, Refresh.step, hurl]
    exact settle_unfetched rfl
  | some url =>
    have hurl : (d.touch sel.seat .endProgress).store.metaUrl = some url := hurl
    simp only [step, Selection.step, Selection.moveTo_stage, Refresh.step, hurl]
    exact settle_of_rests rfl

end Task
/-- What comes of a rejection, from the desk before the turn that it ends in to the desk after: what
its control shows, and what it returns for a reply that refused the change and for the result of the
refresh that followed. -/
structure Rejected (d e : Desk) (seat : Seat) (refused : SetReply)
    (res : Except RefreshError Graph) (available : Option (List String)) (message : String) :
    Prop where
  /-- No control takes over a state. -/
  states : ∀ other, e.stateAt other = d.stateAt other
  /-- The control is there and tells the message. -/
  told : ∃ c, e.control? seat = some c ∧ c.view.feedback = some (Feedback.error message)
  /-- With a graph, what is returned, what the control offers and what it tells is what the graph of
  the store permits in the state that the control shows. -/
  fetched : ∀ g, res = .ok g → ∃ c actions, e.control? seat = some c ∧ e.store.graph = g ∧
    e.store.graph.actionsFor seat.scope c.view.state = actions ∧
    c.view.choices.tail.map (·.action) = actions ∧ available = some actions ∧
    message = "Nicht möglich. Verfügbare Übergänge: " ++
      if actions.isEmpty then "keine" else String.intercalate ", " actions
  /-- Without one, no actions are returned, the store and all choices are as before, and the
  message is the error that the backend reported, if it is not blank. -/
  unfetched : ∀ error, res = .error error → available = none ∧ e.store = d.store ∧
    (∀ other, (e.control? other).map (·.view.choices) = (d.control? other).map (·.view.choices)) ∧
    message = ((refused.body.error.map Text.trim).filter fun m => !m.isEmpty).getD
      "Status konnte nicht gesetzt werden."

theorem SetReply.complaint_eq (r : SetReply) :
    r.complaint = ((r.body.error.map Text.trim).filter fun m => !m.isEmpty).getD
      "Status konnte nicht gesetzt werden." := by
  cases h : r.body.error with
  | none => simp [complaint, SetResponse.errorMessage, h, Feedback.setFailed]
  | some raw =>
    simp [complaint, SetResponse.errorMessage, h, Text.nonBlank?, Option.filter,
      Feedback.setFailed]

namespace Selection

/-- To close a selection on a control is to tell what went wrong and to give the control up. -/
theorem undergo_closing (s : Selection) (message : String) (c : Control) :
    c.undergo (s.closing message) = if c.seat = s.seat then
      { c with feedback := some (Feedback.error message), progress := false, busy := false }
    else c := by
  by_cases h : c.seat = s.seat <;> simp [closing, h, Control.touch]

/-- Closing a selection leaves the states and the choices of all controls as they are. -/
theorem closing_frame (d : Desk) (s : Selection) (message : String) (other : Seat) :
    (d.perform (s.closing message)).stateAt other = d.stateAt other ∧
      ((d.perform (s.closing message)).control? other).map (·.view.choices) =
        (d.control? other).map (·.view.choices) := by
  simp only [Desk.stateAt, Desk.control?_perform, Option.map_map]
  constructor
  · refine Option.map_congr fun c _ => ?_
    simp only [Function.comp_apply, undergo_closing]
    split <;> rfl
  · refine Option.map_congr fun c _ => ?_
    simp only [Function.comp_apply, undergo_closing]
    split <;> rfl

/-- When a selection has fetched a graph, its own control offers what the graph permits. -/
theorem offers_renewed (hseat : sel.seat ∈ sel.seats) (d : Desk) (g : Graph) :
    (sel.renewed d g).OffersAt sel.seat g := by
  refine Desk.offersAt_populates (List.mem_filter.mpr ⟨hseat, ?_⟩)
  simp [reaches]

/-- A rejection after which the graph was fetched. -/
theorem rejected_fetched (hseat : sel.seat ∈ sel.seats) (hbound : (d.setUrl? sel.seat).isSome)
    (refused : SetReply) (g : Graph) :
    Rejected d
      ((sel.renewed d g).perform (sel.closing (Feedback.unavailable (sel.offered d g))))
      sel.seat refused (.ok g) (some (sel.offered d g))
      (Feedback.unavailable (sel.offered d g)) := by
  have htouched : d.Touched (sel.renewed d g) := by
    refine ⟨sel.renewals d sel.seats g, ?_⟩
    rw [renewed, Desk.perform_eq, Desk.perform_eq]
  obtain ⟨url, hurl⟩ := Option.isSome_iff_exists.mp hbound
  rw [← htouched.setUrl?_eq] at hurl
  obtain ⟨c, hc, hset⟩ := Option.bind_eq_some_iff.mp hurl
  have hcs : c.seat = sel.seat := Desk.seat_of_control? hc
  have hoffered : sel.offered d g = c.permitted g := by rw [offered, hc]; rfl
  have hchoices : c.choices = Control.choicesFor (c.permitted g) :=
    (offers_renewed hseat d g c hc (by simp [Control.isBound, hset])).2
  have hend : ((sel.renewed d g).perform
      (sel.closing (Feedback.unavailable (sel.offered d g)))).control? sel.seat = some { c with
        feedback := some (Feedback.error (Feedback.unavailable (sel.offered d g)))
        progress := false
        busy := false } := by
    rw [Desk.control?_perform, hc, Option.map_some, undergo_closing, if_pos hcs]
  have hgraph : ((sel.renewed d g).perform
      (sel.closing (Feedback.unavailable (sel.offered d g)))).store.graph = g := by
    rw [Desk.store_perform, renewed, Desk.store_perform]
    exact Store.adopted_graph _ g
  refine ⟨fun other => ?_, ⟨_, hend, rfl⟩, ?_, by simp⟩
  · rw [(closing_frame _ sel _ other).1]
    refine Desk.stateAt_perform_of_none fun p hp => ?_
    obtain ⟨_, -, rfl⟩ := List.mem_map.mp hp
    rfl
  · intro g' hg
    obtain rfl := Except.ok.inj hg
    refine ⟨_, sel.offered d g, hend, hgraph, ?_, ?_, rfl, rfl⟩
    · rw [hgraph, hoffered, Control.permitted, hcs]
      rfl
    · change c.choices.tail.map (·.action) = _
      rw [hchoices, Control.tail_choicesFor, hoffered]

/-- A rejection after which the graph could not be fetched. -/
theorem rejected_unfetched (hbound : (d.setUrl? sel.seat).isSome) (refused : SetReply)
    (error : RefreshError) :
    Rejected d (d.perform (sel.closing refused.complaint)) sel.seat refused (.error error) none
      refused.complaint := by
  obtain ⟨url, hurl⟩ := Option.isSome_iff_exists.mp hbound
  obtain ⟨c, hc, -⟩ := Option.bind_eq_some_iff.mp hurl
  refine ⟨fun other => (closing_frame d sel _ other).1, ?_, by simp, fun _ _ => ⟨rfl, ?_, ?_, ?_⟩⟩
  · refine ⟨{ c with
      feedback := some (Feedback.error refused.complaint)
      progress := false
      busy := false }, ?_, rfl⟩
    rw [Desk.control?_perform, hc, Option.map_some, undergo_closing,
      if_pos (Desk.seat_of_control? hc)]
  · exact d.store_perform _
  · exact fun other => (closing_frame d sel _ other).2
  · exact refused.complaint_eq

end Selection

/-- To close the progress before a rejection changes no state, no choices and no store. -/
theorem Rejected.after_endProgress {res : Except RefreshError Graph}
    {available : Option (List String)} {message : String}
    (h : Rejected (d.touch seat .endProgress) e seat refused res available message) :
    Rejected d e seat refused res available message := by
  refine ⟨fun other => ?_, h.told, h.fetched, fun error he => ?_⟩
  · exact (h.states other).trans (Desk.stateAt_touch_of_none rfl)
  · obtain ⟨hnone, hstore, hchoices, hmessage⟩ := h.unfetched error he
    refine ⟨hnone, hstore, fun other => (hchoices other).trans ?_, hmessage⟩
    rw [Desk.control?_touch, Option.map_map]
    refine Option.map_congr fun c _ => ?_
    simp only [Function.comp_apply]
    split <;> rfl

namespace Selection

/-- A selection that a page began has the controls of the page before it, and once it holds its
control it has found an endpoint there. Where it goes by the answer to its request, that is the
answer it got. -/
structure Recalls (d : Desk) (got : Option SetResult) (s : Selection) : Prop where
  bound : s.holdsClaim = true → (d.setUrl? s.seat).isSome
  page : s.seats = d.seatsOn s.seat.page
  heard : ∀ epoch result, s.stage = .conclude epoch result → got = some result
  refused : ∀ reply r, s.stage = .fetch reply r → got = some (.ok reply) ∧ reply.isSuccess = false

theorem Recalls.after (h : sel.Recalls d got) (he : d.Touched e) : sel.Recalls e got where
  bound := fun hc => (he.setUrl?_eq sel.seat).symm ▸ h.bound hc
  page := by rw [h.page, Desk.seatsOn_eq, Desk.seatsOn_eq, he.seats_eq]
  heard := h.heard
  refused := h.refused

theorem Step.recalls (h : Step d sel e stage) (hr : sel.Recalls d got) :
    (sel.moveTo stage).Recalls e got := by
  have hkept := hr.after h.touched
  refine ⟨h.bound hr.bound, hkept.page, fun epoch result hs => ?_, fun reply r hs => ?_⟩
  · cases h <;> simp [success, refusal, explanation] at hs
  · cases h with
    | refuse hstage hrefused =>
      obtain ⟨rfl, -⟩ := Stage.fetch.inj hs
      exact ⟨hr.heard _ _ hstage, hrefused⟩
    | fetch hstage _ =>
      obtain ⟨rfl, -⟩ := Stage.fetch.inj hs
      exact hr.refused _ _ hstage
    | _ => simp [success, refusal, explanation] at hs

theorem Recalls.answered (h : sel.Recalls d got) (reply : Reply) :
    (sel.answered d reply).2.Recalls (sel.answered d reply).1 ((sel.heard? reply).or got) := by
  rcases sel.answered_cases d reply with
    ha | ⟨epoch, url, result, hstage, rfl, ha⟩ | ⟨refused, url, m, hstage, rfl, ha⟩
  · rw [ha]
    cases hstage : sel.stage with
    -- It may wait for this answer only to take it, and then there is nothing to recall yet.
    | sent epoch url => exact ⟨h.bound, h.page, by simp [hstage], by simp [hstage]⟩
    | _ =>
      rw [heard?_of_not_sent (by simp [hstage]) reply]
      exact h
  · have hheard : sel.heard? (.setState result) = some result := by
      simp [heard?, awaits, hstage, Question.isChange]
    rw [ha, hheard]
    refine ⟨fun _ => h.bound (by simp [holdsClaim, hstage]), h.page, ?_, by simp⟩
    rintro _ _ hs
    obtain ⟨-, rfl⟩ := Stage.conclude.inj hs
    rfl
  · rw [ha]
    refine ⟨fun _ => h.bound (by simp [holdsClaim, hstage]), h.page, by simp, ?_⟩
    intro reply r hs
    obtain ⟨rfl, -⟩ := Stage.fetch.inj hs
    exact h.refused _ _ hstage

end Selection

/-- A selection that is not given controls of its own begins with those of its page. -/
theorem Task.recalls_ofWish {wish : Wish}
    (hw : ∀ seat action seats, wish ≠ .submit seat action seats) :
    (ofWish d wish).Meets (fun d s => s.Recalls d got) d := by
  intro sel hs
  cases wish with
  | select seat action =>
    obtain rfl := Task.selection.inj hs
    exact ⟨by simp [Selection.holdsClaim], rfl, by simp, by simp⟩
  | submit seat action seats => exact absurd rfl (hw seat action seats)
  | refreshPage | refreshStore => cases hs

namespace Session

/-- The last answer to its change that the task of a number gets in the turns of a row of events. -/
def replied (s : Session) (id : Nat) : List Event → Option SetResult
  | [] => none
  | e :: es => ((s.turn e).replied id es).or (s.heard? id e)

theorem replied_concat (s : Session) (id : Nat) (es : List Event) (ev : Event) :
    s.replied id (es ++ [ev]) = ((s.turns es).heard? id ev).or (s.replied id es) := by
  induction es generalizing s with
  | nil => simp [replied]
  | cons e es ih => rw [List.cons_append, replied, ih, turns_cons, replied, Option.or_assoc]

/-- The selection of a number recalls the answer that it got. -/
def Recalls (s : Session) (id : Nat) (got : Option SetResult) : Prop :=
  ∀ sel, s.task? id = some (.selection sel) → sel.Recalls s.desk got

theorem recalls_turn (hs : s.Calm)
    (hpage : ∀ seat action seats, ev ≠ .begin id (.submit seat action seats))
    (h : s.Recalls id got) : (s.turn ev).Recalls id ((s.heard? id ev).or got) := by
  intro sel hsel
  rcases task?_turn_cases hs hsel with
    ⟨ht, hno⟩ | ⟨wish, rfl, -, hd, ht⟩ | ⟨reply, t, rfl, hold, hd, ht⟩
  · have hnone : s.heard? id ev = none := by
      cases ev with
      | answer other reply =>
        have hne : other ≠ id := by
          rintro rfl
          exact hno reply rfl
        simp [heard?, hne]
      | _ => rfl
    rw [hnone]
    exact (h sel ht).after (s.play_touched ev.toRest)
  · rw [hd]
    have hw : ∀ seat action seats, wish ≠ .submit seat action seats := by
      rintro seat action seats rfl
      exact hpage seat action seats rfl
    exact Task.meets_settle Selection.Step.recalls (Task.recalls_ofWish hw) sel ht.symm
  · rw [hd]
    have hheard : s.heard? id (.answer id reply) = t.heard? reply := by simp [heard?, hold]
    rw [hheard]
    refine Task.meets_settle Selection.Step.recalls ?_ sel ht.symm
    intro u hu
    obtain ⟨v, rfl, rfl, hdesk⟩ := Task.answered_selection hu
    rw [hdesk]
    exact (h v hold).answered reply

theorem recalls_turns (hs : s.Calm)
    (hpage : ∀ seat action seats, Event.begin id (.submit seat action seats) ∉ es)
    (h : s.Recalls id got) : (s.turns es).Recalls id ((s.replied id es).or got) := by
  induction es generalizing s got with
  | nil => simpa [replied] using h
  | cons e es ih =>
    rw [turns_cons, replied, Option.or_assoc]
    refine ih (calm_turn hs e) (fun seat action seats hm => ?_) (recalls_turn hs ?_ h)
    · exact hpage seat action seats (List.mem_cons_of_mem e hm)
    · rintro seat action seats rfl
      exact hpage seat action seats List.mem_cons_self

end Session

/-- A selection that begins is not rejected before it gets an answer. -/
theorem Task.not_rejected_of_begin {wish : Wish} {available : Option (List String)}
    {message : String} (hu : .selection sel = ((Task.ofWish d wish).settle d).2) :
    sel.stage ≠ .finished (.rejected available message) := by
  intro hstage
  obtain ⟨_, -, htraced⟩ := (Task.traced_ofWish d wish).settle
  rw [← hu] at htraced
  simp [Task.Traced, Selection.Traced, hstage, refuses] at htraced

/-- Only a selection goes on as a selection. -/
theorem Task.exists_selection (hu : .selection sel = (t.settle d).2) : ∃ s, t = .selection s := by
  have hnever : (∀ s, t ≠ .selection s) → t.Meets (fun _ _ => False) d := fun h s hs => h s hs
  cases t with
  | selection s => exact ⟨s, rfl⟩
  | _ => exact (Task.meets_settle (fun _ hf => hf) (hnever (by simp)) sel hu.symm).elim

/-- A selection that holds its control has it among those before it. -/
theorem Selection.Recalls.seat_mem (h : sel.Recalls d got) (hc : sel.holdsClaim = true) :
    sel.seat ∈ sel.seats := by
  obtain ⟨url, hurl⟩ := Option.isSome_iff_exists.mp (h.bound hc)
  obtain ⟨c, hcontrol, -⟩ := Option.bind_eq_some_iff.mp hurl
  rw [h.page, Desk.seatsOn_eq]
  exact List.mem_filter.mpr ⟨Desk.exists_control_iff.mp ⟨c, hcontrol⟩, by simp⟩

section

variable {u : Selection} {available : Option (List String)} {message : String}

/-- A request that is refused when there is no endpoint to fetch the graph from is rejected by that
answer, and by no other one that it waits for. -/
theorem Task.rejected_of_reply {epoch : Nat} {url : String} (hs : u.stage = .sent epoch url)
    (hr : u.Recalls d got)
    (hsel : .selection sel = (((selection u).answered d reply).2.settle
      ((selection u).answered d reply).1).2)
    (hstage : sel.stage = .finished (.rejected available message)) :
    ∃ refused res, (u.heard? reply).or got = some (.ok refused) ∧ refused.isSuccess = false ∧
      (selection u).returns? d.store.metaUrl reply = some res ∧
      Rejected d (((selection u).answered d reply).2.settle
        ((selection u).answered d reply).1).1 sel.seat refused res available message := by
  have hbound : (d.setUrl? u.seat).isSome := hr.bound (by simp [Selection.holdsClaim, hs])
  rcases reply with m | cause | refused
  · have hsame : (selection u).answered d (.transitions m) = (d, selection u) := by
      simp [answered, Selection.answered, hs]
    rw [hsame, settle_of_rests (by simp [rests, awaits, Selection.awaits, hs])] at hsel
    obtain rfl := Task.selection.inj hsel
    simp [hs] at hstage
  · rw [answered_of_sent hs, settle_failure rfl] at hsel
    obtain rfl := Task.selection.inj hsel
    simp at hstage
  · have hurl : (d.stopTimers u.seat epoch).store.metaUrl = d.store.metaUrl := rfl
    rw [answered_of_sent hs] at hsel ⊢
    cases hok : refused.isSuccess with
    | true =>
      rw [settle_success rfl hok] at hsel
      obtain rfl := Task.selection.inj hsel
      simp at hstage
    | false =>
      rw [settle_refused rfl hok, hurl] at hsel ⊢
      cases hnone : d.store.metaUrl with
      | some endpoint =>
        rw [hnone] at hsel
        obtain rfl := Task.selection.inj hsel
        simp at hstage
      | none =>
        rw [hnone] at hsel
        obtain rfl := Task.selection.inj hsel
        obtain ⟨rfl, rfl⟩ := Outcome.rejected.inj (Stage.finished.inj hstage)
        have htouched := Desk.Touched.touch (d.stopTimers u.seat epoch) u.seat .endProgress
        have hend :
            (((d.stopTimers u.seat epoch).touch u.seat .endProgress).setUrl? u.seat).isSome :=
          (htouched.setUrl?_eq u.seat).symm ▸ hbound
        have hrejected : Rejected (d.stopTimers u.seat epoch) _ u.seat refused
            (.error .noEndpoint) none refused.complaint :=
          (Selection.rejected_unfetched hend refused _).after_endProgress
        refine ⟨refused, .error .noEndpoint, ?_, hok, ?_, ?_⟩
        · simp [Selection.heard?, Selection.awaits, hs, Question.isChange]
        · simp [returns?, awaits, Selection.awaits, hs, Question.isChange, hok]
        · exact ⟨hrejected.states, hrejected.told, hrejected.fetched, hrejected.unfetched⟩

/-- A selection that was refused and waits for the graph is rejected by the answer to that. -/
theorem Task.rejected_of_graph {refused : SetReply} {url : String}
    (hs : u.stage = .fetch refused (.asked url)) (hr : u.Recalls d got)
    (hsel : .selection sel = (((selection u).answered d reply).2.settle
      ((selection u).answered d reply).1).2)
    (hstage : sel.stage = .finished (.rejected available message)) :
    ∃ refused res, (u.heard? reply).or got = some (.ok refused) ∧ refused.isSuccess = false ∧
      (selection u).returns? d.store.metaUrl reply = some res ∧
      Rejected d (((selection u).answered d reply).2.settle
        ((selection u).answered d reply).1).1 sel.seat refused res available message := by
  have hholds : u.holdsClaim = true := by simp [Selection.holdsClaim, hs]
  obtain ⟨hgot, hrefused⟩ := hr.refused _ _ hs
  cases reply with
  | setState result =>
    have hsame : (selection u).answered d (.setState result) = (d, selection u) := by
      simp [answered, Selection.answered, hs]
    rw [hsame, settle_of_rests (by simp [rests, awaits, Selection.awaits, hs])] at hsel
    obtain rfl := Task.selection.inj hsel
    simp [hs] at hstage
  | transitions m =>
    have hreturns : ∀ res, (Refresh.answered m).result? d.store.metaUrl = some res →
        (selection u).returns? d.store.metaUrl (.transitions m) = some res := by
      intro res hres
      rw [Refresh.result?_answered] at hres
      simpa [returns?, awaits, Selection.awaits, hs, Question.isChange] using hres
    rw [answered_of_asked hs] at hsel ⊢
    rcases Refresh.answered_cases m with ⟨g, -, ha⟩ | ⟨-, error, ha⟩
    · rw [ha, settle_fetched rfl] at hsel ⊢
      obtain rfl := Task.selection.inj hsel
      obtain ⟨rfl, rfl⟩ := Outcome.rejected.inj (Stage.finished.inj hstage)
      refine ⟨refused, .ok g, hgot, hrefused, hreturns _ (by rw [ha]; rfl), ?_⟩
      exact Selection.rejected_fetched (hr.seat_mem hholds) (hr.bound hholds) refused g
    · rw [ha, settle_unfetched rfl] at hsel ⊢
      obtain rfl := Task.selection.inj hsel
      obtain ⟨rfl, rfl⟩ := Outcome.rejected.inj (Stage.finished.inj hstage)
      refine ⟨refused, .error error, hgot, hrefused, hreturns _ (by rw [ha]; rfl), ?_⟩
      exact Selection.rejected_unfetched (hr.bound hholds) refused error

end

namespace Session

/-- What a turn comes to in which a selection is rejected. -/
theorem rejected_turn {available : Option (List String)} {message : String} (hs : s.Calm)
    (hr : s.Recalls id got) (hbefore : ∀ t, s.task? id = some t → t.isFinished = false)
    (hafter : (s.turn ev).task? id = some (.selection sel))
    (hstage : sel.stage = .finished (.rejected available message)) :
    ∃ refused res, (s.heard? id ev).or got = some (.ok refused) ∧ refused.isSuccess = false ∧
      s.returns? id ev = some res ∧
      Rejected s.desk (s.turn ev).desk sel.seat refused res available message := by
  rcases task?_turn_cases hs hafter with
    ⟨ht, -⟩ | ⟨wish, rfl, -, -, ht⟩ | ⟨reply, t, rfl, hold, hd, ht⟩
  · have hnot := hbefore _ ht
    simp [Task.isFinished, Selection.outcome?, hstage] at hnot
  · exact absurd hstage (Task.not_rejected_of_begin ht)
  · have hwaits := hs.rests _ (mem_of_task? hold)
    obtain ⟨u', hu'⟩ := Task.exists_selection ht
    obtain ⟨u, rfl, -, -⟩ := Task.answered_selection hu'
    have hheard : s.heard? id (.answer id reply) = u.heard? reply := by
      simp [heard?, hold, Task.heard?]
    have hreturns : s.returns? id (.answer id reply) =
        (Task.selection u).returns? s.desk.store.metaUrl reply := by simp [returns?, hold]
    rw [hheard, hreturns, hd]
    cases Task.resting_of_rests hwaits with
    | sent hstageu => exact Task.rejected_of_reply hstageu (hr u hold) ht hstage
    | asked hstageu => exact Task.rejected_of_graph hstageu (hr u hold) ht hstage
    | ended hstageu =>
      have hnot := hbefore _ hold
      simp [Task.isFinished, Selection.outcome?, hstageu] at hnot

/-- A task that hears of its change waited for that. -/
theorem sent_of_heard? {result : SetResult} (h : s.heard? id ev = some result) :
    ∃ u epoch url, ev = .answer id (.setState result) ∧ s.task? id = some (.selection u) ∧
      u.stage = .sent epoch url := by
  cases ev with
  | answer other reply =>
    simp only [heard?, Option.ite_none_right_eq_some] at h
    obtain ⟨rfl, h⟩ := h
    obtain ⟨t, ht, h⟩ := Option.bind_eq_some_iff.mp h
    cases t with
    | selection u =>
      have hsent : ∃ epoch url, u.stage = .sent epoch url := by
        by_contra hno
        simp only [not_exists] at hno
        simp [Task.heard?, Selection.heard?_of_not_sent hno] at h
      obtain ⟨epoch, url, hstage⟩ := hsent
      cases reply with
      | transitions m => cases h
      | setState answer =>
        simp only [Task.heard?, Selection.heard?, Option.ite_none_right_eq_some,
          Option.some.injEq] at h
        obtain ⟨-, rfl⟩ := h
        exact ⟨u, epoch, url, rfl, ht, hstage⟩
    | _ => cases h
  | _ => cases h

/-- A refusal changes no state in the turn in which it arrives. -/
theorem stateAt_refused {refused : SetReply} (h : s.heard? id ev = some (.ok refused))
    (hr : refused.isSuccess = false) (other : Seat) :
    (s.turn ev).desk.stateAt other = s.desk.stateAt other := by
  obtain ⟨u, epoch, url, rfl, ht, hstage⟩ := sent_of_heard? h
  have hclosed : ((s.desk.stopTimers u.seat epoch).touch u.seat .endProgress).stateAt other =
      s.desk.stateAt other := Desk.stateAt_touch_of_none rfl
  rw [turn_answer ht, Task.answered_of_sent hstage, Task.settle_refused rfl hr]
  cases (s.desk.stopTimers u.seat epoch).store.metaUrl with
  | some endpoint => exact hclosed
  | none => exact (Selection.closing_frame _ u _ other).1.trans hclosed

/-- In every run of turns, when a selection that a page began is over and rejected, its reply
refused the change and a refresh has returned. With a graph, what the selection returns, what its
control offers and what it tells is what the graph of the store permits now in the state that the
control shows now. Without one, it tells what the backend reported, and the store and all choices
are as before. Neither the refusal nor the rejection changes a state. -/
theorem rejection_report (store : Store) (schedule : Schedule) (ds : List Descriptor)
    {available : Option (List String)} {message : String}
    (hpage : ∀ seat action seats, Event.begin id (.submit seat action seats) ∉ es ++ [ev])
    (hbefore : ∀ t, ((opened store schedule ds).turns es).task? id = some t →
      t.isFinished = false)
    (hafter : (((opened store schedule ds).turns es).turn ev).task? id = some (.selection sel))
    (hover : sel.outcome? = some (.rejected available message)) :
    ∃ refused res,
      (opened store schedule ds).replied id (es ++ [ev]) = some (.ok refused) ∧
      refused.isSuccess = false ∧
      ((opened store schedule ds).turns es).returns? id ev = some res ∧
      Rejected ((opened store schedule ds).turns es).desk
        (((opened store schedule ds).turns es).turn ev).desk sel.seat refused res available
        message ∧
      ∀ pre f post, es = pre ++ f :: post →
        ((opened store schedule ds).turns pre).heard? id f = some (.ok refused) →
        ∀ other, (((opened store schedule ds).turns pre).turn f).desk.stateAt other =
          ((opened store schedule ds).turns pre).desk.stateAt other := by
  have hcalm := calm_opened store schedule ds
  have hstage : sel.stage = .finished (.rejected available message) := by
    unfold Selection.outcome? at hover
    split at hover <;> simp_all
  have hfirst : (opened store schedule ds).Recalls id none := fun sel hsel => by cases hsel
  have hrecalls := recalls_turns hcalm
    (fun seat action seats hm => hpage seat action seats (List.mem_append_left _ hm)) hfirst
  rw [Option.or_none] at hrecalls
  obtain ⟨refused, res, hreply, hrefused, hreturns, hrejected⟩ :=
    rejected_turn (calm_turns hcalm es) hrecalls hbefore hafter hstage
  refine ⟨refused, res, (replied_concat _ _ _ _).trans hreply, hrefused, hreturns, hrejected, ?_⟩
  intro pre f post _ hheard other
  exact stateAt_refused hheard hrefused other

/-- A change of the order is refused. While the graph is fetched, a change of the payment is made
that moves the order on. -/
def crossing : List Event :=
  [.begin 0 (.select sampleSeat "process"),
    .answer 0 (.setState (.ok ⟨409, ⟨true, none, none, none, some "Gesperrt."⟩⟩)),
    .begin 1 (.select ⟨0, ⟨"10001"⟩, .payment⟩ "paid"),
    .answer 1 (.setState (.ok ⟨200, ⟨true, some "in_progress", some "paid", none, none⟩⟩))]

/-- The answer with a graph that has actions for an order in progress. -/
def revision : Event := .answer 0 (.transitions (.ok ⟨true, some revised⟩))

theorem rejection_report_crossing :
    ∃ c, ((remote.turns crossing).turn revision).desk.control? sampleSeat = some c ∧
      c.view.state = "in_progress" ∧ c.view.choices.tail.map (·.action) = ["complete"] ∧
      c.view.feedback =
        some (Feedback.error "Nicht möglich. Verfügbare Übergänge: complete") := by
  have hwaits : (remote.turns crossing).task? 0 = some (.selection ⟨sampleSeat, "process",
      samplePage.map fun x => ⟨0, x.order, x.scope⟩,
      .fetch ⟨409, ⟨true, none, none, none, some "Gesperrt."⟩⟩ (.asked "/meta")⟩) := rfl
  have hbefore : ∀ t, (remote.turns crossing).task? 0 = some t → t.isFinished = false := by
    intro t ht
    obtain rfl := Option.some.inj (ht.symm.trans hwaits)
    rfl
  have hafter : ((remote.turns crossing).turn revision).task? 0 = some (.selection ⟨sampleSeat,
      "process", samplePage.map fun x => ⟨0, x.order, x.scope⟩,
      .finished (.rejected (some ["complete"]) (Feedback.unavailable ["complete"]))⟩) := rfl
  have hpage : ∀ seat action seats,
      Event.begin 0 (.submit seat action seats) ∉ crossing ++ [revision] := by
    simp [crossing, revision]
  obtain ⟨_, res, -, -, hreturns, hrejected, -⟩ := rejection_report
    { sampleStore with metaUrl := some "/meta" } Schedule.usual samplePage hpage hbefore hafter rfl
  have hres : res = .ok revised := Option.some.inj (hreturns.symm.trans rfl)
  obtain ⟨c, actions, hc, -, -, hchoices, havailable, -⟩ := hrejected.fetched revised hres
  obtain rfl := Option.some.inj havailable
  obtain ⟨c', hc', htold⟩ := hrejected.told
  obtain rfl := Option.some.inj (hc.symm.trans hc')
  have hstate : c.state = "in_progress" :=
    Option.some.inj ((congrArg (Option.map Control.state) hc).symm.trans rfl)
  exact ⟨c, hc, hstate, hchoices, htold.trans (by decide)⟩

end Session
end OrderDesk