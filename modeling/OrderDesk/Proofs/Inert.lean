import OrderDesk.Proofs.Calls
import OrderDesk.Proofs.Derivation

/-! Controls without an endpoint. To such a control a page does what it does to any other, but most
of it comes to nothing there: choices are not derived, and a selection does not get as far as to
claim it. What is left are the state and the text that a change to another control of its order
brings. -/
namespace OrderDesk

variable {d e f : Desk} {s : Session} {sel : Selection} {t : Task} {g : Stage} {c : Control}
  {u : Touch} {ts : List Touch} {seat other : Seat} {state : String} {id : Nat} {ev : Event}
  {es : List Event} {heard heard' : OrderId × SetResponse → Prop}
  {log : List (Nat × OrderId × SetResponse)}

/-- A state that one of some responses reports for the control in a seat. -/
def Reported (seat : Seat) (heard : OrderId × SetResponse → Prop) (state : String) : Prop :=
  ∃ m, heard m ∧ m.2.reports m.1 seat = some state

theorem Reported.mono (h : Reported seat heard state) (hsub : ∀ m, heard m → heard' m) :
    Reported seat heard' state := by
  obtain ⟨m, hm, hreport⟩ := h
  exact ⟨m, hsub m hm, hreport⟩

/-- An operation that brings the control in a seat up to date: with a graph, or with what one of
some responses reports for it. -/
def Touch.Updates (seat : Seat) (heard : OrderId × SetResponse → Prop) : Touch → Prop
  | .populate _ | .freshen _ => True
  | .adopt state => Reported seat heard state
  | .tell feedback => feedback = Feedback.success Feedback.siblingUpdated ∧
      ∃ state, Reported seat heard state
  | _ => False

theorem Touch.Updates.mono (h : u.Updates seat heard) (hsub : ∀ m, heard m → heard' m) :
    u.Updates seat heard' := by
  cases u with
  | populate | freshen => trivial
  | adopt state => exact Reported.mono h hsub
  | tell feedback =>
    obtain ⟨htext, state, hreport⟩ := h
    exact ⟨htext, state, hreport.mono hsub⟩
  | _ => exact h.elim

namespace Control

/-- A control that has no endpoint, offers nothing and shows nothing of any request. -/
structure Inert (c : Control) : Prop where
  setUrl : c.setUrl = none
  choices : c.choices = []
  busy : c.busy = false
  progress : c.progress = false
  selected : c.selected = none

theorem inert_bind (g : Graph) (page : Nat) {x : Descriptor} (hx : x.setUrl = none) :
    (bind g page x).Inert := by
  obtain ⟨order, scope, state, _ | url⟩ := x
  · exact ⟨rfl, rfl, rfl, rfl, rfl⟩
  · cases hx

/-- No choices are derived for such a control. -/
theorem Inert.touch_populate (h : c.Inert) (g : Graph) : c.touch (.populate g) = c := by
  simp [Control.touch, isBound, h.setUrl]

theorem Inert.touch_freshen (h : c.Inert) (g : Graph) : c.touch (.freshen g) = c := by
  simp [Control.touch, isBound, h.setUrl]

/-- Nor is it told of progress, and to release it changes nothing. -/
theorem Inert.touch_progress (h : c.Inert) (epoch : Nat) (text : String) :
    c.touch (.progress epoch text) = c := by
  simp [Control.touch, wantsProgress, h.progress]

theorem Inert.touch_release (h : c.Inert) : c.touch .release = c := by
  obtain ⟨-, -, hbusy, -, -⟩ := h
  obtain ⟨⟩ := c
  cases hbusy
  rfl

theorem Inert.touch (h : c.Inert) (hu : u.Updates seat heard) : (c.touch u).Inert := by
  cases u with
  | populate g => rwa [h.touch_populate]
  | freshen g => rwa [h.touch_freshen]
  | adopt | tell => exact ⟨h.setUrl, h.choices, h.busy, h.progress, h.selected⟩
  | _ => exact hu.elim

theorem Inert.after (h : c.Inert) (hts : ∀ u ∈ ts, u.Updates seat heard) : (c.after ts).Inert := by
  induction ts generalizing c with
  | nil => exact h
  | cons u ts ih =>
    exact ih (h.touch (hts u List.mem_cons_self)) fun v hv => hts v (List.mem_cons_of_mem u hv)

/-- Whatever brings a control up to date leaves it with a state that is reported, or with the one
that it had. -/
theorem state_after (hts : ∀ u ∈ ts, u.Updates seat heard) :
    (c.after ts).state = c.state ∨ Reported seat heard (c.after ts).state := by
  induction ts using List.reverseRecOn with
  | nil => exact Or.inl rfl
  | append_singleton ts u ih =>
    have hbefore := fun v hv => hts v (List.mem_append_left [u] hv)
    have hu := hts u (List.mem_append_right ts List.mem_cons_self)
    rw [after_concat, state_touch]
    cases u with
    | adopt state => exact Or.inr hu
    | _ => exact ih hbefore

/-- It leaves a control without an endpoint with the text that tells of this, or with the one that
it had. -/
theorem Inert.feedback_after (h : c.Inert) (hts : ∀ u ∈ ts, u.Updates seat heard) :
    (c.after ts).feedback = c.feedback ∨
      ((c.after ts).feedback = some (Feedback.success Feedback.siblingUpdated) ∧
        ∃ state, Reported seat heard state) := by
  induction ts using List.reverseRecOn with
  | nil => exact Or.inl rfl
  | append_singleton ts u ih =>
    have hbefore := fun v hv => hts v (List.mem_append_left [u] hv)
    have hu := hts u (List.mem_append_right ts List.mem_cons_self)
    have hinert := h.after hbefore
    rw [after_concat]
    cases u with
    | populate g =>
      rw [hinert.touch_populate]
      exact ih hbefore
    | freshen g =>
      rw [hinert.touch_freshen]
      exact ih hbefore
    | adopt state => exact ih hbefore
    | tell feedback =>
      obtain ⟨rfl, hreport⟩ := hu
      exact Or.inr ⟨rfl, hreport⟩
    | _ => exact hu.elim

end Control

namespace Desk

/-- From one desk to another, a control without an endpoint was only brought up to date, by
operations and responses that are allowed to. -/
def Updates (seat : Seat) (heard : OrderId × SetResponse → Prop) (d e : Desk) : Prop :=
  ∀ c, d.control? seat = some c → c.Inert →
    ∃ ts, e.control? seat = some (c.after ts) ∧ ∀ u ∈ ts, u.Updates seat heard

theorem Updates.of_eq (h : e.controls = d.controls) : Updates seat heard d e := by
  intro c hc _
  exact ⟨[], (control?_congr h seat).trans hc, by simp⟩

theorem Updates.mono (h : Updates seat heard d e) (hsub : ∀ m, heard m → heard' m) :
    Updates seat heard' d e := by
  intro c hc hi
  obtain ⟨ts, he, hts⟩ := h c hc hi
  exact ⟨ts, he, fun u hu => (hts u hu).mono hsub⟩

theorem Updates.trans (h : Updates seat heard d e) (h' : Updates seat heard e f) :
    Updates seat heard d f := by
  intro c hc hi
  obtain ⟨ts, he, hts⟩ := h c hc hi
  obtain ⟨us, hf, hus⟩ := h' _ he (hi.after hts)
  refine ⟨ts ++ us, by rw [hf, Control.after_append], ?_⟩
  intro u hu
  exact (List.mem_append.mp hu).elim (hts u) (hus u)

/-- An operation on one control, which does nothing to one without an endpoint or updates it. -/
theorem Updates.touch (d : Desk) (other : Seat) (u : Touch)
    (hu : other = seat → u.Updates seat heard ∨ ∀ c : Control, c.Inert → c.touch u = c) :
    Updates seat heard d (d.touch other u) := by
  intro c hc hi
  rw [control?_touch, hc, Option.map_some]
  by_cases ho : other = seat
  · rw [if_pos ho]
    rcases hu ho with hupdate | hsame
    · exact ⟨[u], rfl, by simpa using hupdate⟩
    · exact ⟨[], congrArg some (hsame c hi), by simp⟩
  · rw [if_neg ho]
    exact ⟨[], rfl, by simp⟩

theorem Updates.touch_of_ne (d : Desk) (u : Touch) (h : other ≠ seat) :
    Updates seat heard d (d.touch other u) :=
  .touch d other u fun he => absurd he h

theorem Updates.perform {w : List (Seat × Touch)}
    (hw : ∀ p ∈ w, p.1 = seat → p.2.Updates seat heard) : Updates seat heard d (d.perform w) := by
  induction w generalizing d with
  | nil => exact .of_eq rfl
  | cons p w ih =>
    exact (Updates.touch d p.1 p.2 fun hs => Or.inl (hw p List.mem_cons_self hs)).trans
      (ih fun q hq => hw q (List.mem_cons_of_mem p hq))

/-- The control in the seat stays without an endpoint and without a request. -/
theorem Updates.exists_inert (h : Updates seat heard d e)
    (hd : ∃ c, d.control? seat = some c ∧ c.Inert) : ∃ c, e.control? seat = some c ∧ c.Inert := by
  obtain ⟨c, hc, hi⟩ := hd
  obtain ⟨ts, he, hts⟩ := h c hc hi
  exact ⟨_, he, hi.after hts⟩

end Desk
namespace Selection

/-- Why nothing comes of a selection on a control without an endpoint. -/
def vanity (s : Selection) : IgnoredReason := if s.wanted = "" then .noAction else .notBound

/-- A selection that has not claimed its control and is ignored when it comes to. -/
def Vain (s : Selection) : Prop :=
  match s.stage with
  | .look | .peek | .freshen _ | .claim => True
  | .finished outcome => outcome = .ignored s.vanity
  | _ => False

theorem Vain.holdsClaim (h : sel.Vain) : sel.holdsClaim = false := by
  cases hs : sel.stage <;> simp_all [Vain, Selection.holdsClaim]

theorem Vain.todo (h : sel.Vain) : (Task.selection sel).todo = [] := by
  cases hs : sel.stage <;> simp_all [Vain, Task.todo]

theorem Vain.due (h : sel.Vain) (seat : Seat) : sel.due seat = none := by
  cases hs : sel.stage <;> simp_all [Vain, Selection.due]

theorem ignored?_of_inert (hc : ∃ c, d.control? sel.seat = some c ∧ c.Inert) :
    sel.ignored? d = some sel.vanity := by
  obtain ⟨c, hc, hi⟩ := hc
  by_cases hw : sel.wanted = "" <;> simp [ignored?, vanity, hc, hi.setUrl, hw]

/-- On a control without an endpoint a selection never gets as far as to claim it. -/
theorem Step.vain (h : Step d sel e g) (hv : sel.Vain)
    (hc : ∃ c, d.control? sel.seat = some c ∧ c.Inert) :
    (sel.moveTo g).Vain ∧ (e = d ∨ ∃ graph, e = d.touch sel.seat (.freshen graph)) := by
  have hignored := ignored?_of_inert hc
  obtain ⟨c, hc, hi⟩ := hc
  cases h with
  | lookBusy _ hb => simp [Desk.isBusy, hc, hi.busy] at hb
  | ignore hs hreason =>
    obtain rfl := Option.some.inj (hreason.symm.trans hignored)
    exact ⟨rfl, Or.inl rfl⟩
  | claim hs hnone => simp [hignored] at hnone
  | rest hs => simp_all [Vain, vanity]
  | freshen => exact ⟨trivial, Or.inr ⟨_, rfl⟩⟩
  | lookIdle | peek => exact ⟨trivial, Or.inl rfl⟩
  | _ => simp_all [Vain]

end Selection

namespace Task

/-- A selection on a control without an endpoint is ignored, and asks nothing. -/
theorem settle_vain (hv : sel.Vain) (hc : ∃ c, d.control? sel.seat = some c ∧ c.Inert) :
    ((selection sel).settle d).2 = selection (sel.moveTo (.finished (.ignored sel.vanity))) ∧
      d.Asked [] ((selection sel).settle d).1 := by
  have hkeep := settle_keeps (d := d) (t := selection sel)
    (P := fun e u => d.Asked [] e ∧ (∃ c, e.control? sel.seat = some c ∧ c.Inert) ∧
      ∃ g, u = selection (sel.moveTo g) ∧ (sel.moveTo g).Vain)
    ?_ ⟨.refl d, hc, sel.stage, rfl, hv⟩
  · obtain ⟨hasked, -, g, hend, hvain⟩ := hkeep
    have hrests := settle_rests d (selection sel)
    rw [hend] at hrests
    refine ⟨?_, hasked⟩
    rw [hend]
    -- Of the stages of a vain selection only the last one is at rest.
    cases g <;> simp_all [Selection.Vain, rests, awaits, isFinished, Selection.awaits,
      Selection.outcome?, Selection.vanity]
    rfl
  · rintro e u ⟨hasked, hinert, g, rfl, hvain⟩ -
    obtain ⟨f, next, hstep, hspec⟩ := (sel.moveTo g).step_spec e
    obtain ⟨hnext, hdesk⟩ := hspec.vain hvain hinert
    have hupdates : Desk.Updates sel.seat (fun _ => False) e f := by
      rcases hdesk with rfl | ⟨graph, rfl⟩
      · exact .of_eq rfl
      · exact .touch e sel.seat _ fun _ => Or.inl trivial
    have hquiet : e.Asked [] f := by
      rcases hdesk with rfl | ⟨graph, rfl⟩
      · exact .refl f
      · exact .touch e sel.seat _
    rw [step, hstep]
    exact ⟨hasked.trans hquiet, hupdates.exists_inert hinert, next, rfl, hnext⟩

/-- A response that a selection on another control of its order was told. -/
def Hears (seat : Seat) (heard : OrderId × SetResponse → Prop) (t : Task)
    (m : OrderId × SetResponse) : Prop :=
  heard m ∧ ∃ sel, t = selection sel ∧ sel.seat ≠ seat ∧ sel.seat.order = m.1

/-- A task that comes to nothing on the control in a seat, but for what it was told is to be brought
there. -/
structure Abides (seat : Seat) (heard : OrderId × SetResponse → Prop) (t : Task) : Prop where
  vain : ∀ sel, t = selection sel → sel.seat = seat → sel.Vain
  due : ∀ state, t.due seat = some state → Reported seat (t.Hears seat heard) state
  todo : ∀ p ∈ t.todo, p.1 = seat → p.2.Updates seat (t.Hears seat heard)

theorem Abides.mono (h : t.Abides seat heard) (hsub : ∀ m, heard m → heard' m) :
    t.Abides seat heard' where
  vain := h.vain
  due := fun state hdue => (h.due state hdue).mono fun m hm => ⟨hsub m hm.1, hm.2⟩
  todo := fun p hp hseat => (h.todo p hp hseat).mono fun m hm => ⟨hsub m hm.1, hm.2⟩

theorem hears_moveTo (sel : Selection) (g : Stage) :
    (selection (sel.moveTo g)).Hears seat heard = (selection sel).Hears seat heard := by
  funext m
  simp [Hears]

/-- A selection on the control itself comes to nothing there. -/
theorem abides_of_vain (hv : sel.Vain) : (selection sel).Abides seat heard where
  vain := by
    rintro _ ⟨⟩ _
    exact hv
  due := fun state hdue => by simp [Task.due, hv.due] at hdue
  todo := fun p hp => by simp [hv.todo] at hp

/-- A refresh that has nothing to do on any control yet. -/
theorem abides_of_refresh (hnot : ∀ sel, t ≠ selection sel) (htodo : t.todo = []) :
    t.Abides seat heard where
  vain := fun sel ht => absurd ht (hnot sel)
  due := fun state hdue => by
    cases t with
    | selection sel => exact absurd rfl (hnot sel)
    | _ => cases hdue
  todo := by simp [htodo]

end Task

namespace Selection

/-- What the rows of a reconciliation bring to a control is reported for it. -/
theorem updates_reconciliation {order : OrderId} {response : SetResponse} {seats : List Seat}
    {graph : Graph} {p : Seat × Touch} (hp : p ∈ reconciliation order response seats graph)
    (hseat : p.1 = seat)
    (hdue : ∀ state, response.reports order seat = some state → Reported seat heard state) :
    p.2.Updates seat heard := by
  obtain ⟨r, hr, hp⟩ := List.mem_flatMap.mp hp
  have hreport := (reconcilable_spec hr).2
  simp only [List.mem_cons, List.not_mem_nil, or_false] at hp
  rcases hp with rfl | rfl | rfl
  · exact hdue _ (hseat ▸ hreport)
  · trivial
  · exact ⟨rfl, _, hdue _ (hseat ▸ hreport)⟩

/-- A stage of a selection on another control at which what it is about to do was told. -/
theorem abides_moveTo (hne : sel.seat ≠ seat)
    (hdue : ∀ state, (sel.moveTo g).due seat = some state →
      Reported seat ((Task.selection sel).Hears seat heard) state)
    (htodo : ∀ p ∈ (Task.selection (sel.moveTo g)).todo, p.1 = seat →
      p.2.Updates seat ((Task.selection sel).Hears seat heard)) :
    (Task.selection (sel.moveTo g)).Abides seat heard where
  vain := by
    rintro _ ⟨⟩ hseat
    exact absurd hseat hne
  due := by
    rw [Task.hears_moveTo]
    exact hdue
  todo := by
    rw [Task.hears_moveTo]
    exact htodo

/-- A step of a selection on another control keeps what it was told. -/
theorem Step.abides (h : Step d sel e g) (ha : (Task.selection sel).Abides seat heard)
    (hne : sel.seat ≠ seat) : (Task.selection (sel.moveTo g)).Abides seat heard := by
  cases h with
  | accept hs hr =>
    refine abides_moveTo hne (fun state hdue => ha.due state ?_) (by simp [Task.todo])
    simpa [Task.due, due, hs, hr] using hdue
  | @survey response hs =>
    have hdue : ∀ state, response.reports sel.seat.order seat = some state →
        Reported seat ((Task.selection sel).Hears seat heard) state := fun state hreport =>
      ha.due state (by simpa [Task.due, due, hs] using hreport)
    -- Here what was reported becomes a row of operations, two of which are on its own control.
    refine abides_moveTo hne (by simp [success, due]) fun p hp hseat => ?_
    simp only [Task.todo, success, moveTo_stage, List.mem_append, List.mem_cons,
      List.not_mem_nil, or_false] at hp
    rcases hp with hp | rfl | rfl
    · exact updates_reconciliation hp hseat hdue
    · exact absurd hseat hne
    · exact absurd hseat hne
  | @perform p todo outcome hs =>
    refine abides_moveTo hne (by simp [due]) fun q hq => ha.todo q ?_
    simp only [Task.todo, hs]
    exact List.mem_cons_of_mem p hq
  | _ =>
    refine abides_moveTo hne (by simp [due, refusal, explanation]) ?_
    simp [Task.todo, refusal, explanation, hne]

/-- A step of a selection on another control brings to a control nothing but what it was told. -/
theorem Step.updates (h : Step d sel e g) (ha : (Task.selection sel).Abides seat heard)
    (hne : sel.seat ≠ seat) : Desk.Updates seat ((Task.selection sel).Hears seat heard) d e := by
  cases h with
  | freshen | claim | choose | announce | fail | accept | refuse => exact .touch_of_ne d _ hne
  | send => exact .of_eq rfl
  | fetch => exact .of_eq (Refresh.step_controls _ _)
  | renew => exact .touch d _ _ fun _ => Or.inl trivial
  | @perform p todo outcome hs =>
    exact .touch d p.1 p.2 fun hseat => Or.inl (ha.todo p (by simp [Task.todo, hs]) hseat)
  | release => exact (Desk.Updates.touch_of_ne d _ hne).trans (.touch_of_ne _ _ hne)
  | _ => exact .of_eq rfl

end Selection

namespace Task

theorem Abides.step (h : t.Abides seat heard) (hc : ∃ c, d.control? seat = some c ∧ c.Inert) :
    (t.step d).2.Abides seat heard ∧ Desk.Updates seat (t.Hears seat heard) d (t.step d).1 ∧
      (t.step d).2.Hears seat heard = t.Hears seat heard := by
  cases t with
  | selection sel =>
    obtain ⟨e, g, he, hstep⟩ := sel.step_spec d
    rw [Task.step, he]
    refine ⟨?_, ?_, hears_moveTo sel g⟩
    · by_cases hseat : sel.seat = seat
      · subst hseat
        exact abides_of_vain (hstep.vain (h.vain sel rfl rfl) hc).1
      · exact hstep.abides h hseat
    · by_cases hseat : sel.seat = seat
      · subst hseat
        rcases (hstep.vain (h.vain sel rfl rfl) hc).2 with rfl | ⟨graph, rfl⟩
        · exact .of_eq rfl
        · exact .touch d sel.seat _ fun _ => Or.inl trivial
      · exact hstep.updates h hseat
  | pageRefresh page r =>
    obtain ⟨e, r', he, hstep⟩ := r.step_spec d page
    rw [Task.step, he]
    have hnone : (pageRefresh page r').Hears seat heard =
        (pageRefresh page r).Hears seat heard := by
      funext m
      simp [Hears]
    refine ⟨⟨by simp, by simp [Task.due], ?_⟩, ?_, hnone⟩
    · rw [hnone]
      cases hstep with
      | survey =>
        intro p hp _
        obtain ⟨c, -, rfl⟩ := List.mem_map.mp hp
        trivial
      | perform => exact fun q hq => h.todo q (List.mem_cons_of_mem _ hq)
      | _ => simp [Task.todo]
    · cases hstep with
      | fetch => exact .of_eq (Refresh.step_controls _ _)
      | @perform p todo => exact .touch d p.1 p.2 fun hs => Or.inl (h.todo p List.mem_cons_self hs)
      | _ => exact .of_eq rfl
  | storeRefresh r =>
    have hnone : (storeRefresh (r.step d).2).Hears seat heard =
        (storeRefresh r).Hears seat heard := by
      funext m
      simp [Hears]
    exact ⟨abides_of_refresh (by simp [Task.step]) rfl, .of_eq (r.step_controls d), hnone⟩

theorem Abides.settle (h : t.Abides seat heard) (hc : ∃ c, d.control? seat = some c ∧ c.Inert) :
    (t.settle d).2.Abides seat heard ∧ Desk.Updates seat (t.Hears seat heard) d (t.settle d).1 := by
  have hkeep := settle_keeps (d := d) (t := t) (P := fun e u => u.Abides seat heard ∧
    Desk.Updates seat (t.Hears seat heard) d e ∧ u.Hears seat heard = t.Hears seat heard)
    ?_ ⟨h, .of_eq rfl, rfl⟩
  · exact ⟨hkeep.1, hkeep.2.1⟩
  · rintro e u ⟨hu, hde, hsame⟩ -
    obtain ⟨hnext, hstep, hnextSame⟩ := hu.step (hde.exists_inert hc)
    exact ⟨hnext, hde.trans (hsame ▸ hstep), hnextSame.trans hsame⟩

/-- An answer lets a task do what it tells, when it tells that a change was made. -/
theorem Abides.answered (h : t.Abides seat heard) {reply : Reply}
    (hreply : ∀ m, t.success? reply = some m → heard m) :
    (t.answered d reply).2.Abides seat heard := by
  cases t with
  | selection sel =>
    have hne : ¬sel.Vain → sel.seat ≠ seat := fun hv hseat => hv (h.vain sel rfl hseat)
    rcases sel.answered_cases d reply with ha | ⟨epoch, url, result, hs, rfl, ha⟩ |
      ⟨refused, url, result, hs, rfl, ha⟩
    · simpa [Task.answered, ha] using h
    · rw [Task.answered, ha]
      have hother := hne (by simp [Selection.Vain, hs])
      refine Selection.abides_moveTo hother (fun state hdue => ?_) (by simp [Task.todo])
      -- Only a change that was made leaves something to be brought to other controls.
      cases result with
      | error error => simp [Selection.due] at hdue
      | ok reply =>
        cases hok : reply.isSuccess with
        | false => simp [Selection.due, hok] at hdue
        | true =>
          have hheard := hreply (sel.seat.order, reply.body) (by simp [success?, hs, hok])
          exact ⟨_, ⟨hheard, sel, rfl, hother, rfl⟩, by simpa [Selection.due, hok] using hdue⟩
    · rw [Task.answered, ha]
      exact Selection.abides_moveTo (hne (by simp [Selection.Vain, hs])) (by simp [Selection.due])
        (by simp [Task.todo])
  | pageRefresh page r =>
    cases r with
    | fetch r => cases r <;> cases reply <;> exact abides_of_refresh (by simp [Task.answered]) rfl
    | _ => exact h
  | storeRefresh r =>
    cases r <;> cases reply <;> exact abides_of_refresh (by simp [Task.answered]) rfl

/-- A task that is dropped gives up another control at most. -/
theorem Abides.dropped (h : t.Abides seat heard) :
    Desk.Updates seat (fun _ => False) d (t.dropped d) := by
  obtain ⟨e, he, ⟨hd, -⟩ | ⟨sel, rfl, hclaim, hd⟩⟩ := t.dropped_cases d
  · exact .of_eq (hd ▸ he)
  · have hne : sel.seat ≠ seat := fun hseat => by
      simp [(h.vain sel rfl hseat).holdsClaim] at hclaim
    rw [hd]
    exact (Desk.Updates.of_eq he).trans (.touch_of_ne e _ hne)

theorem abides_ofWish (d : Desk) (wish : Wish) : (ofWish d wish).Abides seat heard := by
  cases wish with
  | select | submit => exact abides_of_vain trivial
  | refreshPage | refreshStore => exact abides_of_refresh (by simp [ofWish]) rfl

end Task

/-- An event that leaves the control in a seat to what goes on at its desk: it neither claims it
apart from any task nor touches it directly. -/
def Event.spares (seat : Seat) : Event → Bool
  | .hold other | .touch other _ => other != seat
  | _ => true

namespace Session

/-- The number of the task and the order and response, when an event brings an answer that reports a
change as made. -/
def granted? (s : Session) (ev : Event) : Option (Nat × OrderId × SetResponse) :=
  ev.id?.bind fun id => (s.success? ev).map fun m => (id, m)

/-- The changes that are reported as made in a run, each with the number of the task that asked for
it. -/
def granted (s : Session) : List Event → List (Nat × OrderId × SetResponse)
  | [] => []
  | ev :: es => (s.granted? ev).toList ++ (s.apply ev).granted es

/-- A session in which nothing but what was reported is brought to the control in a seat, which has
no endpoint. -/
structure Spared (seat : Seat) (log : List (Nat × OrderId × SetResponse)) (s : Session) : Prop where
  control : ∃ c, s.desk.control? seat = some c ∧ c.Inert
  tasks : ∀ p ∈ s.tasks, p.2.Abides seat fun m => (p.1, m) ∈ log

/-- A response that the selection is told which an event lets go on. -/
def Tells (s : Session) (seat : Seat) (log : List (Nat × OrderId × SetResponse)) (ev : Event)
    (m : OrderId × SetResponse) : Prop :=
  ∃ id t, (ev = .step id ∨ ev = .settle id) ∧ s.task? id = some t ∧
    t.Hears seat (fun m => (id, m) ∈ log) m

/-- An event that is about no task brings nothing to the control. -/
theorem updates_apply (hid : ev.id? = none) (he : ev.spares seat) :
    Desk.Updates seat (fun _ => False) s.desk (s.apply ev).desk := by
  cases ev with
  | begin | step | settle | answer | drop => cases hid
  | fire timer =>
    exact (Desk.Updates.touch s.desk timer.seat (.progress timer.epoch timer.text) fun _ =>
      Or.inr fun c hi => hi.touch_progress _ _).trans (.of_eq rfl)
  | hold other =>
    have hne : other ≠ seat := by simpa [Event.spares] using he
    simp only [apply, Desk.claim?]
    split
    · exact .touch_of_ne s.desk _ hne
    · exact .of_eq rfl
  | release other =>
    simp only [apply]
    split
    · exact .touch s.desk other .release fun _ => Or.inr fun c hi => hi.touch_release
    · exact .of_eq rfl
  | touch other u =>
    have hne : other ≠ seat := by simpa [Event.spares] using he
    exact .touch_of_ne s.desk u hne
  | repopulate =>
    refine .perform fun p hp _ => ?_
    obtain ⟨c, -, rfl⟩ := List.mem_map.mp hp
    trivial
  | _ => exact .of_eq rfl

/-- In an event nothing is brought to the control but what the selection that goes on was told. -/
theorem Spared.updates (hs : s.Spared seat log) (he : ev.spares seat) :
    Desk.Updates seat (s.Tells seat log ev) s.desk (s.apply ev).desk := by
  have hgoes : ∀ {id t} {r : Desk × Task}, (ev = .step id ∨ ev = .settle id) → s.task? id = some t →
      Desk.Updates seat (t.Hears seat fun m => (id, m) ∈ log) s.desk r.1 →
      Desk.Updates seat (s.Tells seat log ev) s.desk (s.put id r).desk :=
    fun hev ht hr => hr.mono fun _ hm => ⟨_, _, hev, ht, hm⟩
  cases ev with
  | begin id wish =>
    simp only [Session.apply]
    split <;> exact .of_eq rfl
  | step id =>
    exact elim_task? (P := fun u => Desk.Updates seat _ s.desk u.desk) (.of_eq rfl) fun t ht =>
      hgoes (Or.inl rfl) ht ((hs.tasks _ (mem_of_task? ht)).step hs.control).2.1
  | settle id =>
    exact elim_task? (P := fun u => Desk.Updates seat _ s.desk u.desk) (.of_eq rfl) fun t ht =>
      hgoes (Or.inr rfl) ht ((hs.tasks _ (mem_of_task? ht)).settle hs.control).2
  | answer id reply =>
    exact elim_task? (P := fun u => Desk.Updates seat _ s.desk u.desk) (.of_eq rfl) fun t _ =>
      .of_eq (t.answered_frame s.desk reply default).1
  | drop id =>
    exact elim_task? (P := fun u => Desk.Updates seat _ s.desk u.desk) (.of_eq rfl) fun t ht =>
      (hs.tasks _ (mem_of_task? ht)).dropped.mono fun _ hm => hm.elim
  | _ => exact (updates_apply rfl he).mono fun _ hm => hm.elim

/-- What a task was told was reported in an answer to it. -/
theorem Spared.apply (hs : s.Spared seat log) (he : ev.spares seat) :
    (s.apply ev).Spared seat (log ++ (s.granted? ev).toList) := by
  refine ⟨(hs.updates he).exists_inert hs.control, ?_⟩
  have hold : ∀ p ∈ s.tasks,
      p.2.Abides seat fun m => (p.1, m) ∈ log ++ (s.granted? ev).toList := fun p hp =>
    (hs.tasks p hp).mono fun _ hm => List.mem_append_left _ hm
  have hput : ∀ {id} {r : Desk × Task},
      r.2.Abides seat (fun m => (id, m) ∈ log ++ (s.granted? ev).toList) → ∀ p ∈ (s.put id r).tasks,
        p.2.Abides seat fun m => (p.1, m) ∈ log ++ (s.granted? ev).toList := by
    intro id r hr p hp
    rcases mem_put hp with rfl | hp
    · exact hr
    · exact hold p hp
  cases ev with
  | begin id wish =>
    simp only [Session.apply]
    split
    · exact hold
    · intro p hp
      rcases List.mem_append.mp hp with hp | hp
      · exact hold p hp
      · obtain rfl := List.mem_singleton.mp hp
        exact Task.abides_ofWish s.desk wish
  | step id =>
    exact elim_task? (P := fun u => ∀ p ∈ u.tasks, p.2.Abides seat fun m => (p.1, m) ∈ _) hold
      fun t ht => hput ((hold _ (mem_of_task? ht)).step hs.control).1
  | settle id =>
    exact elim_task? (P := fun u => ∀ p ∈ u.tasks, p.2.Abides seat fun m => (p.1, m) ∈ _) hold
      fun t ht => hput ((hold _ (mem_of_task? ht)).settle hs.control).1
  | answer id reply =>
    refine elim_task? (P := fun u => ∀ p ∈ u.tasks, p.2.Abides seat fun m => (p.1, m) ∈ _) hold
      fun t ht => hput ((hold _ (mem_of_task? ht)).answered fun m hm => ?_)
    have hgranted : s.granted? (.answer id reply) = some (id, m) := by
      simp [granted?, Event.id?, success?, ht, hm]
    simp [hgranted]
  | drop id =>
    exact elim_task? (P := fun u => ∀ p ∈ u.tasks, p.2.Abides seat fun m => (p.1, m) ∈ _) hold
      fun t _ p hp => hold p (List.mem_of_mem_filter hp)
  | _ =>
    rw [tasks_apply rfl]
    exact hold

theorem Spared.play (hs : s.Spared seat log) (hes : ∀ ev ∈ es, ev.spares seat) :
    (s.play es).Spared seat (log ++ s.granted es) := by
  induction es generalizing s log with
  | nil => simpa [granted] using hs
  | cons ev es ih =>
    rw [granted, ← List.append_assoc]
    exact ih (hs.apply (hes ev List.mem_cons_self)) fun f hf => hes f (List.mem_cons_of_mem ev hf)

theorem spared_opened (store : Store) (schedule : Schedule) {ds : List Descriptor} {x : Descriptor}
    (hx : x ∈ Desk.firstOfEach [] ds) (hurl : x.setUrl = none) :
    (opened store schedule ds).Spared ⟨0, x.order, x.scope⟩ [] where
  control := ⟨_, control?_opened store schedule hx, Control.inert_bind store.graph 0 hurl⟩
  tasks := by simp [opened]

/-- A selection on a control without an endpoint asks nothing. -/
theorem Spared.asked (hs : s.Spared seat log) (hne : s.asked ev ≠ []) :
    ∃ id t, (ev = .step id ∨ ev = .settle id) ∧ s.task? id = some t ∧ t.isOn seat = false := by
  rcases s.apply_asked_cases ev with h | ⟨id, t, hev, ht, -, -⟩
  · exact absurd (asked_eq h) hne
  refine ⟨id, t, hev, ht, Bool.eq_false_iff.mpr fun hon => hne ?_⟩
  cases t with
  | pageRefresh | storeRefresh => cases hon
  | selection sel =>
    have hseat : sel.seat = seat := beq_iff_eq.mp hon
    have hvain := (hs.tasks _ (mem_of_task? ht)).vain sel rfl hseat
    rcases hev with rfl | rfl
    · have hasks : sel.asks s.desk = [] := by
        cases hstage : sel.stage <;> simp_all [Selection.Vain, Selection.asks]
      refine asked_eq ?_
      simpa [Session.apply, ht, Session.put, Task.asks, hasks] using
        (Task.selection sel).step_asked s.desk
    · refine asked_eq ?_
      simpa [Session.apply, ht, Session.put] using
        (Task.settle_vain hvain (hseat ▸ hs.control)).2

/-- An event in which a selection on another control of the order goes on, to which the answer was
that its change is made, with a state for the control in the seat. -/
def Brings (s : Session) (seat : Seat) (log : List (Nat × OrderId × SetResponse)) (ev : Event)
    (state : String) : Prop :=
  ∃ id sel response, (ev = .step id ∨ ev = .settle id) ∧ s.task? id = some (.selection sel) ∧
    sel.seat ≠ seat ∧ sel.seat.order = seat.order ∧ (id, seat.order, response) ∈ log ∧
    response.reports seat.order seat = some state

theorem brings_of_reported (h : Reported seat (s.Tells seat log ev) state) :
    s.Brings seat log ev state := by
  obtain ⟨⟨order, response⟩, ⟨id, t, hev, ht, hm, sel, rfl, hne, horder⟩, hreport⟩ := h
  obtain rfl : order = seat.order := by
    by_contra hother
    simp [SetResponse.reports, hother] at hreport
  exact ⟨id, sel, response, hev, ht, hne, horder, hm, hreport⟩

/-- In every run that does not reach for the control itself, a control without an endpoint has an
empty list of choices, cannot be used, and is never busy, in progress or with an action selected.
Every selection on it is ignored, for want of an action or else of an endpoint, and asks nothing.
Its state and its text change only as a selection on another control of its order goes on, to which
the answer was that its change is made, with a state for this control. -/
theorem unbound_inert {store : Store} {schedule : Schedule} {ds : List Descriptor} {x : Descriptor}
    (hx : x ∈ Desk.firstOfEach [] ds) (hurl : x.setUrl = none)
    (hseat : seat = ⟨0, x.order, x.scope⟩) (hes : ∀ ev ∈ es, ev.spares seat)
    (hs : s = (opened store schedule ds).play es)
    (hlog : log = (opened store schedule ds).granted es) :
    (∃ c, s.desk.control? seat = some c ∧ c.view.choices = [] ∧ c.view.selectable = false ∧
      c.view.busy = false ∧ c.view.progress = false ∧ c.view.selected = none) ∧
    (∀ id sel, s.task? id = some (.selection sel) → sel.seat = seat → ∃ reason,
      reason = (if Text.trim sel.action = "" then .noAction else .notBound) ∧
      (∀ o, sel.outcome? = some o → o = .ignored reason) ∧
      (s.apply (.settle id)).task? id =
        some (.selection (sel.moveTo (.finished (.ignored reason))))) ∧
    (∀ ev, s.asked ev ≠ [] → ∃ id t, (ev = .step id ∨ ev = .settle id) ∧ s.task? id = some t ∧
      t.isOn seat = false) ∧
    ∀ ev c c', ev.spares seat → s.desk.control? seat = some c →
      (s.apply ev).desk.control? seat = some c' →
        (c'.state ≠ c.state → s.Brings seat log ev c'.state) ∧
        (c'.feedback ≠ c.feedback →
          c'.feedback = some (Feedback.success Feedback.siblingUpdated) ∧
            ∃ state, s.Brings seat log ev state) := by
  subst hseat hlog hs
  have hspared := (spared_opened store schedule hx hurl).play hes
  rw [List.nil_append] at hspared
  refine ⟨?_, fun id sel ht hon => ⟨sel.vanity, rfl, ?_, ?_⟩, fun ev hne => hspared.asked hne, ?_⟩
  · obtain ⟨c, hc, hi⟩ := hspared.control
    refine ⟨c, hc, hi.choices, ?_, hi.busy, hi.progress, hi.selected⟩
    simp [Control.view, Control.isBound, hi.setUrl]
  · intro o ho
    have hvain := (hspared.tasks _ (mem_of_task? ht)).vain sel rfl hon
    cases hstage : sel.stage <;> simp_all [Selection.Vain, Selection.outcome?]
  · have hvain := (hspared.tasks _ (mem_of_task? ht)).vain sel rfl hon
    have hend := (Task.settle_vain hvain (hon ▸ hspared.control)).1
    simp only [Session.apply, ht, Option.elim_some]
    rw [task?_put ht, hend]
  · intro ev c c' he hc hc'
    obtain ⟨c₀, hc₀, hi⟩ := hspared.control
    obtain rfl := Option.some.inj (hc₀.symm.trans hc)
    obtain ⟨ts, hend, hts⟩ := hspared.updates he c₀ hc hi
    obtain rfl := Option.some.inj (hend.symm.trans hc')
    constructor
    · intro hne
      exact brings_of_reported ((Control.state_after hts).resolve_left hne)
    · intro hne
      obtain ⟨htext, state, hreport⟩ := (hi.feedback_after hts).resolve_left hne
      exact ⟨htext, state, brings_of_reported hreport⟩

/-- A page with one order whose payment has no endpoint. -/
def halfPage : List Descriptor :=
  [⟨⟨"10001"⟩, .order, "open", some "/set-order"⟩, ⟨⟨"10001"⟩, .payment, "open", none⟩]

/-- On that page an action is selected for the order and another for the payment, and the answer to
the first is that the order is paid. -/
def payment : List Event :=
  [.begin 0 (.select sampleSeat "process"), .settle 0,
    .begin 1 (.select ⟨0, ⟨"10001"⟩, .payment⟩ "pay"),
    .answer 0 (.setState (.ok ⟨200, ⟨true, none, some "paid", none, none⟩⟩))]

theorem unbound_inert_payment : ∃ s c c',
    s = (opened sampleStore Schedule.none halfPage).play payment ∧
    s.desk.control? ⟨0, ⟨"10001"⟩, .payment⟩ = some c ∧ c.state = "open" ∧ c.view.choices = [] ∧
    (s.apply (.settle 0)).desk.control? ⟨0, ⟨"10001"⟩, .payment⟩ = some c' ∧ c'.state = "paid" ∧
    s.Brings ⟨0, ⟨"10001"⟩, .payment⟩ [(0, ⟨"10001"⟩, ⟨true, none, some "paid", none, none⟩)]
      (.settle 0) "paid" ∧
    ∃ sel, (s.apply (.settle 1)).task? 1 = some (.selection sel) ∧
      sel.outcome? = some (.ignored .notBound) := by
  have hx : ⟨⟨"10001"⟩, .payment, "open", none⟩ ∈ Desk.firstOfEach [] halfPage := by decide
  have hspared : ∀ ev ∈ payment, ev.spares ⟨0, ⟨"10001"⟩, .payment⟩ := by decide
  have hs : (opened sampleStore Schedule.none halfPage).play payment =
      (opened sampleStore Schedule.none halfPage).play payment := rfl
  obtain ⟨⟨c, hc, hchoices, -⟩, hvain, -, hmoves⟩ := unbound_inert hx rfl rfl hspared hs rfl
  obtain ⟨reason, rfl, -, hend⟩ := hvain 1 _ rfl rfl
  refine ⟨_, c, _, rfl, hc, ?_, hchoices, rfl, rfl, ?_, _, hend, rfl⟩
  · obtain rfl := Option.some.inj (hc.symm.trans rfl)
    rfl
  · refine (hmoves (.settle 0) c _ rfl hc rfl).1 ?_
    obtain rfl := Option.some.inj (hc.symm.trans rfl)
    decide

end Session
end OrderDesk
