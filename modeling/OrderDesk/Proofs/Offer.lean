import OrderDesk.Proofs.Derivation
import OrderDesk.Proofs.Exchange
import OrderDesk.Proofs.Trimming

/-! What becomes of the actions on offer. A control offers what the graph permits, but the list
marks its first entry by an action without a sign, and what is sent of an action goes without the
blanks around it: an action that is nothing but blanks is on offer to no end. -/
namespace OrderDesk
open Text

variable {d : Desk} {s : Session} {wish : Wish} {seat : Seat} {g g₀ : Graph} {page id : Nat}
  {x : Descriptor} {url action : String} {early late : List Touch} {c : Control}

namespace Task

/-- A selection of nothing but blanks on an idle control comes to nothing. -/
theorem settle_blank (haction : trim action = "") (hb : d.isBusy seat = false) :
    ((ofWish d (.select seat action)).settle d).2 =
      selection ⟨seat, action, d.seatsOn seat.page, .finished (.ignored .noAction)⟩ := by
  have hstage : (Selection.mk seat action (d.seatsOn seat.page) .claim).stage = .claim := rfl
  have hignored : (Selection.mk seat action (d.seatsOn seat.page) .claim).ignored?
      (d.touch seat (.freshen d.store.graph)) = some .noAction := by
    simp [Selection.ignored?, Selection.wanted, haction]
  rw [settle_select hb, settle_step (rests_of_stage hstage)]
  simp only [step, Selection.step, hignored]
  rw [settle_of_rests rfl]
  rfl

end Task

namespace Session

/-- All that is asked in the turn that begins a task is asked by that task. -/
theorem questions_turn_begin (hnew : s.task? id = none) (wish : Wish) :
    (s.turn (.begin id wish)).desk.questions =
      s.desk.questions ++ (s.apply (.begin id wish)).callsOf id [.settle id] := by
  have hdrop : Event.drop id ∉ [Event.settle id] := by simp
  have hcalls : ((s.apply (.begin id wish)).calls [.settle id]).map (·.2) =
      (s.apply (.begin id wish)).callsOf id [.settle id] := by
    rw [callsOf_cons]
    simp [callsOf, calls, Event.id?, Function.comp_def]
  rw [← hcalls]
  exact (call_trace hnew hdrop).1

/-- What the selection of an action asks for up to where it rests. -/
theorem calls_turn_begin {t : Task} (hnew : s.task? id = none)
    (ht : ((Task.ofWish s.desk wish).settle s.desk).2 = t) :
    wish.Calls s.desk none ((s.apply (.begin id wish)).callsOf id [.settle id]) t := by
  have hdrop : Event.drop id ∉ [Event.settle id] := by simp
  obtain ⟨u, hu, hcalls⟩ : ∃ u, (s.turn (.begin id wish)).task? id = some u ∧ _ :=
    (call_trace hnew hdrop).2.2
  have hend : (s.turn (.begin id wish)).task? id = some t := by
    rw [task?_turn_begin hnew, ht]
  obtain rfl := Option.some.inj (hu.symm.trans hend)
  exact hcalls

/-- The selection of an action on a control, in one turn, asks for a change at an endpoint and waits
for the answer. -/
def Sends (s : Session) (seat : Seat) (action url : String) (request : SetRequest) : Prop :=
  ∀ id, s.task? id = none → ∃ sel epoch,
    (s.turn (.begin id (.select seat action))).task? id = some (.selection sel) ∧
    sel.stage = .sent epoch url ∧
    (s.turn (.begin id (.select seat action))).desk.questions =
      s.desk.questions ++ [.setState url request]

/-- The selection of an action on a control, in one turn, comes to nothing and asks nothing. -/
def Ignores (s : Session) (seat : Seat) (action : String) (reason : IgnoredReason) : Prop :=
  ∀ id, s.task? id = none → ∃ sel,
    (s.turn (.begin id (.select seat action))).task? id = some (.selection sel) ∧
    sel.outcome? = some (.ignored reason) ∧
    (s.turn (.begin id (.select seat action))).desk.questions = s.desk.questions

/-- An action that is not all blanks is sent to the endpoint of an idle control, without the blanks
around it. -/
theorem select_sent (hu : s.desk.setUrl? seat = some url) (hb : s.desk.isBusy seat = false)
    (haction : trim action ≠ "") : s.Sends seat action url ⟨seat.scope, trim action⟩ := by
  intro id hnew
  have hask : (Wish.select seat action).Asks seat action := ⟨rfl, rfl⟩
  obtain ⟨sel, epoch, hend, rfl, rfl, hstage⟩ := Task.sent_of_begin hask haction hu hb
  have hcalls := (calls_turn_begin hnew hend).2.2.2
    (by simp [Task.rests, Task.awaits, Selection.awaits, hstage])
    (by simp [Task.IsIgnored, Selection.outcome?, hstage])
  rw [questions_turn_begin hnew, hcalls.2, hu, task?_turn_begin hnew, hend]
  exact ⟨sel, epoch, rfl, hstage, rfl⟩

/-- An action that is all blanks is ignored. -/
theorem select_ignored (hb : s.desk.isBusy seat = false) (haction : trim action = "") :
    s.Ignores seat action .noAction := by
  intro id hnew
  have hend := Task.settle_blank haction hb
  have hnone := (calls_turn_begin hnew hend).2.2.1 ⟨_, rfl⟩
  rw [questions_turn_begin hnew, hnone, List.append_nil, task?_turn_begin hnew, hend]
  exact ⟨_, rfl, rfl, rfl⟩

/-- A control with an endpoint shows on offer the actions that the graph its choices were last
derived from permitted then, which is in its present state if no other was taken over since, but for
one without a sign, which is the mark of the first entry. While no request holds it, it can be used
when the graph permitted any. The selection of a permitted action asks to change just this scope to
it, without the blanks around it, and so as it is when it neither begins nor ends with one. An
action that is all blanks is ignored. -/
theorem offered_sent {permitted : List String} (hcontrol : s.desk.control? seat = some c)
    (hurl : c.setUrl = some url) (hidle : c.busy = false)
    (hmade : c = (Control.bind g₀ page x).after (early ++ late))
    (hderived : (Control.bind g₀ page x).DerivedIn g₀ early late g)
    (hpermitted :
      permitted = g.actionsFor seat.scope ((Control.bind g₀ page x).after early).state) :
    ((∀ t ∈ late, t.state? = none) → permitted = g.actionsFor seat.scope c.state) ∧
    c.view.actions = permitted.filter (!·.isEmpty) ∧
    (c.view.selectable = true ↔ permitted ≠ []) ∧
    ∀ action ∈ permitted,
      ((∃ a ∈ action.toList, isBlank a = false) →
        s.Sends seat action url ⟨seat.scope, trim action⟩) ∧
      (action ≠ "" → (∀ a ∈ action.toList.head?, isBlank a = false) →
        (∀ a ∈ action.toList.getLast?, isBlank a = false) →
          s.Sends seat action url ⟨seat.scope, action⟩) ∧
      ((∀ a ∈ action.toList, isBlank a = true) → s.Ignores seat action .noAction) := by
  have hbound : x.setUrl = some url := by
    rw [hmade, Control.after_setUrl, Control.bind_setUrl] at hurl
    exact hurl
  obtain ⟨hshows, hloaded⟩ := Control.shows_bind g₀ page (Option.isSome_of_eq_some hbound)
  obtain ⟨hs, hl⟩ := hderived.shows hshows hloaded
  rw [← hmade] at hs hl
  have hchoices := hs.choices
  have hactions := hs.hasActions
  rw [Desk.seat_of_control? hcontrol, ← hpermitted] at hchoices hactions
  have hu : s.desk.setUrl? seat = some url := by rw [Desk.setUrl?, hcontrol, Option.bind_some, hurl]
  have hb : s.desk.isBusy seat = false := by rw [Desk.isBusy, hcontrol, Option.any_some, hidle]
  refine ⟨fun hstate => ?_, ?_, ?_, fun action _ => ⟨?_, ?_, ?_⟩⟩
  · rw [hpermitted, hs.current (hl.mpr hstate)]
  · simp only [View.actions, Control.view, hchoices, Control.actions_choicesFor]
  · simp [Control.view, Control.isBound, hurl, hidle, hactions]
  · rintro ⟨a, ha, hsign⟩
    refine select_sent hu hb fun hempty => ?_
    rw [trim_eq_empty_iff.mp hempty a ha] at hsign
    cases hsign
  · intro hne hfirst hlast
    have hsame := trim_eq_self_iff.mpr ⟨hfirst, hlast⟩
    have hsent := select_sent hu hb (hsame.trans_ne hne)
    rwa [hsame] at hsent
  · intro hall
    exact select_ignored hb (trim_eq_empty_iff.mpr hall)

/-- A page with one control, at which the graph permits some actions for an open order. -/
def offering (actions : List String) : Session :=
  opened ⟨Graph.empty.withActions .order "open" actions, .unavailable, none⟩ Schedule.none
    [⟨⟨"10001"⟩, .order, "open", some "/set-order"⟩]

/-- The control on that page. -/
def offered (actions : List String) : Control :=
  .bind (Graph.empty.withActions .order "open" actions) 0
    ⟨⟨"10001"⟩, .order, "open", some "/set-order"⟩

theorem control?_offering (actions : List String) :
    (offering actions).desk.control? sampleSeat = some (offered actions) :=
  control?_opened _ _ (x := ⟨⟨"10001"⟩, .order, "open", some "/set-order"⟩) List.mem_cons_self

/-- An action as it should be, one between blanks and one that is all blanks. -/
theorem offered_sent_awkward :
    (offered ["process", " pay ", "  "]).view.actions = ["process", " pay ", "  "] ∧
    (offering ["process", " pay ", "  "]).Sends sampleSeat "process" "/set-order"
      ⟨.order, "process"⟩ ∧
    (offering ["process", " pay ", "  "]).Sends sampleSeat " pay " "/set-order" ⟨.order, "pay"⟩ ∧
    (offering ["process", " pay ", "  "]).Ignores sampleSeat "  " .noAction := by
  have hderived : (offered ["process", " pay ", "  "]).DerivedIn
      (Graph.empty.withActions .order "open" ["process", " pay ", "  "]) [] []
      (Graph.empty.withActions .order "open" ["process", " pay ", "  "]) :=
    ⟨Or.inl ⟨rfl, rfl⟩, by simp⟩
  have hurl : (offered ["process", " pay ", "  "]).setUrl = some "/set-order" := rfl
  have hpermitted : ["process", " pay ", "  "] =
      (Graph.empty.withActions .order "open" ["process", " pay ", "  "]).actionsFor sampleSeat.scope
        ((offered ["process", " pay ", "  "]).after []).state := rfl
  obtain ⟨-, hactions, -, hsent⟩ :=
    offered_sent (control?_offering ["process", " pay ", "  "]) hurl rfl rfl hderived hpermitted
  refine ⟨hactions.trans rfl, (hsent "process" (by simp)).2.1 (by decide) ?_ ?_,
    (hsent " pay " (by simp)).1 ⟨'p', by simp, rfl⟩, (hsent "  " (by simp)).2.2 ?_⟩
  · rintro _ ⟨⟩
    rfl
  · rintro _ ⟨⟩
    rfl
  · simp [isBlank]

/-- What is on offer is not all that the graph permits, a control can be used with nothing on offer,
and of what is on offer there is something that is ignored and something that is sent in another
spelling. -/
theorem offered_not_sent :
    (offered ["", "process"]).view.actions ≠ ["", "process"] ∧
    ((offered [""]).view.selectable = true ∧ (offered [""]).view.actions = []) ∧
    ("  " ∈ (offered ["  "]).view.actions ∧
      (offering ["  "]).Ignores sampleSeat "  " .noAction) ∧
    " pay " ∈ (offered [" pay "]).view.actions ∧
      ¬(offering [" pay "]).Sends sampleSeat " pay " "/set-order" ⟨.order, " pay "⟩ := by
  refine ⟨by decide, ⟨by decide, by decide⟩, ⟨by decide, ?_⟩, by decide, ?_⟩
  · exact select_ignored (by decide) (by decide)
  · intro h
    obtain ⟨_, _, -, -, hasked⟩ := h 0 rfl
    have hother :
        ((offering [" pay "]).turn (.begin 0 (.select sampleSeat " pay "))).desk.questions =
          [.setState "/set-order" ⟨.order, "pay"⟩] := rfl
    rw [hother] at hasked
    exact absurd hasked (by decide)

end Session
end OrderDesk
