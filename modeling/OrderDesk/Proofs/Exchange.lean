import OrderDesk.Http.Network
import OrderDesk.Proofs.Rejection

/-! What comes of a selection whose request goes over HTTP. The client reads a result out of the
answer, by its status and by its body, and the selection reads an outcome out of the result.
Between the two no answer gets lost: each is taken as a change that was made, as a refusal or as a
failure. -/
namespace OrderDesk

variable {d : Desk} {s : Session} {sel : Selection} {t : Task} {c : Control} {seat : Seat}
  {ev : Event} {es : List Event} {reply : Reply} {id : Nat} {result : SetResult} {wish : Wish}
  {action endpoint : String} {answer : Http.Answer} {u : Url} {l : Line}

namespace Http.Answer

/-- An answer by which a change was made: a status of success, and a whole body that says so. -/
def Accepts : Answer → Prop
  | .whole status body => (200 ≤ status ∧ status < 300) ∧
    ∃ response, SetResponse.ofBytes? body = some response ∧ response.ok = true
  | _ => False

/-- An answer by which a change was refused: any other status, or a whole body that can be read and
does not say that the change was made. -/
def Refuses : Answer → Prop
  | .whole status body => ¬(200 ≤ status ∧ status < 300) ∨
    ∃ response, SetResponse.ofBytes? body = some response ∧ response.ok = false
  | _ => False

/-- An answer that tells nothing: none at all, one that was cut short, or a status of success with a
body that cannot be read. -/
def Fails : Answer → Prop
  | .whole status body => (200 ≤ status ∧ status < 300) ∧ SetResponse.ofBytes? body = none
  | _ => True

end Http.Answer

/-- A status of success is one of the two hundreds. -/
theorem isSuccessStatus_iff (status : Nat) :
    isSuccessStatus status = true ↔ 200 ≤ status ∧ status < 300 := by
  simp [isSuccessStatus]

namespace Client

/-- What is ready to go out is the request itself, with headers that can be written and a url that
requests are sent to. -/
theorem build_eq_ok_iff {r out : Http.Request} :
    build r = .ok out ↔ r.isWritable = true ∧ Http.isSendable r.url = true ∧ out = r := by
  unfold build
  cases r.isWritable <;> cases Http.isSendable r.url <;> simp [eq_comm]

/-- What goes out for a change is the request that the client makes of it, to where the endpoint
leads. -/
theorem exists_url_of_askSet {c : Client} {request : SetRequest} {r : Http.Request}
    (h : c.askSet endpoint request = .ok r) :
    ∃ u, c.resolve endpoint = .ok u ∧ r = c.setRequest u request := by
  unfold askSet at h
  cases hu : c.resolve endpoint with
  | error error => simp [hu, bind, Except.bind] at h
  | ok u =>
    simp only [hu, bind, Except.bind] at h
    exact ⟨u, rfl, (build_eq_ok_iff.mp h).2.2⟩

/-- What the client makes of an answer, in the three ways that an answer may be meant. -/
theorem readSet_cases (u : Url) (answer : Http.Answer) :
    (∃ reply, readSet u answer = .ok reply ∧ reply.isSuccess = true ∧
      answer.Accepts ∧ ¬answer.Refuses ∧ ¬answer.Fails) ∨
    (∃ reply, readSet u answer = .ok reply ∧ reply.isSuccess = false ∧
      ¬answer.Accepts ∧ answer.Refuses ∧ ¬answer.Fails) ∨
    ∃ error, readSet u answer = .error error ∧
      ¬answer.Accepts ∧ ¬answer.Refuses ∧ answer.Fails := by
  cases answer with
  | unreached | closed | cut => exact Or.inr (Or.inr ⟨_, rfl, not_false, not_false, trivial⟩)
  | whole status body =>
    have hstatus := isSuccessStatus_iff status
    cases hbody : SetResponse.ofBytes? body with
    | some response =>
      have hread : readSet u (.whole status body) = .ok ⟨status, response⟩ := by
        simp [readSet, hbody]
      cases hs : isSuccessStatus status <;> cases hok : response.ok <;>
        simp_all [SetReply.isSuccess, Http.Answer.Accepts, Http.Answer.Refuses, Http.Answer.Fails]
    | none =>
      cases hs : isSuccessStatus status with
      | true =>
        have hread : readSet u (.whole status body) = .error (.decode u.text) := by
          simp [readSet, hbody, hs]
        simp_all [Http.Answer.Accepts, Http.Answer.Refuses, Http.Answer.Fails]
      | false =>
        have hread : readSet u (.whole status body) = .ok ⟨status, {}⟩ := by
          simp [readSet, hbody, hs]
        simp_all [SetReply.isSuccess, Http.Answer.Accepts, Http.Answer.Refuses, Http.Answer.Fails]

end Client

namespace Line

/-- The answer that a request for a change gets, if one can be made and sent. -/
def received? (l : Line) (endpoint : String) (request : SetRequest) : Option Http.Answer :=
  match l.client.askSet endpoint request with
  | .error _ => none
  | .ok r => some (l.network.send r).2

theorem received?_of_unresolved {request : SetRequest} {error : TransportError}
    (h : l.client.resolve endpoint = .error error) : l.received? endpoint request = none := by
  rw [received?, Client.askSet, h]
  rfl

end Line

namespace Outcome

def isApplied : Outcome → Bool
  | .applied _ _ => true
  | _ => false

def isRejected : Outcome → Bool
  | .rejected _ _ => true
  | _ => false

def isFailed : Outcome → Bool
  | .failed _ => true
  | _ => false

/-- An outcome that follows on the result of a request. -/
def Follows (o : Outcome) : SetResult → Prop
  | .error _ => o.isFailed = true
  | .ok reply => if reply.isSuccess then o.isApplied = true else o.isRejected = true

/-- An outcome that reports the answer which was received, if one was: applied for one that accepts,
rejected for one that refuses, and failed for one that fails and for none. -/
def Reports (o : Outcome) (received : Option Http.Answer) : Prop :=
  (o.isApplied ↔ ∃ answer, received = some answer ∧ answer.Accepts) ∧
  (o.isRejected ↔ ∃ answer, received = some answer ∧ answer.Refuses) ∧
  (o.isFailed ↔ ∀ answer, received = some answer → answer.Fails)

/-- What follows on the result that the client reads reports the answer. -/
theorem Follows.reports {o : Outcome} {request : SetRequest}
    (h : o.Follows (l.setState endpoint request).2.result) :
    o.Reports (l.received? endpoint request) := by
  cases hask : l.client.askSet endpoint request with
  | error error =>
    have hfailed : o.isFailed = true := by simpa [Line.setState, hask, Follows] using h
    cases o <;> simp_all [isFailed, Reports, isApplied, isRejected, Line.received?]
  | ok r =>
    have hreceived : l.received? endpoint request = some (l.network.send r).2 := by
      simp [Line.received?, hask]
    have hresult : (l.setState endpoint request).2.result =
        Client.readSet r.url (l.network.send r).2 := by
      simp [Line.setState, hask]
    rw [hresult] at h
    rw [hreceived]
    rcases Client.readSet_cases r.url (l.network.send r).2 with
      ⟨reply, hread, hs, ha, hr, hf⟩ | ⟨reply, hread, hs, ha, hr, hf⟩ | ⟨error, hread, ha, hr, hf⟩
    all_goals
      rw [hread] at h
      cases o <;> simp_all [Follows, Reports, isApplied, isRejected, isFailed]

end Outcome

/-- A selection that has come to what follows on the result of its request, or that was refused and
waits for the graph. -/
def Selection.Comes (result : SetResult) (s : Selection) : Prop :=
  match s.stage with
  | .finished o => o.Follows result
  | .fetch reply (.asked _) => result = .ok reply ∧ reply.isSuccess = false
  | _ => False

/-- Where a selection that has come so far is over, its outcome is what follows on the result. -/
theorem Selection.Comes.follows {o : Outcome} (h : sel.Comes result) (ho : sel.outcome? = some o) :
    o.Follows result := by
  cases hstage : sel.stage with
  | finished outcome =>
    obtain rfl : outcome = o := by simpa [outcome?, hstage] using ho
    simpa [Comes, hstage] using h
  | _ => simp [outcome?, hstage] at ho

/-- Else it waits for the graph. -/
theorem Selection.Comes.waits (h : sel.Comes result) (hnone : sel.outcome? = none) :
    ∃ refused url, sel.stage = .fetch refused (.asked url) := by
  cases hstage : sel.stage with
  | finished outcome => simp [outcome?, hstage] at hnone
  | fetch refused refresh =>
    cases refresh with
    | asked url => exact ⟨refused, url, rfl⟩
    | _ => simp [Comes, hstage] at h
  | _ => simp [Comes, hstage] at h

namespace Task

/-- The answer to its request lets a selection come to what follows on the result. -/
theorem comes_of_reply {epoch : Nat} {url : String} (hs : sel.stage = .sent epoch url)
    (result : SetResult) :
    ∃ u, (((selection sel).answered d (.setState result)).2.settle
      ((selection sel).answered d (.setState result)).1).2 = selection u ∧ u.Comes result := by
  rw [answered_of_sent hs]
  cases result with
  | error cause => exact ⟨_, congrArg Prod.snd (settle_failure rfl), rfl⟩
  | ok reply =>
    cases hok : reply.isSuccess with
    | true =>
      refine ⟨_, congrArg Prod.snd (settle_success rfl hok), ?_⟩
      simp [Selection.Comes, Outcome.Follows, hok, Outcome.isApplied]
    | false =>
      rw [settle_refused rfl hok]
      cases (d.stopTimers sel.seat epoch).store.metaUrl with
      | some url => exact ⟨_, rfl, rfl, hok⟩
      | none =>
        refine ⟨_, rfl, ?_⟩
        simp [Selection.Comes, Outcome.Follows, hok, Outcome.isRejected]

/-- The answer for the graph lets a selection that was refused come to its end. -/
theorem rejected_of_transitions {refused : SetReply} {url : String}
    (hs : sel.stage = .fetch refused (.asked url)) (m : MetaResult) :
    ∃ available message, (((selection sel).answered d (.transitions m)).2.settle
      ((selection sel).answered d (.transitions m)).1).2 =
        selection (sel.moveTo (.finished (.rejected available message))) := by
  rw [answered_of_asked hs]
  rcases Refresh.answered_cases m with ⟨g, -, ha⟩ | ⟨-, error, ha⟩
  · rw [ha]
    exact ⟨_, _, congrArg Prod.snd (settle_fetched rfl)⟩
  · rw [ha]
    exact ⟨_, _, congrArg Prod.snd (settle_unfetched rfl)⟩

end Task

theorem Selection.ignored?_of_idle (hw : sel.wanted ≠ "") (hu : d.setUrl? sel.seat = some endpoint)
    (hb : d.isBusy sel.seat = false) : sel.ignored? d = none := by
  have hsome : (d.control? sel.seat).bind (·.setUrl) = some endpoint := hu
  simp [ignored?, hw, hsome, hb]

namespace Task

/-- A selection that claims its control goes on to send its request to the endpoint there. -/
theorem sent_of_claim (hs : sel.stage = .claim) (hw : sel.wanted ≠ "")
    (hu : d.setUrl? sel.seat = some endpoint) (hb : d.isBusy sel.seat = false) :
    ∃ epoch, ((selection sel).settle d).2 = selection (sel.moveTo (.sent epoch endpoint)) := by
  have hclaimed : (selection sel).settle d =
      (selection (sel.moveTo .choose)).settle (d.touch sel.seat .claim) := by
    rw [settle_step (rests_of_stage hs)]
    simp [step, Selection.step, hs, Selection.ignored?_of_idle hw hu hb]
  have hkept : (((d.touch sel.seat .claim).touch sel.seat (.select sel.wanted)).touch sel.seat
      (.beginProgress Feedback.saveStarted)).setUrl? sel.seat = some endpoint := by
    have htouched := ((Desk.Touched.touch d sel.seat .claim).trans
      (.touch _ sel.seat (.select sel.wanted))).trans
        (.touch _ sel.seat (.beginProgress Feedback.saveStarted))
    exact (htouched.setUrl?_eq sel.seat).trans hu
  rw [hclaimed, settle_step rfl, settle_step rfl, settle_step rfl, settle_of_rests rfl]
  exact ⟨_, congrArg (fun url : Option String =>
    selection (sel.moveTo (.sent _ (url.getD "")))) hkept⟩

/-- A selection on an idle control goes on to claim it. -/
theorem settle_select (hb : d.isBusy seat = false) :
    (ofWish d (.select seat action)).settle d =
      (selection ⟨seat, action, d.seatsOn seat.page, .claim⟩).settle
        (d.touch seat (.freshen d.store.graph)) := by
  rw [ofWish, settle_step rfl]
  simp only [step, Selection.step, hb]
  rw [settle_step rfl, settle_step rfl]
  rfl

/-- A selection on an idle control with an endpoint goes on to send its request there. -/
theorem sent_of_begin (hask : wish.Asks seat action) (haction : Text.trim action ≠ "")
    (hu : d.setUrl? seat = some endpoint) (hb : d.isBusy seat = false) :
    ∃ sel epoch, ((ofWish d wish).settle d).2 = selection sel ∧ sel.seat = seat ∧
      sel.action = action ∧ sel.stage = .sent epoch endpoint := by
  cases wish with
  | select at' wanted =>
    obtain ⟨rfl, rfl⟩ := hask
    have hbusy : (d.touch at' (.freshen d.store.graph)).isBusy at' = false :=
      (Desk.isBusy_touch (by simp) (by simp)).trans hb
    have hurl := ((Desk.Touched.touch d at' (.freshen d.store.graph)).setUrl?_eq at').trans hu
    have hstage : (Selection.mk at' wanted (d.seatsOn at'.page) .claim).stage = .claim := rfl
    obtain ⟨epoch, hsent⟩ := sent_of_claim hstage haction hurl hbusy
    rw [settle_select hb]
    exact ⟨_, epoch, hsent, rfl, rfl, rfl⟩
  | submit at' wanted seats =>
    obtain ⟨rfl, rfl⟩ := hask
    have hstage : (Selection.mk at' wanted seats .claim).stage = .claim := rfl
    obtain ⟨epoch, hsent⟩ := sent_of_claim hstage haction hu hb
    exact ⟨_, epoch, hsent, rfl, rfl, rfl⟩
  | refreshPage | refreshStore => exact hask.elim

/-- Whatever answer a selection gets that has come to what follows on its result, it stays there. -/
theorem comes_answered (hc : sel.Comes result) (reply : Reply) :
    ∃ u, (((selection sel).answered d reply).2.settle ((selection sel).answered d reply).1).2 =
      selection u ∧ u.Comes result := by
  cases hstage : sel.stage with
  | finished o =>
    have hsame : (selection sel).answered d reply = (d, selection sel) := by
      cases reply <;> simp [answered, Selection.answered, hstage]
    rw [hsame, settle_of_rests (by simp [rests, isFinished, Selection.outcome?, hstage])]
    exact ⟨sel, rfl, hc⟩
  | fetch refused refresh =>
    cases refresh with
    | asked url =>
      simp only [Selection.Comes, hstage] at hc
      obtain ⟨rfl, hrefused⟩ := hc
      cases reply with
      | setState other =>
        have hsame : (selection sel).answered d (.setState other) = (d, selection sel) := by
          simp [answered, Selection.answered, hstage]
        rw [hsame, settle_of_rests (by simp [rests, awaits, Selection.awaits, hstage])]
        exact ⟨sel, rfl, by simp [Selection.Comes, hstage, hrefused]⟩
      | transitions m =>
        obtain ⟨available, message, hend⟩ := rejected_of_transitions (d := d) hstage m
        refine ⟨_, hend, ?_⟩
        simp [Selection.Comes, Outcome.Follows, hrefused, Outcome.isRejected]
    | _ => simp [Selection.Comes, hstage] at hc
  | _ => simp [Selection.Comes, hstage] at hc

end Task

namespace Session

theorem comes_turns (hs : s.Calm) (ht : s.task? id = some (.selection sel))
    (hc : sel.Comes result) (hd : Event.drop id ∉ es) :
    ∃ u, (s.turns es).task? id = some (.selection u) ∧ u.Comes result := by
  have hkeep : ∀ (d : Desk) (t : Task) (reply : Reply),
      (∃ u, t = .selection u ∧ u.Comes result) →
        ∃ u, ((t.answered d reply).2.settle (t.answered d reply).1).2 = .selection u ∧
          u.Comes result := by
    rintro d _ reply ⟨u, rfl, hu⟩
    exact Task.comes_answered hu reply
  obtain ⟨_, hu, u, rfl, hcomes⟩ := task?_turns_keeps hkeep hs ht ⟨sel, rfl, hc⟩ hd
  exact ⟨u, hu, hcomes⟩

/-- Where it waits for the graph, it comes to its outcome with the next answer for that. -/
theorem follows_of_transitions (ht : s.task? id = some (.selection sel)) (hc : sel.Comes result)
    (hnone : sel.outcome? = none) (m : MetaResult) :
    ∃ u o, (s.turn (.answer id (.transitions m))).task? id = some (.selection u) ∧
      u.outcome? = some o ∧ o.Follows result := by
  obtain ⟨refused, url, hstage⟩ := hc.waits hnone
  simp only [Selection.Comes, hstage] at hc
  obtain ⟨rfl, hrefused⟩ := hc
  obtain ⟨available, message, hend⟩ := Task.rejected_of_transitions (d := s.desk) hstage m
  refine ⟨sel.moveTo (.finished (.rejected available message)), .rejected available message, ?_,
    rfl, ?_⟩
  · rw [turn_answer ht, task?_put ht, hend]
  · simp [Outcome.Follows, hrefused, Outcome.isRejected]

/-- The events in which a selection begins and an answer arrives that comes over a line to its
request, with those that come between and after. -/
def exchange (id : Nat) (wish : Wish) (before : List Event) (l : Line) (endpoint : String)
    (request : SetRequest) (after : List Event) : List Event :=
  .begin id wish :: before ++
    .answer id (Backend.reply l (.setState endpoint request)).2.result :: after

/-- A selection on an idle control with an endpoint sends its request there. When the answer that
the client gets to it arrives, the selection comes to an outcome that reports the answer, at once or
when the graph has been asked for, whatever else happens but that it is dropped. A request that has
no url gets no answer, and the test for success that tells how a body is meant that cannot be read
is the one that tells whether a change was made. -/
theorem http_outcome {before after : List Event} {request : SetRequest} (hs : s.Calm)
    (hnew : s.task? id = none) (hask : wish.Asks seat action) (haction : Text.trim action ≠ "")
    (hrequest : request = ⟨seat.scope, Text.trim action⟩)
    (hcontrol : s.desk.control? seat = some c) (hidle : c.busy = false)
    (hbound : c.setUrl = some endpoint) (hbefore : ∀ e ∈ before, e.id? ≠ some id)
    (hafter : Event.drop id ∉ after) (l : Line) :
    (∃ t, (s.turns (.begin id wish :: before)).task? id = some t ∧
      t.awaits = some (.setState endpoint request)) ∧
    (∃ sel, (s.turns (exchange id wish before l endpoint request after)).task? id =
        some (.selection sel) ∧
      (∀ o, sel.outcome? = some o → o.Reports (l.received? endpoint request)) ∧
      (sel.outcome? = none → (∃ url, sel.awaits = some (.transitions url)) ∧
        ∀ m, ∃ u o, ((s.turns (exchange id wish before l endpoint request after)).turn
            (.answer id (.transitions m))).task? id = some (.selection u) ∧
          u.outcome? = some o ∧ o.Reports (l.received? endpoint request))) ∧
    (∀ error, l.client.resolve endpoint = .error error → l.received? endpoint request = none) ∧
    ∀ u status body response, SetResponse.ofBytes? body = none → response.ok = true →
      ((∃ error, Client.readSet u (.whole status body) = .error error) ↔
        SetReply.isSuccess ⟨status, response⟩ = true) := by
  have hu : s.desk.setUrl? seat = some endpoint := by rw [Desk.setUrl?, hcontrol]; exact hbound
  have hb : s.desk.isBusy seat = false := by rw [Desk.isBusy, hcontrol]; exact hidle
  obtain ⟨first, epoch, hsettle, rfl, rfl, hstage⟩ := Task.sent_of_begin hask haction hu hb
  have hwaits : (s.turns (.begin id wish :: before)).task? id = some (.selection first) := by
    rw [turns_cons, task?_turns_of_ne hbefore, task?_turn_begin hnew, hsettle]
  have hcalm := calm_turns hs (.begin id wish :: before)
  refine ⟨⟨_, hwaits, ?_⟩, ?_, fun error he => Line.received?_of_unresolved he, ?_⟩
  · simp only [Task.awaits, Selection.awaits, hstage, hrequest]
    rfl
  · obtain ⟨u, hu, hcomes⟩ := Task.comes_of_reply
      (d := (s.turns (.begin id wish :: before)).desk) hstage (l.setState endpoint request).2.result
    have hanswered : ((s.turns (.begin id wish :: before)).turn (.answer id
        (Backend.reply l (.setState endpoint request)).2.result)).task? id =
          some (.selection u) := by
      rw [turn_answer hwaits, task?_put hwaits]
      exact congrArg some hu
    obtain ⟨sel, hsel, hend⟩ := comes_turns (calm_turn hcalm _) hanswered hcomes hafter
    rw [exchange, turns_append, turns_cons]
    refine ⟨sel, hsel, fun o ho => (hend.follows ho).reports, fun hnone => ?_⟩
    obtain ⟨refused, url, hasked⟩ := hend.waits hnone
    refine ⟨⟨url, by simp [Selection.awaits, hasked]⟩, fun m => ?_⟩
    obtain ⟨v, o, hv, ho, hfollows⟩ := follows_of_transitions hsel hend hnone m
    exact ⟨v, o, hv, ho, hfollows.reports⟩
  · intro u status body response hbody hok
    cases hstatus : isSuccessStatus status <;>
      simp [Client.readSet, hbody, hstatus, SetReply.isSuccess, hok]

/-- The url of a server. -/
def shop : Url where
  scheme := "http"
  authority := some { host := ['s', 'h', 'o', 'p'] }
  path := .names [[]]

/-- A line to that server, which is out of service but sends the body of a success. -/
def brokenLine : Line where
  client := ⟨some shop, some "token"⟩
  network := ⟨some (['s', 'h', 'o', 'p'], 80),
    [.whole 503 [0x7B, 0x22, 0x6F, 0x6B, 0x22, 0x3A, 0x74, 0x72, 0x75, 0x65, 0x7D]], []⟩

/-- What is sent over it, and what comes back. -/
def outage : List Event :=
  exchange 0 (.select sampleSeat " process ") [] brokenLine "/set-order" ⟨.order, "process"⟩ []

theorem http_outcome_outage :
    ∃ sel o, (sample.turns outage).task? 0 = some (.selection sel) ∧ sel.outcome? = some o ∧
      o.isRejected = true := by
  have hask : (Wish.select sampleSeat " process ").Asks sampleSeat " process " := ⟨rfl, rfl⟩
  have hnew : sample.task? 0 = none := rfl
  have hcalm : sample.Calm := calm_opened sampleStore Schedule.usual samplePage
  have hbefore : ∀ e ∈ ([] : List Event), e.id? ≠ some 0 := by simp
  have hafter : Event.drop 0 ∉ ([] : List Event) := List.not_mem_nil
  obtain ⟨-, ⟨sel, hsel, hreports, -⟩, -⟩ := http_outcome hcalm hnew hask (by decide) rfl rfl rfl
    rfl hbefore hafter brokenLine
  have hend : (sample.turns outage).task? 0 = some (.selection ⟨sampleSeat, " process ",
      samplePage.map fun x => ⟨0, x.order, x.scope⟩,
      .finished (.rejected none Feedback.setFailed)⟩) := rfl
  obtain rfl := Task.selection.inj (Option.some.inj (hsel.symm.trans hend))
  have hreceived : brokenLine.received? "/set-order" ⟨.order, "process"⟩ = some (.whole 503
      [0x7B, 0x22, 0x6F, 0x6B, 0x22, 0x3A, 0x74, 0x72, 0x75, 0x65, 0x7D]) := rfl
  refine ⟨_, _, hend, rfl, (hreports _ rfl).2.1.mpr ⟨_, hreceived, Or.inl (by decide)⟩⟩

end Session
end OrderDesk
