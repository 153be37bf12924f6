import OrderDesk.Proofs.Exchange
import OrderDesk.Proofs.RoundTrip

/-! What one side writes the other side reads. A message is read back from its text and from the
bytes of that text: what is missing is not written, and what is not written is read as missing. So
what a selection sends is read as the scope of its control and the action without the blanks around
it, whatever signs the action is made of. -/
namespace OrderDesk
open Text Json

namespace Text

theorem glyphsAfter_append (front rest : List UInt8) :
    glyphsAfter front.length (front ++ rest) = glyphsAfter 0 rest := by
  induction front with
  | nil => rfl
  | cons b front ih => exact ih

/-- The bytes of a character spell it, whatever follows them. -/
theorem firstChar?_encoded (c : Char) (rest : List UInt8) :
    firstChar? (String.utf8EncodeChar c ++ rest) = some c := by
  have hlen : (String.utf8EncodeChar c).length ≤ 4 := by
    rw [String.length_utf8EncodeChar]
    exact c.utf8Size_le_four
  rw [firstChar?, List.take_append, List.take_of_length_le hlen, List.toByteArray_append]
  exact ByteArray.utf8DecodeChar?_utf8EncodeChar_append

/-- The glyph of a character comes first where its bytes do. -/
theorem glyphs_encoded (c : Char) (rest : List UInt8) :
    glyphs (String.utf8EncodeChar c ++ rest) = some c :: glyphs rest := by
  have hsize : (String.utf8EncodeChar c).length = c.utf8Size := String.length_utf8EncodeChar c
  obtain ⟨b, front, hfront⟩ := List.exists_cons_of_length_pos (hsize ▸ c.utf8Size_pos)
  have hfirst := firstChar?_encoded c rest
  have hrest : c.utf8Size - 1 = front.length := by
    rw [← hsize, hfront]
    rfl
  rw [hfront] at hfirst ⊢
  simp only [glyphs, List.cons_append, glyphsAfter] at hfirst ⊢
  rw [hfirst]
  simp only [hrest, glyphsAfter_append]

/-- A text is spelled by its bytes. -/
theorem glyphs_bytes (s : List Char) : glyphs (bytes s) = s.map some := by
  induction s with
  | nil => rfl
  | cons c s ih =>
    have hbytes : bytes (c :: s) = String.utf8EncodeChar c ++ bytes s := rfl
    rw [hbytes, glyphs_encoded, ih, List.map_cons]

end Text

theorem Json.ofBytes?_bytes (s : String) : Json.ofBytes? (bytes s.toList) = Json.ofText? s := by
  rw [Json.ofBytes?, glyphs_bytes]
  rfl

namespace SetRequest

/-- A request is read back from its value. -/
theorem ofNode?_toValue (r : SetRequest) : ofNode? r.toValue.toNode = some r := by
  obtain ⟨scope, action⟩ := r
  cases scope <;> rfl

theorem ofText?_text (r : SetRequest) : ofText? r.text = some r := by
  rw [ofText?, text, ofText?_compact]
  exact r.ofNode?_toValue

end SetRequest

namespace SetResponse

/-- An answer is read back from its value, whichever of its texts are there. -/
theorem ofNode?_toValue (r : SetResponse) : ofNode? r.toValue.toNode = some r := by
  obtain ⟨ok, order, payment, shipping, error⟩ := r
  rcases order with _ | order <;> rcases payment with _ | payment <;>
    rcases shipping with _ | shipping <;> rcases error with _ | error <;> rfl

theorem ofText?_text (r : SetResponse) : ofText? r.text = some r := by
  rw [ofText?, text, ofText?_compact]
  exact r.ofNode?_toValue

theorem ofBytes?_bytes (s : String) : ofBytes? (bytes s.toList) = ofText? s := by
  rw [ofBytes?, Json.ofBytes?_bytes]
  rfl

end SetResponse

namespace MetaResponse

/-- An answer is read back from its value, with a graph or without. -/
theorem ofNode?_toValue (r : MetaResponse) : ofNode? r.toValue.toNode = some r := by
  obtain ⟨ok, _ | g⟩ := r
  · rfl
  · have hgraph : graphOf? (some g.toValue.toNode) = some (some g) :=
      congrArg (Option.map some) (Graph.ofNode?_toValue g)
    have hread : ofNode? (toValue ⟨ok, some g⟩).toNode =
        (graphOf? (some g.toValue.toNode)).bind fun transitions => some ⟨ok, transitions⟩ := rfl
    rw [hread, hgraph]
    rfl

theorem ofText?_text (r : MetaResponse) : ofText? r.text = some r := by
  rw [ofText?, text, ofText?_compact]
  exact r.ofNode?_toValue

theorem ofBytes?_bytes (s : String) : ofBytes? (bytes s.toList) = ofText? s := by
  rw [ofBytes?, Json.ofBytes?_bytes]
  rfl

end MetaResponse

namespace Session

variable {s : Session} {wish : Wish} {seat : Seat} {action : String} {id : Nat} {es : List Event}

/-- The only change that a selection asks for is its own. -/
theorem request_of_callsOf (hask : wish.Asks seat action) (hnew : s.task? id = none)
    (hes : Event.drop id ∉ es) {url : String} {request : SetRequest}
    (hcall : .setState url request ∈ (s.apply (.begin id wish)).callsOf id es) :
    request = ⟨seat.scope, trim action⟩ := by
  have hdesk : (s.apply (.begin id wish)).desk = s.desk := by simp [apply, hnew]
  have hfirst : (Task.ofWish s.desk wish).Traced wish (s.apply (.begin id wish)).desk none [] := by
    rw [hdesk]
    exact Task.traced_ofWish s.desk wish
  obtain ⟨t, -, htraced⟩ := traced_play (task?_begin hnew wish) hfirst hes
  have hcalls := htraced.calls
  cases wish with
  | select other wanted | submit other wanted seats =>
    obtain ⟨rfl, rfl⟩ := hask
    rcases List.mem_cons.mp (hcalls.1.subset hcall) with hchange | hfetch
    · exact (Question.setState.inj hchange).2
    · split at hfetch
      · obtain ⟨_, -, hquestion⟩ := List.mem_map.mp hfetch
        cases hquestion
      · cases hfetch
  | refreshPage | refreshStore => exact hask.elim

/-- Every request, every answer to a change and every answer for the graph is read back from the
text and from the bytes that it is written as. Whatever request goes out for a change that a
selection asks for, at whatever point of a run, its body is read as the scope of the control and the
action without the blanks around it. -/
theorem messages_round_trip :
    (∀ r : SetRequest, SetRequest.ofText? r.text = some r ∧
      (Json.ofBytes? (bytes r.text.toList)).bind SetRequest.ofNode? = some r) ∧
    (∀ r : SetResponse, SetResponse.ofText? r.text = some r ∧
      SetResponse.ofBytes? (bytes r.text.toList) = some r) ∧
    (∀ r : MetaResponse, MetaResponse.ofText? r.text = some r ∧
      MetaResponse.ofBytes? (bytes r.text.toList) = some r) ∧
    ∀ (s : Session) (wish : Wish) seat action id es, wish.Asks seat action → s.task? id = none →
      Event.drop id ∉ es → ∀ url request,
        .setState url request ∈ (s.apply (.begin id wish)).callsOf id es →
          ∀ (c : Client) out, c.askSet url request = .ok out →
            SetRequest.ofText? out.body = some ⟨seat.scope, trim action⟩ := by
  refine ⟨fun r => ⟨r.ofText?_text, ?_⟩, fun r => ⟨r.ofText?_text, ?_⟩,
    fun r => ⟨r.ofText?_text, ?_⟩, ?_⟩
  · rw [Json.ofBytes?_bytes]
    exact r.ofText?_text
  · rw [SetResponse.ofBytes?_bytes]
    exact r.ofText?_text
  · rw [MetaResponse.ofBytes?_bytes]
    exact r.ofText?_text
  · intro s wish seat action id es hask hnew hes url request hcall c out hout
    obtain rfl := request_of_callsOf hask hnew hes hcall
    obtain ⟨u, -, rfl⟩ := Client.exists_url_of_askSet hout
    exact SetRequest.ofText?_text _

/-- An action of signs that are written in another way, between blanks. -/
def awkward : String := "\t\"pay\u0000\\ß\n\"\u2003"

/-- What goes out for that action over a line is read as the action without the blanks. -/
theorem messages_round_trip_awkward :
    ∃ out, brokenLine.client.askSet "/set-order" ⟨.order, trim awkward⟩ = .ok out ∧
      SetRequest.ofText? out.body = some ⟨.order, "\"pay\u0000\\ß\n\""⟩ := by
  have hask : (Wish.select sampleSeat awkward).Asks sampleSeat awkward := ⟨rfl, rfl⟩
  have hcall : .setState "/set-order" ⟨.order, trim awkward⟩ ∈
      (sample.apply (.begin 0 (.select sampleSeat awkward))).callsOf 0 [.settle 0] :=
    List.mem_singleton.mpr rfl
  have hdrop : Event.drop 0 ∉ [Event.settle 0] := by simp
  have hout : brokenLine.client.askSet "/set-order" ⟨.order, trim awkward⟩ =
      .ok (brokenLine.client.setRequest
        { shop with path := .names [['s', 'e', 't', '-', 'o', 'r', 'd', 'e', 'r']] }
        ⟨.order, trim awkward⟩) := rfl
  exact ⟨_, hout, messages_round_trip.2.2.2 sample _ _ _ 0 _ hask rfl hdrop _ _ hcall _ _ hout⟩

end Session
end OrderDesk
