import OrderDesk.Http.Network
import OrderDesk.Proofs.Coding
import OrderDesk.Proofs.Exchange

/-! What goes out for a change of state. It is one request, to where the endpoint leads, and it shows
the token of the cookies as it is. Nothing goes out when a byte of the token could end its header, so
no cookie puts a header on a request. -/
namespace OrderDesk
open Text

namespace Text

/-- The bytes of a character beyond ASCII are all beyond ASCII. -/
theorem le_of_mem_utf8EncodeChar {c : Char} (h : 0x80 ≤ c.toNat) :
    ∀ b ∈ String.utf8EncodeChar c, 0x80 ≤ b.toNat := by
  have hval : 0x80 ≤ c.val.toNat := h
  simp only [String.utf8EncodeChar]
  split_ifs
  · omega
  all_goals
    simp only [List.forall_mem_cons, List.not_mem_nil, false_imp_iff, implies_true, and_true,
      UInt8.toNat_ofNat']
    omega

end Text

namespace Http

variable {c : Char} {r : Request} {name value body : String}

/-- The bytes that control how what goes out is read, but for the tab. -/
def IsControl (b : UInt8) : Prop := b.toNat < 0x20 ∧ b.toNat ≠ 0x09 ∨ b.toNat = 0x7F

instance : DecidablePred IsControl := fun b =>
  inferInstanceAs (Decidable (b.toNat < 0x20 ∧ b.toNat ≠ 0x09 ∨ b.toNat = 0x7F))

/-- A text without a byte of control. -/
def IsClean (value : String) : Prop := ∀ b ∈ bytes value.toList, ¬ IsControl b

instance : DecidablePred IsClean := fun value =>
  List.decidableBAll (fun b => ¬ IsControl b) (bytes value.toList)

/-- The characters of headers are those whose bytes control nothing. -/
theorem isHeaderSign_iff :
    isHeaderSign c = true ↔ ∀ b ∈ String.utf8EncodeChar c, ¬ IsControl b := by
  have htab : c = '\t' ↔ c.toNat = 0x09 := by rw [← Char.toNat_inj]; rfl
  rcases Nat.lt_or_ge c.toNat 0x80 with hascii | hbeyond
  · have hbyte : (UInt8.ofNat c.toNat).toNat = c.toNat := by
      rw [UInt8.toNat_ofNat']
      omega
    simp only [isHeaderSign, utf8EncodeChar_ascii hascii, List.mem_singleton, forall_eq, IsControl,
      hbyte, Bool.or_eq_true, Bool.and_eq_true, beq_iff_eq, bne_iff_ne, decide_eq_true_eq, htab]
    omega
  · have hsign : isHeaderSign c = true := by
      simp only [isHeaderSign, Bool.or_eq_true, Bool.and_eq_true, bne_iff_ne, decide_eq_true_eq]
      omega
    refine iff_of_true hsign fun b hb hcontrol => ?_
    have hbyte := le_of_mem_utf8EncodeChar hbeyond b hb
    rcases hcontrol with hcontrol | hcontrol <;> omega

/-- Just clean texts can be the values of headers. -/
theorem all_isHeaderSign_iff : value.toList.all isHeaderSign = true ↔ IsClean value := by
  simp only [List.all_eq_true, isHeaderSign_iff, IsClean, bytes, List.mem_flatMap]
  exact ⟨fun h b ⟨c, hc, hb⟩ => h c hc b hb, fun h c hc b hb => h b ⟨c, hc, hb⟩⟩

namespace Request

theorem isWritable_iff : r.isWritable = true ↔ ∀ h ∈ r.headers, IsClean h.2 := by
  simp only [isWritable, ← all_isHeaderSign_iff]
  exact List.all_eq_true

end Request

end Http

namespace Client
open Http

variable {c : Client} {u : Url} {r : Request} {asked : SetRequest} {endpoint : String}
  {base cookie : Option String} {n : Network}

/-- Where an endpoint leads from a base, if there is one. -/
def LeadsTo (base : Option String) (endpoint : String) (u : Url) : Prop :=
  match base with
  | none => Url.read none endpoint = .ok u
  | some raw => ∃ b, Url.read none raw = .ok b ∧ Url.read (some b) endpoint = .ok u

/-- A request for a change as it is meant: it is sent to a url, shows a token, which is empty when
there is none, is marked as made by a page, has one content type, and says what is asked for. None
of its headers can be read as more than one. -/
structure Asks (u : Url) (token : Option String) (asked : SetRequest) (r : Request) : Prop where
  method : r.method = .post
  url : r.url = u
  token : r.values "x-csrftoken" = [token.getD ""]
  page : r.values "x-requested-with" = ["XMLHttpRequest"]
  content : r.values "content-type" = ["application/json"]
  body : SetRequest.ofText? r.body = some asked
  clean : ∀ h ∈ r.headers, IsClean h.2

/-- A request of a client for a change is clean if the token is. -/
theorem isWritable_setRequest :
    (c.setRequest u asked).isWritable = true ↔ IsClean (c.token.getD "") := by
  have hheaders : (c.setRequest u asked).headers = [("content-type", "application/json"),
      ("x-csrftoken", c.token.getD ""), ("x-requested-with", "XMLHttpRequest")] := rfl
  have hcontent : IsClean "application/json" := by decide
  have hpage : IsClean "XMLHttpRequest" := by decide
  simp only [Request.isWritable_iff, hheaders, List.forall_mem_cons, hcontent, hpage, true_and]
  simp

theorem asks_setRequest (h : IsClean (c.token.getD "")) :
    Asks u c.token asked (c.setRequest u asked) where
  method := rfl
  url := rfl
  token := rfl
  page := rfl
  content := rfl
  body := SetRequest.ofText?_text asked
  clean := Request.isWritable_iff.mp (isWritable_setRequest.mpr h)

/-- A client is made for every base that is a url, and resolves endpoints from there. -/
theorem ofCookie?_cases (base cookie : Option String) :
    (∃ raw e, base = some raw ∧ Url.read none raw = .error e ∧
      ofCookie? base cookie = .error (.invalidUrl raw e.message)) ∨
    ∃ c, ofCookie? base cookie = .ok c ∧ c.token = cookie.bind Cookie.token? ∧
      ∀ endpoint u, c.resolve endpoint = .ok u ↔ LeadsTo base endpoint u := by
  have hresolve : ∀ (c : Client) endpoint u,
      c.resolve endpoint = .ok u ↔ Url.read c.base endpoint = .ok u := by
    intro c endpoint u
    unfold resolve
    cases Url.read c.base endpoint <;> simp [Except.mapError]
  cases base with
  | none => exact Or.inr ⟨_, rfl, rfl, hresolve _⟩
  | some raw =>
    cases hraw : Url.read none raw with
    | error e => exact Or.inl ⟨raw, e, rfl, hraw, by simp [ofCookie?, make?, hraw]⟩
    | ok b =>
      refine Or.inr ⟨⟨some b, cookie.bind Cookie.token?⟩, by simp [ofCookie?, make?, hraw], rfl, ?_⟩
      intro endpoint u
      simp [hresolve, LeadsTo, hraw]

/-- An error that says that nothing went out, or that no answer came. -/
def IsUnsent : TransportError → Prop
  | .invalidUrl _ _ | .request _ _ => True
  | .status _ _ | .decode _ => False

theorem askSet_eq_ok_iff : c.askSet endpoint asked = .ok r ↔
    ∃ u, c.resolve endpoint = .ok u ∧ IsClean (c.token.getD "") ∧ isSendable u = true ∧
      r = c.setRequest u asked := by
  unfold askSet
  cases hu : c.resolve endpoint with
  | error e => simp [bind, Except.bind]
  | ok u =>
    have hurl : (c.setRequest u asked).url = u := rfl
    simp [bind, Except.bind, build_eq_ok_iff, isWritable_setRequest, hurl]

/-- A client that makes no request says that none went out. -/
theorem isUnsent_of_askSet {e : TransportError} (h : c.askSet endpoint asked = .error e) :
    IsUnsent e := by
  have hresolve : ∀ e, c.resolve endpoint = .error e → IsUnsent e := by
    intro e he
    unfold resolve at he
    cases hread : Url.read c.base endpoint with
    | error f =>
      rw [hread] at he
      exact Except.error.inj he ▸ trivial
    | ok u => simp [hread, Except.mapError] at he
  unfold askSet at h
  cases hu : c.resolve endpoint with
  | error f =>
    rw [hu] at h
    exact Except.error.inj h ▸ hresolve f hu
  | ok u =>
    simp only [hu, bind, Except.bind, build] at h
    split at h
    · split at h
      · cases h
      · exact Except.error.inj h ▸ trivial
    · exact Except.error.inj h ▸ trivial

/-- What has to be so for a request to go out: the endpoint leads to a url that requests are sent to
and that reaches the server, and the token can stand in a header. -/
structure GoesOut (base token : Option String) (endpoint : String) (n : Network) (u : Url) :
    Prop where
  leads : LeadsTo base endpoint u
  clean : IsClean (token.getD "")
  sendable : isSendable u = true
  reaches : n.reaches u = true

/-- A client is made for every base that is a url. Over every network it then sends one request for
a change, which shows the token of its cookies and says what is asked for, or it sends nothing and
says so. It sends nothing when the token has a byte of control. -/
theorem set_state_sends (base cookie : Option String) (endpoint : String) (asked : SetRequest) :
    (∃ raw e, base = some raw ∧ Url.read none raw = .error e ∧
      ofCookie? base cookie = .error (.invalidUrl raw e.message)) ∨
    ∃ c, ofCookie? base cookie = .ok c ∧ ∀ n : Network,
      (∀ u, GoesOut base (cookie.bind Cookie.token?) endpoint n u →
        ∃ r, Asks u (cookie.bind Cookie.token?) asked r ∧
          (Line.setState ⟨c, n⟩ endpoint asked).1.network.seen = n.seen ++ [r]) ∧
      ((∀ u, ¬ GoesOut base (cookie.bind Cookie.token?) endpoint n u) →
        (Line.setState ⟨c, n⟩ endpoint asked).1.network = n ∧
          ∃ e, (Line.setState ⟨c, n⟩ endpoint asked).2.result = .error e ∧ IsUnsent e) ∧
      ∀ header token, cookie = some header → Cookie.token? header = some token →
        (∃ b ∈ bytes token.toList, IsControl b) →
          (Line.setState ⟨c, n⟩ endpoint asked).1.network = n := by
  rcases ofCookie?_cases base cookie with hbase | ⟨c, hc, htoken, hleads⟩
  · exact Or.inl hbase
  refine Or.inr ⟨c, hc, fun n => ?_⟩
  have hquiet : (∀ u, ¬ GoesOut base (cookie.bind Cookie.token?) endpoint n u) →
      (Line.setState ⟨c, n⟩ endpoint asked).1.network = n ∧
        ∃ e, (Line.setState ⟨c, n⟩ endpoint asked).2.result = .error e ∧ IsUnsent e := by
    intro hnone
    cases hask : c.askSet endpoint asked with
    | error e =>
      simp only [Line.setState, hask]
      exact ⟨trivial, e, rfl, isUnsent_of_askSet hask⟩
    | ok r =>
      obtain ⟨u, hu, hclean, hsendable, rfl⟩ := askSet_eq_ok_iff.mp hask
      have hunreached : ¬ n.reaches (c.setRequest u asked).url = true := fun hreaches =>
        hnone u ⟨(hleads endpoint u).mp hu, htoken ▸ hclean, hsendable, hreaches⟩
      simp only [Line.setState, hask, Network.send, if_neg hunreached]
      exact ⟨trivial, _, rfl, trivial⟩
  refine ⟨fun u hu => ?_, hquiet, ?_⟩
  · have hclean : IsClean (c.token.getD "") := htoken ▸ hu.clean
    have hask : c.askSet endpoint asked = .ok (c.setRequest u asked) :=
      askSet_eq_ok_iff.mpr ⟨u, (hleads endpoint u).mpr hu.leads, hclean, hu.sendable, rfl⟩
    have hreaches : n.reaches (c.setRequest u asked).url = true := hu.reaches
    refine ⟨c.setRequest u asked, htoken ▸ asks_setRequest hclean, ?_⟩
    simp only [Line.setState, hask, Network.send, if_pos hreaches]
  · rintro header token rfl hread ⟨b, hb, hcontrol⟩
    refine (hquiet fun u hu => ?_).1
    have hclean := hu.clean
    simp only [Option.bind_some, hread, Option.getD_some] at hclean
    exact hclean b hb hcontrol

/-- The url of a server. -/
def sampleBase : Url where
  scheme := "http"
  authority := some { host := "[::1]".toList }
  path := .names [[]]

/-- A network that the server is reached over. -/
def sampleNetwork : Network := ⟨some ("[::1]".toList, 80), [], []⟩

theorem read_sampleBase : Url.read none "http://[::1]/" = .ok sampleBase := by
  cbv

/-- A token beyond ASCII is shown as it is, and one with a line break within is shown nowhere. -/
theorem set_state_sends_coded :
    (∃ c u r, ofCookie? (some "http://[::1]/") (some "csrftoken=%C3%A4") = .ok c ∧
      Asks u (some "ä") ⟨.order, "pay"⟩ r ∧
        (Line.setState ⟨c, sampleNetwork⟩ "set" ⟨.order, "pay"⟩).1.network.seen = [r]) ∧
    ∃ c, ofCookie? (some "http://[::1]/") (some "csrftoken=a%0D%0AX: y") = .ok c ∧
      (Line.setState ⟨c, sampleNetwork⟩ "set" ⟨.order, "pay"⟩).1.network = sampleNetwork := by
  have hraw : ∀ raw e, some "http://[::1]/" = some raw → Url.read none raw ≠ .error e := by
    rintro raw e hraw
    cases hraw
    rw [read_sampleBase]
    nofun
  constructor
  · obtain ⟨raw, e, hsome, hread, -⟩ | ⟨c, hc, hsends⟩ :=
      set_state_sends (some "http://[::1]/") (some "csrftoken=%C3%A4") "set" ⟨.order, "pay"⟩
    · exact absurd hread (hraw raw e hsome)
    · have htoken : (some "csrftoken=%C3%A4").bind Cookie.token? = some "ä" := by decide
      obtain ⟨r, hr, hseen⟩ := (hsends sampleNetwork).1
        { sampleBase with path := .names ["set".toList] }
        ⟨⟨sampleBase, read_sampleBase, by cbv⟩, by decide, by decide, by decide⟩
      exact ⟨c, _, r, hc, htoken ▸ hr, hseen⟩
  · obtain ⟨raw, e, hsome, hread, -⟩ | ⟨c, hc, hsends⟩ :=
      set_state_sends (some "http://[::1]/") (some "csrftoken=a%0D%0AX: y") "set" ⟨.order, "pay"⟩
    · exact absurd hread (hraw raw e hsome)
    · have htoken : Cookie.token? "csrftoken=a%0D%0AX: y" = some "a\r\nX: y" := by decide
      exact ⟨c, hc, (hsends sampleNetwork).2.2 _ _ rfl htoken ⟨0x0D, by decide, by decide⟩⟩

end Client

end OrderDesk
