import Mathlib.Data.List.Induction
import OrderDesk.Proofs.Renewal

/-! Where the choices of a control come from. Of all that is done to a control only a derivation
writes its choices: it reads one graph at the state that the control is in, and leaves nothing of
what earlier graphs permitted. The row of operations on a control falls into those up to the last
derivation and those since. -/
namespace OrderDesk

variable {c c₀ : Control} {g g₀ : Graph} {t : Touch} {ts early late : List Touch}
  {state : String} {page : Nat} {x : Descriptor}

namespace Control

/-- A control after a row of operations. -/
def after (c : Control) (ts : List Touch) : Control := ts.foldl touch c

/-- The graph that an operation derives the choices of a control from, if it derives them. -/
def derivesFrom? (c : Control) : Touch → Option Graph
  | .populate g => if c.isBound then some g else none
  | .freshen g => if c.isBound && !c.loaded then some g else none
  | _ => none

@[simp] theorem after_nil (c : Control) : c.after [] = c := rfl

theorem after_cons (c : Control) (t : Touch) (ts : List Touch) :
    c.after (t :: ts) = (c.touch t).after ts := rfl

theorem after_append (c : Control) (ts us : List Touch) :
    c.after (ts ++ us) = (c.after ts).after us := by
  simp [after]

theorem after_concat (c : Control) (ts : List Touch) (t : Touch) :
    c.after (ts ++ [t]) = (c.after ts).touch t := by
  simp [after]

/-- An operation that derives the choices does nothing else. -/
theorem touch_of_derivesFrom? (h : c.derivesFrom? t = some g) : c.touch t = c.derive g := by
  cases t with
  | populate fetched | freshen fetched =>
    simp only [derivesFrom?, Option.ite_none_right_eq_some, Option.some.injEq] at h
    obtain ⟨hdue, rfl⟩ := h
    simp only [touch, hdue, if_true]
  | _ => cases h

/-- Any other operation leaves the choices, which are those of the present state unless it takes
over another one. -/
theorem touch_of_not_derivesFrom? (h : c.derivesFrom? t = none) :
    (c.touch t).choices = c.choices ∧ (c.touch t).hasActions = c.hasActions ∧
      (c.touch t).loaded = (c.loaded && t.state?.isNone) := by
  cases t with
  | populate | freshen =>
    simp only [derivesFrom?, ite_eq_right_iff, reduceCtorEq, imp_false] at h
    simp [touch, h, Touch.state?]
  | progress =>
    simp only [touch]
    split <;> simp [Touch.state?]
  | _ => simp [touch, Touch.state?]

@[simp] theorem after_setUrl (c : Control) (ts : List Touch) : (c.after ts).setUrl = c.setUrl := by
  induction ts generalizing c with
  | nil => rfl
  | cons t ts ih => rw [after_cons, ih, touch_setUrl]

@[simp] theorem after_seat (c : Control) (ts : List Touch) : (c.after ts).seat = c.seat := by
  induction ts generalizing c with
  | nil => rfl
  | cons t ts ih => rw [after_cons, ih, touch_seat]

/-- The choices of a control come from a graph in a state, and are those of its present state if
they count as such. -/
structure Shows (g : Graph) (state : String) (c : Control) : Prop where
  choices : c.choices = choicesFor (g.actionsFor c.seat.scope state)
  hasActions : c.hasActions = !(g.actionsFor c.seat.scope state).isEmpty
  current : c.loaded = true → c.state = state

theorem shows_derive (c : Control) (g : Graph) : (c.derive g).Shows g c.state where
  choices := rfl
  hasActions := rfl
  current := fun _ => rfl

/-- What is not a derivation leaves the choices of a control where they come from. -/
theorem Shows.touch (h : c.Shows g state) (ht : c.derivesFrom? t = none) :
    (c.touch t).Shows g state := by
  obtain ⟨hchoices, hactions, hloaded⟩ := touch_of_not_derivesFrom? ht
  refine ⟨by simpa [hchoices] using h.choices, by simpa [hactions] using h.hasActions, ?_⟩
  intro hnow
  obtain ⟨hbefore, hsame⟩ := Bool.and_eq_true_iff.mp (hloaded ▸ hnow)
  rw [state_touch, Option.isNone_iff_eq_none.mp hsame, Option.getD_none]
  exact h.current hbefore

/-- The choices of a control that was bound with a graph were last derived from a graph in the
last of some operations, or when it was bound if there are none of these, and not in any of those
that came later. -/
structure DerivedIn (c₀ : Control) (g₀ : Graph) (early late : List Touch) (g : Graph) : Prop where
  source : (early = [] ∧ g = g₀) ∨
    ∃ before t, early = before ++ [t] ∧ (c₀.after before).derivesFrom? t = some g
  last : ∀ before t rest, late = before ++ t :: rest →
    (c₀.after (early ++ before)).derivesFrom? t = none

/-- One operation more that comes later. -/
theorem derivedIn_concat : c₀.DerivedIn g₀ early (late ++ [t]) g ↔
    c₀.DerivedIn g₀ early late g ∧ (c₀.after (early ++ late)).derivesFrom? t = none := by
  constructor
  · intro h
    refine ⟨⟨h.source, fun before u rest hsplit => ?_⟩, h.last late t [] rfl⟩
    exact h.last before u (rest ++ [t]) (by rw [hsplit, List.append_assoc]; rfl)
  · rintro ⟨h, ht⟩
    refine ⟨h.source, fun before u rest hsplit => ?_⟩
    rcases List.eq_nil_or_concat rest with rfl | ⟨rest, v, rfl⟩
    · obtain ⟨rfl, hsame⟩ := List.append_inj' hsplit rfl
      obtain rfl : t = u := List.singleton_inj.mp hsame
      exact ht
    · have hcut : late ++ [t] = (before ++ u :: rest) ++ [v] := by simpa using hsplit
      exact h.last before u rest (List.append_inj' hcut rfl).1

/-- Any row of operations has a last derivation, if only when the control was bound. -/
theorem exists_derivedIn (c₀ : Control) (g₀ : Graph) (ts : List Touch) :
    ∃ early late g, ts = early ++ late ∧ c₀.DerivedIn g₀ early late g := by
  -- From the end of the row: a derivation leaves nothing that came later, and else one comes later.
  induction ts using List.reverseRecOn with
  | nil => exact ⟨[], [], g₀, rfl, Or.inl ⟨rfl, rfl⟩, by simp⟩
  | append_singleton ts t ih =>
    cases ht : (c₀.after ts).derivesFrom? t with
    | some g =>
      exact ⟨ts ++ [t], [], g, (List.append_nil _).symm, Or.inr ⟨ts, t, rfl, ht⟩, by simp⟩
    | none =>
      obtain ⟨early, late, g, rfl, h⟩ := ih
      exact ⟨early, late ++ [t], g, by rw [List.append_assoc], derivedIn_concat.mpr ⟨h, ht⟩⟩

/-- The choices of a control come from the last derivation, and count as those of the present state
until another state is taken over. -/
theorem DerivedIn.shows (h : c₀.DerivedIn g₀ early late g) (h₀ : c₀.Shows g₀ c₀.state)
    (hloaded : c₀.loaded = true) :
    (c₀.after (early ++ late)).Shows g (c₀.after early).state ∧
      ((c₀.after (early ++ late)).loaded = true ↔ ∀ t ∈ late, t.state? = none) := by
  induction late using List.reverseRecOn with
  | nil =>
    rw [List.append_nil]
    rcases h.source with ⟨rfl, rfl⟩ | ⟨before, t, rfl, ht⟩
    · exact ⟨h₀, by simpa using hloaded⟩
    · rw [after_concat, touch_of_derivesFrom? ht]
      exact ⟨shows_derive _ g, by simp [derive]⟩
  | append_singleton late t ih =>
    obtain ⟨hbefore, ht⟩ := derivedIn_concat.mp h
    obtain ⟨hs, hl⟩ := ih hbefore
    rw [← List.append_assoc, after_concat]
    refine ⟨hs.touch ht, ?_⟩
    rw [(touch_of_not_derivesFrom? ht).2.2, Bool.and_eq_true, hl]
    simp [or_imp, forall_and]

/-- A control with an endpoint is bound as if its choices had just been derived. -/
theorem shows_bind (g : Graph) (page : Nat) (hx : x.setUrl.isSome = true) :
    (bind g page x).Shows g (bind g page x).state ∧ (bind g page x).loaded = true := by
  obtain ⟨order, scope, state, _ | url⟩ := x
  · cases hx
  · exact ⟨⟨rfl, rfl, fun _ => rfl⟩, rfl⟩

/-- A control without an endpoint has no choices, whatever is done to it. -/
theorem choices_after_of_not_isBound (hb : c.isBound = false) (hc : c.choices = [])
    (ts : List Touch) : (c.after ts).choices = [] := by
  induction ts generalizing c with
  | nil => exact hc
  | cons t ts ih =>
    have hnone : c.derivesFrom? t = none := by cases t <;> simp [derivesFrom?, hb]
    refine ih (c := c.touch t) ?_ ?_
    · rw [isBound, touch_setUrl]
      exact hb
    · rw [(touch_of_not_derivesFrom? hnone).1, hc]

/-- Whatever is done to a control with an endpoint, its list is the entry for no choice, or the
entry that asks for one and then at least one action with its label. The actions are those that one
graph permits, in its order, in the state that the control had at the last derivation. They count as
those of the present state as long as no state was taken over since, and then that state is the
present one. The control can be used when it is not busy and there are such actions. A control
without an endpoint has an empty list and can never be used. -/
theorem view_derived (g₀ : Graph) (page : Nat) (x : Descriptor) (ts : List Touch) :
    (∀ url, x.setUrl = some url → ∃ early late g actions, ts = early ++ late ∧
      (bind g₀ page x).DerivedIn g₀ early late g ∧
      g.actionsFor x.scope ((bind g₀ page x).after early).state = actions ∧
      ((actions = [] ∧
          ((bind g₀ page x).after ts).view.choices = [⟨"", Feedback.noOptions⟩]) ∨
        (actions ≠ [] ∧ ((bind g₀ page x).after ts).view.choices =
          ⟨"", Feedback.chooseState⟩ :: actions.map fun a => ⟨a, labelOf a⟩)) ∧
      (((bind g₀ page x).after ts).loaded = true ↔ ∀ t ∈ late, t.state? = none) ∧
      (((bind g₀ page x).after ts).loaded = true →
        ((bind g₀ page x).after ts).view.state = ((bind g₀ page x).after early).state) ∧
      (((bind g₀ page x).after ts).view.selectable = true ↔
        ((bind g₀ page x).after ts).view.busy = false ∧ actions ≠ [])) ∧
    (x.setUrl = none → ((bind g₀ page x).after ts).view.choices = [] ∧
      ((bind g₀ page x).after ts).view.selectable = false) := by
  have hbound : ((bind g₀ page x).after ts).isBound = x.setUrl.isSome := by
    rw [isBound, after_setUrl, bind_setUrl]
  constructor
  · intro url hurl
    have hsome : x.setUrl.isSome = true := by rw [hurl, Option.isSome_some]
    obtain ⟨hshows, hloaded⟩ := shows_bind g₀ page hsome
    obtain ⟨early, late, g, rfl, hderived⟩ := exists_derivedIn (bind g₀ page x) g₀ ts
    obtain ⟨hs, hl⟩ := hderived.shows hshows hloaded
    have hscope : ((bind g₀ page x).after (early ++ late)).seat.scope = x.scope := by
      rw [after_seat, bind_seat]
    refine ⟨early, late, g, _, rfl, hderived, rfl, ?_, hl, hs.current, ?_⟩
    · have hchoices := hs.choices
      rw [hscope] at hchoices
      simp only [view, hchoices]
      exact choicesFor_cases _
    · have hactions := hs.hasActions
      rw [hscope] at hactions
      simp [view, hbound, hsome, hactions, and_comm]
  · intro hurl
    have hnone : (bind g₀ page x).isBound = false := by rw [isBound, bind_setUrl, hurl]; rfl
    have hempty : (bind g₀ page x).choices = [] := by simp [bind, isBound, hurl]
    refine ⟨choices_after_of_not_isBound hnone hempty ts, ?_⟩
    simp [view, hbound, hurl]

/-- A row of operations in which one state and graph follow another. -/
def sampleTouches : List Touch :=
  [.populate (Graph.empty.withActions .order "open" ["cancel"]), .adopt "paid",
    .freshen (Graph.empty.withActions .order "paid" ["refund", "ship"]), .claim, .adopt "open"]

/-- Of that row the list comes from the second graph in the second state, and nothing of the first
is left. -/
theorem view_derived_again :
    ((bind Graph.empty 0 ⟨⟨"10001"⟩, .order, "open", some "/set-order"⟩).after
      sampleTouches).view.choices =
        [⟨"", "Status wählen…"⟩, ⟨"refund", labelOf "refund"⟩, ⟨"ship", labelOf "ship"⟩] ∧
    ∃ early late g, sampleTouches = early ++ late ∧
      (bind Graph.empty 0 ⟨⟨"10001"⟩, .order, "open", some "/set-order"⟩).DerivedIn
        Graph.empty early late g := by
  obtain ⟨early, late, g, -, hrow, hderived, -⟩ :=
    (view_derived Graph.empty 0 ⟨⟨"10001"⟩, .order, "open", some "/set-order"⟩
      sampleTouches).1 "/set-order" rfl
  exact ⟨by rfl, early, late, g, hrow, hderived⟩

end Control
end OrderDesk
