import Mathlib.Data.List.Forall2
import OrderDesk.Console
import OrderDesk.Proofs.Reading

/-! What is printed of controls. In lines, a control has a head with its state, a line for each
action on offer, and a line for its feedback; as a document, it is an object with the actions among
its members. Either way an action stands there if and only if it is on offer. -/
namespace OrderDesk.Console
open Json

variable {width : Nat} {t column column' out out' : String} {v : View} {vs : List View}
  {cs : List Choice} {actions : List String} {f : Option Feedback}

/-- What is told of a control: the actions that it offers in its state, and its feedback. -/
structure Offer where
  order : OrderId
  scope : Scope
  state : String
  actions : List String
  feedback : Option Feedback
  deriving DecidableEq, Repr

variable {offers : List Offer}

/-- What a view offers. -/
def offerOf (v : View) : Offer := ⟨v.order, v.scope, v.state, v.actions, v.feedback⟩

/-- A text in a column: blanks follow it up to the width of the column. -/
def InColumn (width : Nat) (t column : String) : Prop :=
  ∃ n, column = t ++ String.ofList (List.replicate n ' ') ∧ column.length = max width t.length

/-- The lines of actions: each stands in a line of its own, in a column before its label. -/
inductive PrintsActions : List String → String → Prop where
  | nil : PrintsActions [] ""
  | cons {action column rest : String} {actions : List String} :
      InColumn 18 action column → PrintsActions actions rest →
        PrintsActions (action :: actions)
          ("    - " ++ column ++ " " ++ labelOf action ++ "\n" ++ rest)

/-- The line of a feedback, with a sign of its kind. -/
inductive PrintsFeedback : Option Feedback → String → Prop where
  | none : PrintsFeedback none ""
  | info (t : String) : PrintsFeedback (some ⟨t, .info⟩) ("    i " ++ t ++ "\n")
  | success (t : String) : PrintsFeedback (some ⟨t, .success⟩) ("    + " ++ t ++ "\n")
  | error (t : String) : PrintsFeedback (some ⟨t, .error⟩) ("    ! " ++ t ++ "\n")

/-- The lines of controls, one control after the other. -/
inductive PrintsLines : List Offer → String → Prop where
  | nil : PrintsLines [] ""
  | cons {o : Offer} {offers : List Offer} {column actions feedback rest : String} :
      InColumn 8 o.scope.name column → PrintsActions o.actions actions →
      PrintsFeedback o.feedback feedback → PrintsLines offers rest →
        PrintsLines (o :: offers) ("[" ++ o.order.text ++ "] " ++ column ++ " " ++
          labelOf o.state ++ " (" ++ o.state ++ ")\n" ++ actions ++ feedback ++ rest)

/-- An object that tells of a control. It has each of its members once. -/
structure Describes (n : Node) (o : Offer) : Prop where
  members : ∃ ms, n.members? = some ms ∧ (ms.map (·.1)).Nodup ∧
    ("order_id", .string (some o.order.text)) ∈ ms ∧
    ("scope", .string (some o.scope.name)) ∈ ms ∧
    ("state", .string (some o.state)) ∈ ms ∧
    ("label", .string (some (labelOf o.state))) ∈ ms ∧
    ("actions", .array (o.actions.map fun a => .string (some a))) ∈ ms ∧
    ("feedback", o.feedback.elim .null fun f => .string (some f.text)) ∈ ms

/-- What is printed of controls, in lines or as a document. -/
inductive Prints : Bool → List Offer → String → Prop where
  | lines {offers : List Offer} {out : String} : PrintsLines offers out → Prints false offers out
  | document {offers : List Offer} {out : String} {nodes : List Node} :
      ofText? out = some (.array nodes) → List.Forall₂ Describes nodes offers →
        Prints true offers out

/-! ### Lines -/

theorem inColumn_padded (width : Nat) (t : String) : InColumn width t (padded width t) := by
  refine ⟨width - t.length, ?_, ?_⟩
  · rw [padded, String.ofList_append, String.ofList_toList]
  · rw [padded, String.length_ofList, List.length_append, List.length_replicate,
      String.length_toList]
    omega

theorem InColumn.unique (h : InColumn width t column) (h' : InColumn width t column') :
    column = column' := by
  obtain ⟨n, rfl, hn⟩ := h
  obtain ⟨m, rfl, hm⟩ := h'
  simp only [String.length_append, String.length_ofList, List.length_replicate] at hn hm
  obtain rfl : n = m := by omega
  rfl

theorem PrintsActions.unique (h : PrintsActions actions out) (h' : PrintsActions actions out') :
    out = out' := by
  induction h generalizing out' with
  | nil =>
    cases h'
    rfl
  | cons hcolumn _ ih =>
    cases h' with
    | cons hcolumn' hrest' => rw [hcolumn.unique hcolumn', ih hrest']

theorem PrintsFeedback.unique (h : PrintsFeedback f out) (h' : PrintsFeedback f out') :
    out = out' := by
  cases h <;> cases h' <;> rfl

/-- The lines of controls say nothing but what they tell of them. -/
theorem PrintsLines.unique (h : PrintsLines offers out) (h' : PrintsLines offers out') :
    out = out' := by
  induction h generalizing out' with
  | nil =>
    cases h'
    rfl
  | cons hcolumn hactions hfeedback _ ih =>
    cases h' with
    | cons hcolumn' hactions' hfeedback' hrest' =>
      rw [hcolumn.unique hcolumn', hactions.unique hactions', hfeedback.unique hfeedback',
        ih hrest']

/-- A view is labelled when its state has its usual name, and so have its actions. -/
structure IsLabelled (v : View) : Prop where
  state : v.label = labelOf v.state
  actions : ∀ c ∈ v.choices, c.action ≠ "" → c.label = labelOf c.action

/-- A text of lines, of which each has an end. -/
def joined (lines : List String) : String := String.join (lines.map line)

theorem joined_nil : joined [] = "" := rfl

theorem joined_cons (t : String) (ts : List String) :
    joined (t :: ts) = t ++ "\n" ++ joined ts := by
  simp [joined, line]

theorem joined_append (ts us : List String) : joined (ts ++ us) = joined ts ++ joined us := by
  simp [joined]

/-- Of the choices those with an action have a line. -/
theorem printsActions_choices (h : ∀ c ∈ cs, c.action ≠ "" → c.label = labelOf c.action) :
    PrintsActions ((cs.map (·.action)).filter fun a => !a.isEmpty)
      (joined ((cs.filter fun c => !c.action.isEmpty).map fun c =>
        "    - " ++ padded 18 c.action ++ " " ++ c.label)) := by
  induction cs with
  | nil => exact .nil
  | cons c cs ih =>
    have hrest := ih fun c' hc' => h c' (List.mem_cons_of_mem c hc')
    by_cases hc : c.action = ""
    · simpa [hc] using hrest
    · have hline := PrintsActions.cons (inColumn_padded 18 c.action) hrest
      rw [← h c List.mem_cons_self hc] at hline
      simpa [hc, joined_cons] using hline

theorem printsFeedback (f : Option Feedback) :
    PrintsFeedback f (joined (f.toList.map fun f => "    " ++ marker f.kind ++ " " ++ f.text)) := by
  match f with
  | none => exact .none
  | some ⟨t, .info⟩ => simpa [joined_cons, joined_nil, marker] using PrintsFeedback.info t
  | some ⟨t, .success⟩ => simpa [joined_cons, joined_nil, marker] using PrintsFeedback.success t
  | some ⟨t, .error⟩ => simpa [joined_cons, joined_nil, marker] using PrintsFeedback.error t

theorem printsLines_views (h : ∀ v ∈ vs, IsLabelled v) :
    PrintsLines (vs.map offerOf) (joined (vs.flatMap viewLines)) := by
  induction vs with
  | nil => exact .nil
  | cons v vs ih =>
    have hv := h v List.mem_cons_self
    have hrest := ih fun v' hv' => h v' (List.mem_cons_of_mem v hv')
    have hlines := PrintsLines.cons (o := offerOf v) (inColumn_padded 8 v.scope.name)
      (printsActions_choices hv.actions) (printsFeedback v.feedback) hrest
    rw [offerOf, ← hv.state] at hlines
    rw [List.map_cons, List.flatMap_cons, joined_append, viewLines, joined_cons, joined_append]
    simpa [offerOf, String.append_assoc] using hlines

/-! ### Documents -/

theorem toNode_texts (ts : List String) :
    (Value.texts ts).toNode = .array (ts.map fun t => .string (some t)) := by
  rw [Value.texts, Value.toNode, Value.toNodes_eq, List.map_map]
  rfl

theorem toNode_ofText? (t : Option String) :
    (Value.ofText? t).toNode = t.elim .null fun t => .string (some t) := by
  cases t <;> rfl

theorem describes_viewValue (h : IsLabelled v) : Describes (viewValue v).toNode (offerOf v) := by
  refine ⟨_, Value.members?_record _, ?_, ?_⟩
  · rw [List.map_map]
    change ["actions", "feedback", "label", "order_id", "scope", "selectable", "state"].Nodup
    decide
  · simp only [List.map_cons, List.map_nil, toNode_texts, toNode_ofText?, Value.toNode]
    cases hf : v.feedback <;> simp [offerOf, hf, h.state]

/-- What is printed of views tells what they offer, and nothing else that is on offer. -/
theorem prints_viewsText (json : Bool) (h : ∀ v ∈ vs, IsLabelled v) :
    Prints json (vs.map offerOf) (viewsText json vs) := by
  cases json with
  | false => exact .lines (printsLines_views h)
  | true =>
    have hread : ofText? (viewsText true vs) =
        some (.array (vs.map fun v => (viewValue v).toNode)) := by
      rw [viewsText, if_pos rfl, line, ofText?_laidOut, Value.toNode, Value.toNodes_eq,
        List.map_map]
      rfl
    refine .document hread ?_
    rw [List.forall₂_map_left_iff, List.forall₂_map_right_iff, List.forall₂_same]
    exact fun v hv => describes_viewValue (h v hv)

end OrderDesk.Console
