import OrderDesk.Proofs.Adoption
import OrderDesk.Proofs.Calls

/-! What a page is bound with. Of the descriptors with one order and scope the first alone gives a
control, so that an order and a scope name one control of a page at most, and whatever happens
later, other pages that are bound included, the page keeps these controls. -/
namespace OrderDesk

variable {d e : Desk} {s u : Session} {ds : List Descriptor} {x y : Descriptor}
  {taken : List (OrderId × Scope)} {order : OrderId} {scope : Scope} {page : Nat}

/-- Whether none of the same order and scope stands before a place in a list of descriptors. -/
def isFirst (ds : List Descriptor) (p : Descriptor × Nat) : Bool :=
  (ds.take p.2).all fun y => (y.order, y.scope) != (p.1.order, p.1.scope)

/-- The descriptors of a list that are the first of their order and scope. -/
def firsts (ds : List Descriptor) : List Descriptor :=
  (ds.zipIdx.filter (isFirst ds)).map (·.1)

namespace Desk

/-- What is taken already is passed over like what stands before in the list. -/
theorem firstOfEach_eq (taken : List (OrderId × Scope)) (ds : List Descriptor) :
    firstOfEach taken ds = (ds.zipIdx.filter fun p =>
      (p.1.order, p.1.scope) ∉ taken && isFirst ds p).map (·.1) := by
  induction ds generalizing taken with
  | nil => rfl
  | cons x ds ih =>
    -- Behind the head each place is one further on, and the head stands before it.
    have hrest : ∀ p : Descriptor × Nat, isFirst (x :: ds) (Prod.map id (· + 1) p) =
        ((x.order, x.scope) != (p.1.order, p.1.scope) && isFirst ds p) := fun p => rfl
    have hhead : isFirst (x :: ds) (x, 0) = true := rfl
    rw [List.zipIdx_cons', List.filter_cons, List.filter_map, firstOfEach]
    simp only [hhead, Bool.and_true, decide_eq_true_eq]
    by_cases hx : (x.order, x.scope) ∈ taken
    · simp only [hx, not_true_eq_false, if_true, if_false, List.map_map, ih]
      refine congrArg (List.map Prod.fst) (List.filter_congr fun p _ => ?_)
      simp only [Function.comp_apply, hrest, Prod.map_fst, id_eq]
      by_cases hp : (x.order, x.scope) = (p.1.order, p.1.scope)
      · simp [← hp, hx]
      · rw [bne_iff_ne.mpr hp, Bool.true_and]
    · simp only [hx, not_false_eq_true, if_true, if_false, List.map_map, List.map_cons, ih]
      refine congrArg (x :: ·) (congrArg (List.map Prod.fst) (List.filter_congr fun p _ => ?_))
      simp only [Function.comp_apply, hrest, Prod.map_fst, id_eq, List.mem_cons, not_or]
      by_cases hp : (x.order, x.scope) = (p.1.order, p.1.scope)
      · simp [← hp]
      · simp [bne_iff_ne.mpr hp, Ne.symm hp]

/-- For each descriptor that is not taken there is the first one of its order and scope. -/
theorem exists_mem_firstOfEach (h : x ∈ ds) (hx : (x.order, x.scope) ∉ taken) :
    ∃ y ∈ firstOfEach taken ds, (y.order, y.scope) = (x.order, x.scope) := by
  induction ds generalizing taken with
  | nil => cases h
  | cons z ds ih =>
    rw [firstOfEach]
    split
    · next hz =>
      rcases List.mem_cons.mp h with rfl | h
      · exact absurd hz hx
      · exact ih h hx
    · by_cases hzx : (z.order, z.scope) = (x.order, x.scope)
      · exact ⟨z, List.mem_cons_self, hzx⟩
      · have hne : x ≠ z := fun he => hzx (he ▸ rfl)
        have hfree : (x.order, x.scope) ∉ (z.order, z.scope) :: taken := by
          rw [List.mem_cons, not_or]
          exact ⟨Ne.symm hzx, hx⟩
        obtain ⟨y, hy, hpair⟩ := ih ((List.mem_cons.mp h).resolve_left hne) hfree
        exact ⟨y, List.mem_cons_of_mem z hy, hpair⟩

theorem firstOfEach_nil (ds : List Descriptor) : firstOfEach [] ds = firsts ds := by
  rw [firstOfEach_eq, firsts]
  simp

end Desk

theorem mem_of_mem_firsts (h : x ∈ firsts ds) : x ∈ ds := by
  obtain ⟨p, hp, rfl⟩ := List.mem_map.mp h
  exact List.fst_mem_of_mem_zipIdx (List.mem_of_mem_filter hp)

theorem exists_mem_firsts_iff : (∃ x ∈ firsts ds, (x.order, x.scope) = (order, scope)) ↔
    ∃ x ∈ ds, (x.order, x.scope) = (order, scope) := by
  constructor
  · rintro ⟨x, hx, hpair⟩
    exact ⟨x, mem_of_mem_firsts hx, hpair⟩
  · rintro ⟨x, hx, hpair⟩
    obtain ⟨y, hy, hyx⟩ :=
      Desk.exists_mem_firstOfEach hx (List.not_mem_nil (a := (x.order, x.scope)))
    exact ⟨y, Desk.firstOfEach_nil ds ▸ hy, hyx.trans hpair⟩

/-- The seat of a descriptor on a page. -/
def Descriptor.seatOn (x : Descriptor) (page : Nat) : Seat := ⟨page, x.order, x.scope⟩

namespace Desk

/-- The seats of a page, each with the endpoint of its control. -/
def boundOn (d : Desk) (page : Nat) : List (Seat × Option String) :=
  (d.controlsOn page).map fun c => (c.seat, c.setUrl)

theorem boundOn_eq (d : Desk) (page : Nat) : d.boundOn page =
    (d.controls.map fun c => (c.seat, c.setUrl)).filter (·.1.page == page) := by
  rw [boundOn, controlsOn, List.filter_map]
  rfl

theorem Touched.boundOn_eq (h : d.Touched e) (page : Nat) : e.boundOn page = d.boundOn page := by
  rw [Desk.boundOn_eq, Desk.boundOn_eq, h.map_controls_eq fun c t => by simp]

theorem controlsOn_bindPage (d : Desk) (ds : List Descriptor) (page : Nat) :
    (d.bindPage ds).controlsOn page = d.controlsOn page ++
      if page = d.pages then (firsts ds).map (Control.bind d.store.graph d.pages) else [] := by
  rw [controlsOn, bindPage, List.filter_append, controlsOn, firstOfEach_nil]
  congr 1
  split
  · next h => exact List.filter_eq_self.mpr (by simp [h])
  · next h => exact List.filter_eq_nil_iff.mpr (by simp [Ne.symm h])

/-- Each control has a seat of its own, on one of the pages that were bound. -/
structure Seated (d : Desk) : Prop where
  nodup : d.seats.Nodup
  lt_pages : ∀ seat ∈ d.seats, seat.page < d.pages

theorem Seated.congr (h : d.Seated) (hseats : e.seats = d.seats) (hpages : e.pages = d.pages) :
    e.Seated :=
  ⟨hseats ▸ h.nodup, hseats ▸ hpages ▸ h.lt_pages⟩

theorem Seated.bindPage (h : d.Seated) (ds : List Descriptor) : (d.bindPage ds).Seated := by
  have hnew : ∀ seat ∈ (firstOfEach [] ds).map (·.seatOn d.pages), seat.page = d.pages := by
    intro seat hseat
    obtain ⟨x, -, rfl⟩ := List.mem_map.mp hseat
    rfl
  have hseats : (d.bindPage ds).seats = d.seats ++ (firstOfEach [] ds).map (·.seatOn d.pages) :=
    seats_bindPage d ds
  constructor
  · rw [hseats, List.nodup_append]
    refine ⟨h.nodup, firstOfEach_seats_nodup ds d.pages, ?_⟩
    rintro seat hseat _ hother rfl
    exact absurd (h.lt_pages seat hseat) (by simp [hnew seat hother])
  · intro seat hseat
    change seat.page < d.pages + 1
    rw [hseats] at hseat
    rcases List.mem_append.mp hseat with hseat | hseat
    · exact Nat.lt_succ_of_lt (h.lt_pages seat hseat)
    · exact hnew seat hseat ▸ Nat.lt_succ_self _

theorem Seated.controlsOn_pages (h : d.Seated) : d.controlsOn d.pages = [] :=
  List.filter_eq_nil_iff.mpr fun c hc => by
    simpa using Nat.ne_of_lt (h.lt_pages c.seat (List.mem_map_of_mem hc))

/-- A control is found in its seat. -/
theorem Seated.control?_eq (h : d.Seated) {c : Control} (hc : c ∈ d.controlsOn page) :
    d.control? c.seat = some c :=
  control?_of_mem h.nodup (List.mem_of_mem_filter hc)

/-- What a page that is bound with a list of descriptors answers when it is asked for a control. The
control is that of the first descriptor of the order and scope, and there is none only if there is
no such descriptor. -/
structure Answers (d : Desk) (page : Nat) (ds : List Descriptor) : Prop where
  seat : ∀ order scope seat, d.seat? page order scope = some seat ↔
    seat = ⟨page, order, scope⟩ ∧ ∃ x ∈ ds, (x.order, x.scope) = (order, scope)
  noSeat : ∀ order scope, d.seat? page order scope = none ↔
    ∀ x ∈ ds, (x.order, x.scope) ≠ (order, scope)
  selection : ∀ order scope action wish, Wish.selectOn? d page order scope action = some wish ↔
    wish = .select ⟨page, order, scope⟩ action ∧ ∃ x ∈ ds, (x.order, x.scope) = (order, scope)
  noSelection : ∀ order scope action, Wish.selectOn? d page order scope action = none ↔
    ∀ x ∈ ds, (x.order, x.scope) ≠ (order, scope)
  control : ∀ x ∈ firsts ds, ∃ c, d.control? (x.seatOn page) = some c ∧ c.setUrl = x.setUrl
  siblings : ∀ order, d.siblings page order =
    ((firsts ds).filter (·.order = order)).map (·.seatOn page)
  scopes : ∀ order, ((d.siblings page order).map (·.scope)).Nodup

theorem seatsOn_eq_boundOn (d : Desk) (page : Nat) :
    d.seatsOn page = (d.boundOn page).map (·.1) := by
  rw [boundOn, List.map_map]
  rfl

theorem seat?_eq_some_iff (hseats : d.seatsOn page = (firsts ds).map (·.seatOn page))
    {seat : Seat} : d.seat? page order scope = some seat ↔
      seat = ⟨page, order, scope⟩ ∧ ∃ x ∈ ds, (x.order, x.scope) = (order, scope) := by
  have hpage : ∀ other ∈ d.seatsOn page, other.page = page := by
    intro other hother
    obtain ⟨x, -, rfl⟩ := List.mem_map.mp (hseats ▸ hother)
    rfl
  rw [← exists_mem_firsts_iff, seat?]
  constructor
  · intro h
    obtain ⟨x, hx, rfl⟩ := List.mem_map.mp (hseats ▸ List.mem_of_find?_eq_some h)
    obtain ⟨rfl, rfl⟩ : x.order = order ∧ x.scope = scope := by
      simpa [Descriptor.seatOn] using List.find?_some h
    exact ⟨rfl, x, hx, rfl⟩
  · rintro ⟨rfl, x, hx, hpair⟩
    obtain ⟨rfl, rfl⟩ := Prod.mk.inj hpair
    have hmem : x.seatOn page ∈ d.seatsOn page := hseats ▸ List.mem_map_of_mem hx
    exact find?_seat hpage hmem

theorem seat?_eq_none_iff (hseats : d.seatsOn page = (firsts ds).map (·.seatOn page)) :
    d.seat? page order scope = none ↔ ∀ x ∈ ds, (x.order, x.scope) ≠ (order, scope) := by
  rw [Option.eq_none_iff_forall_ne_some]
  constructor
  · intro h x hx hpair
    exact h _ ((seat?_eq_some_iff hseats).mpr ⟨rfl, x, hx, hpair⟩)
  · intro h seat hseat
    obtain ⟨-, x, hx, hpair⟩ := (seat?_eq_some_iff hseats).mp hseat
    exact h x hx hpair

/-- Among the controls of a page, an order and a scope name one. -/
theorem Seated.pairs_nodup (h : d.Seated) (page : Nat) :
    ((d.seatsOn page).map fun s => (s.order, s.scope)).Nodup := by
  rw [seatsOn_eq]
  refine (h.nodup.filter _).map_on fun a ha b hb hpair => ?_
  have hpages : a.page = page ∧ b.page = page :=
    ⟨by simpa using List.of_mem_filter ha, by simpa using List.of_mem_filter hb⟩
  cases a
  cases b
  simp_all

/-- Among the controls of one order, a scope names one. -/
theorem Seated.scopes_nodup (h : d.Seated) (page : Nat) (order : OrderId) :
    ((d.siblings page order).map (·.scope)).Nodup := by
  have hpairs : (d.siblings page order).map (fun s => (s.order, s.scope)) =
      ((d.siblings page order).map (·.scope)).map (order, ·) := by
    rw [List.map_map]
    refine List.map_congr_left fun s hs => ?_
    rw [show s.order = order by simpa using List.of_mem_filter hs]
    rfl
  have hsub : ((d.siblings page order).map fun s => (s.order, s.scope)).Nodup :=
    (List.filter_sublist.map _).nodup (h.pairs_nodup page)
  rw [hpairs] at hsub
  exact hsub.of_map

theorem Seated.answers (h : d.Seated)
    (hbound : d.boundOn page = (firsts ds).map fun x => (x.seatOn page, x.setUrl)) :
    d.Answers page ds := by
  have hseats : d.seatsOn page = (firsts ds).map (·.seatOn page) := by
    rw [seatsOn_eq_boundOn, hbound, List.map_map]
    rfl
  constructor
  case seat => exact fun order scope seat => seat?_eq_some_iff hseats
  case noSeat => exact fun order scope => seat?_eq_none_iff hseats
  case selection =>
    intro order scope action wish
    rw [Wish.selectOn?, Option.map_eq_some_iff]
    constructor
    · rintro ⟨seat, hseat, rfl⟩
      obtain ⟨rfl, hx⟩ := (seat?_eq_some_iff hseats).mp hseat
      exact ⟨rfl, hx⟩
    · rintro ⟨rfl, hx⟩
      exact ⟨_, (seat?_eq_some_iff hseats).mpr ⟨rfl, hx⟩, rfl⟩
  case noSelection =>
    intro order scope action
    rw [Wish.selectOn?, Option.map_eq_none_iff]
    exact seat?_eq_none_iff hseats
  case control =>
    intro x hx
    have hmem : (x.seatOn page, x.setUrl) ∈ d.boundOn page := hbound ▸ List.mem_map_of_mem hx
    obtain ⟨c, hc, hfields⟩ := List.mem_map.mp hmem
    obtain ⟨hseat, hurl⟩ := Prod.mk.inj hfields
    exact ⟨c, hseat ▸ h.control?_eq hc, hurl⟩
  case siblings =>
    intro order
    rw [siblings, hseats, List.filter_map]
    rfl
  case scopes => exact h.scopes_nodup page

end Desk

namespace Session

/-- A session after a new page was bound at its desk. -/
def bindPage (s : Session) (ds : List Descriptor) : Session :=
  { s with desk := s.desk.bindPage ds }

/-- What may become of a session: anything happens in it, and new pages are bound. -/
inductive Becomes (s : Session) : Session → Prop where
  | same : Becomes s s
  | apply {u : Session} (e : Event) : Becomes s u → Becomes s (u.apply e)
  | bind {u : Session} (ds : List Descriptor) : Becomes s u → Becomes s (u.bindPage ds)

theorem Becomes.seated (h : s.Becomes u) (hs : s.desk.Seated) : u.desk.Seated := by
  induction h with
  | same => exact hs
  | @apply u e _ ih =>
    have hasked := u.apply_asked e
    exact ih.congr hasked.touched.seats_eq hasked.pages
  | bind ds _ ih => exact ih.bindPage ds

/-- A page that was bound keeps its controls with their endpoints. -/
theorem Becomes.boundOn_eq (h : s.Becomes u) (hpage : page < s.desk.pages) :
    page < u.desk.pages ∧ u.desk.boundOn page = s.desk.boundOn page := by
  induction h with
  | same => exact ⟨hpage, rfl⟩
  | @apply u e _ ih =>
    have hasked := u.apply_asked e
    exact ⟨hasked.pages ▸ ih.1, (hasked.touched.boundOn_eq page).trans ih.2⟩
  | @bind u ds _ ih =>
    refine ⟨Nat.lt_succ_of_lt ih.1, ?_⟩
    rw [← ih.2, Desk.boundOn, bindPage, Desk.controlsOn_bindPage, if_neg (Nat.ne_of_lt ih.1),
      List.append_nil]
    rfl

theorem seated_empty (store : Store) (schedule : Schedule) :
    (Desk.mk store schedule [] [] [] 0 0).Seated :=
  ⟨List.nodup_nil, fun _ h => absurd h List.not_mem_nil⟩

/-- A page is bound with one control for each order and scope that the list describes, in the order
of the list, with the state and the endpoint of the first of its descriptors. Whatever becomes of
the session, the page keeps these controls and no two of them have one order and scope. A control
is found there by its order and scope just if there was such a descriptor, and those of an order
are told in the order of the list, one for each scope at most. -/
theorem first_of_each_bound {store : Store} {schedule : Schedule} (ds : List Descriptor)
    (hs : Becomes { desk := { store, schedule } } s) (hu : (s.bindPage ds).Becomes u) :
    ((s.bindPage ds).desk.controlsOn s.desk.pages).map (fun c => (c.seat, c.state, c.setUrl)) =
      (firsts ds).map (fun x => (x.seatOn s.desk.pages, x.state, x.setUrl)) ∧
    u.desk.boundOn s.desk.pages = (firsts ds).map (fun x => (x.seatOn s.desk.pages, x.setUrl)) ∧
    ((u.desk.controlsOn s.desk.pages).map fun c => (c.seat.order, c.seat.scope)).Nodup ∧
    u.desk.Answers s.desk.pages ds := by
  have hseated : s.desk.Seated := hs.seated (seated_empty store schedule)
  have hcontrols : (s.bindPage ds).desk.controlsOn s.desk.pages =
      (firsts ds).map (Control.bind s.desk.store.graph s.desk.pages) := by
    rw [bindPage, Desk.controlsOn_bindPage, hseated.controlsOn_pages, if_pos rfl, List.nil_append]
  have hbound : u.desk.boundOn s.desk.pages =
      (firsts ds).map fun x => (x.seatOn s.desk.pages, x.setUrl) := by
    rw [(hu.boundOn_eq (Nat.lt_succ_self _)).2, Desk.boundOn, hcontrols, List.map_map]
    exact List.map_congr_left fun x _ => by simp [Descriptor.seatOn, Control.bind_setUrl]
  have hlater : u.desk.Seated := hu.seated (hseated.bindPage ds)
  refine ⟨?_, hbound, ?_, hlater.answers hbound⟩
  · rw [hcontrols, List.map_map]
    exact List.map_congr_left fun x _ => by
      simp [Descriptor.seatOn, Control.bind_state, Control.bind_setUrl]
  · have hpairs := hlater.pairs_nodup s.desk.pages
    rw [Desk.seatsOn, List.map_map] at hpairs
    exact hpairs

/-- A page that tells of the order of one order twice, and of its payment between. -/
def doubledPage : List Descriptor :=
  [⟨⟨"10002"⟩, .order, "open", some "/first"⟩, ⟨⟨"10002"⟩, .payment, "open", none⟩,
    ⟨⟨"10002"⟩, .order, "done", some "/second"⟩, ⟨⟨"10001"⟩, .order, "open", some "/set-order"⟩]

/-- A session in which another page was bound before and an action was selected there. -/
def visited : Session :=
  (bindPage { desk := { store := sampleStore, schedule := Schedule.none } } samplePage).apply
    (.begin 0 (.select sampleSeat "process"))

/-- The session with that page, after the selection has gone on, a state was taken over and one more
page was bound. -/
def visitedLater : Session :=
  (((visited.bindPage doubledPage).apply (.settle 0)).apply
    (.touch ⟨1, ⟨"10002"⟩, .order⟩ (.adopt "done"))).bindPage samplePage

theorem first_of_each_bound_doubled :
    ((visited.bindPage doubledPage).desk.controlsOn 1).map (fun c => (c.seat, c.state, c.setUrl)) =
      [(⟨1, ⟨"10002"⟩, .order⟩, "open", some "/first"), (⟨1, ⟨"10002"⟩, .payment⟩, "open", none),
        (⟨1, ⟨"10001"⟩, .order⟩, "open", some "/set-order")] ∧
    visitedLater.desk.boundOn 1 =
      [(⟨1, ⟨"10002"⟩, .order⟩, some "/first"), (⟨1, ⟨"10002"⟩, .payment⟩, none),
        (⟨1, ⟨"10001"⟩, .order⟩, some "/set-order")] ∧
    visitedLater.desk.seat? 1 ⟨"10002"⟩ .order = some ⟨1, ⟨"10002"⟩, .order⟩ ∧
    visitedLater.desk.seat? 1 ⟨"10001"⟩ .payment = none ∧
    visitedLater.desk.siblings 1 ⟨"10002"⟩ =
      [⟨1, ⟨"10002"⟩, .order⟩, ⟨1, ⟨"10002"⟩, .payment⟩] := by
  have hvisited : Becomes { desk := { store := sampleStore, schedule := Schedule.none } } visited :=
    .apply _ (.bind _ .same)
  have hlater : (visited.bindPage doubledPage).Becomes visitedLater :=
    .bind _ (.apply _ (.apply _ .same))
  obtain ⟨hcontrols, hbound, -, hseat, hnone, -, -, -, hsiblings, -⟩ :=
    first_of_each_bound doubledPage hvisited hlater
  exact ⟨hcontrols.trans (by decide), hbound.trans (by decide),
    (hseat _ _ _).mpr ⟨rfl, _, List.mem_cons_self, rfl⟩, (hnone _ _).mpr (by decide),
    (hsiblings _).trans (by decide)⟩

end Session

end OrderDesk
