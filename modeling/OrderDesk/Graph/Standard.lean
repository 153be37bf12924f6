import OrderDesk.Graph

/-!
The standard Shopware 6 state machines, which hold until a cached or a fetched graph is known.
-/
namespace OrderDesk.Graph

/-- The rows of the standard graph. -/
def standardRows : List (Scope × String × List String) := [
  (.order, "open", ["process", "cancel"]),
  (.order, "in_progress", ["complete", "cancel"]),
  (.order, "completed", ["reopen"]),
  (.order, "cancelled", ["reopen"]),
  (.delivery, "open", ["ship", "ship_partially", "cancel"]),
  (.delivery, "shipped", ["retour", "retour_partially", "reopen"]),
  (.delivery, "shipped_partially", ["ship", "retour", "retour_partially", "reopen"]),
  (.delivery, "returned", ["reopen"]),
  (.delivery, "returned_partially", ["retour", "retour_partially", "reopen"]),
  (.delivery, "cancelled", ["reopen"]),
  (.payment, "open",
    ["do_pay", "paid", "paid_partially", "authorize", "remind", "cancel", "fail"]),
  (.payment, "in_progress", ["paid", "paid_partially", "remind", "cancel", "fail"]),
  (.payment, "authorized", ["paid", "paid_partially", "refund", "refund_partially", "cancel"]),
  (.payment, "paid", ["refund", "refund_partially", "reopen"]),
  (.payment, "paid_partially",
    ["paid", "paid_partially", "refund", "refund_partially", "reopen"]),
  (.payment, "refunded", ["reopen"]),
  (.payment, "refunded_partially",
    ["paid", "paid_partially", "refund", "refund_partially", "reopen"]),
  (.payment, "cancelled", ["reopen"]),
  (.payment, "failed", ["reopen"]),
  (.payment, "reminded", ["paid", "paid_partially", "cancel", "fail"]),
  (.payment, "chargeback", ["reopen"])]

/-- The standard graph. -/
def standard : Graph :=
  standardRows.foldl (fun g r => g.withActions r.1 r.2.1 r.2.2) empty

end OrderDesk.Graph
