import Publishing.NodeId

/-!
# Histories that use no id twice

Stores and trees of nodes come about by requests that each name the id of the node they
want to add.  A request may come to nothing, but it never touches a node of another id.
So as long as no id is used twice, each request meets a state without a node of its id,
and what such a request keeps is kept by the whole history.
-/

namespace Publishing

variable {State Request Stored : Type} {step : State → Request → State} {id : Request → NodeId}
  {Inv : State → Prop}

/-- **A run of requests with distinct ids** keeps what each of them keeps when its id is
new.  That the ids of all requests still to come are new is kept along. -/
theorem inv_foldl_of_distinct {history : List Request} (find? : State → NodeId → Option Stored)
    (hstep : ∀ s, ∀ r ∈ history, Inv s → find? s (id r) = none → Inv (step s r))
    (hframe : ∀ s r other, other ≠ id r → find? (step s r) other = find? s other)
    (hdistinct : (history.map id).Nodup) {s : State} (hs : Inv s)
    (hnew : ∀ r ∈ history, find? s (id r) = none) : Inv (history.foldl step s) := by
  induction history generalizing s with
  | nil => exact hs
  | cons r rest ih =>
      rw [List.map_cons, List.nodup_cons] at hdistinct
      have hfirst : Inv (step s r) :=
        hstep s r (List.mem_cons_self ..) hs (hnew r (List.mem_cons_self ..))
      refine ih (fun s q hq => hstep s q (List.mem_cons_of_mem r hq)) hdistinct.2 hfirst ?_
      intro q hq
      have hne : id q ≠ id r := fun heq => hdistinct.1 (heq ▸ List.mem_map_of_mem hq)
      rw [hframe s r (id q) hne]
      exact hnew q (List.mem_cons_of_mem r hq)

end Publishing
