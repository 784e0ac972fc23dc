import TicketGenius.Properties.Pagination

/-!
# Whose orders a customer sees

`list_orders` takes an email and does not use it.  So a customer is shown the orders of everyone,
and what is shown depends on the orders of everyone.

Two stores that agree on the orders of one customer should look the same to that customer, and show
no other orders.  They do exactly if, in both, nothing of other customers comes onto the page: each
of their orders that passes the cursor has as many of the customer's own before it as the page is
long (`own_orders_iff`).
-/

namespace TicketGenius.OwnOrders

open Framework

/-! ## Own orders and others -/

/-- The order is the customer's. -/
def Own (customerEmail : String) (o : StoredOrder) : Bool := o.attendeeInfo.email == customerEmail

section Orders

variable [LinearOrder UUID] (json : JsonCodec) (timestamp : Json → Option DateTime)

/-- Which rows pass the cursor; `none` if the database refuses the query. -/
def passing (query : ListOrdersQuery) : Option (StoredOrder → Bool) :=
  if query.limit < 0 then none
  else match applyCursorFilter json query.cursor with
    | none => some fun _ => true
    | some (cursorId, cursorSortKey) =>
      (timestamp cursorSortKey).map fun t o => o.before t cursorId

/-- Every order of another customer that passes the cursor has `limit` of the customer's own before
it. -/
def OwnFirst (orders : List StoredOrder) (query : ListOrdersQuery) : Prop :=
  ∀ passes, passing json timestamp query = some passes →
    ∀ o ∈ orders, passes o = true → Own query.customerEmail o = false →
      query.limit.toNat ≤ orders.countP fun o' =>
        passes o' && (Own query.customerEmail o' && decide (o.sortKey < o'.sortKey))

/-- Every order listed is the customer's. -/
def ShowsOwn (orders : List StoredOrder) (query : ListOrdersQuery) : Prop :=
  ∀ rows, listOrderRows json timestamp orders query.cursor query.limit = some rows →
    ∀ o ∈ rows, Own query.customerEmail o = true

variable {json timestamp} {query : ListOrdersQuery} {A B orders : List StoredOrder}

lemma listOrderRows_eq (orders : List StoredOrder) (query : ListOrdersQuery) :
    listOrderRows json timestamp orders query.cursor query.limit =
      (passing json timestamp query).map fun passes =>
        (orderByDesc (orders.filter passes)).take query.limit.toNat := by
  rw [listOrderRows, passing]
  split
  · rfl
  · cases applyCursorFilter json query.cursor with
    | none => simp
    | some cursor => simp [Function.comp_def]

lemma orderByDesc_perm (orders : List StoredOrder) : (orderByDesc orders).Perm orders :=
  List.perm_insertionSort ..

/-- What passes the cursor is listed in strictly descending order. -/
lemma orderByDesc_pairwise (hids : (orders.map (·.orderId)).Nodup) (passes : StoredOrder → Bool) :
    (orderByDesc (orders.filter passes)).Pairwise fun a b => b.sortKey < a.sortKey := by
  have hkeys := (Pagination.nodup_sortKey hids).sublist ((List.filter_sublist (p := passes)).map _)
  have hbelow : (Keyset.below StoredOrder.sortKey (orders.filter passes) ⊤).Pairwise
      fun a b => b.sortKey < a.sortKey := Keyset.below_pairwise hkeys
  simpa [Keyset.below, orderByDesc] using hbelow

/-- **Only own orders are shown exactly if they come first.** -/
theorem showsOwn_iff (hids : (orders.map (·.orderId)).Nodup) :
    ShowsOwn json timestamp orders query ↔ OwnFirst json timestamp orders query := by
  have hcount : ∀ (passes : StoredOrder → Bool) (q : StoredOrder → Bool),
      (orderByDesc (orders.filter passes)).countP q = orders.countP fun o => passes o && q o := by
    intro passes q
    rw [(orderByDesc_perm _).countP_eq, List.countP_filter]
    exact List.countP_congr fun o _ => by rw [Bool.and_comm]
  have hiff := fun passes => Keyset.forall_mem_take_iff (orderByDesc_pairwise hids passes)
    query.limit.toNat (Own query.customerEmail)
  simp only [ShowsOwn, OwnFirst, listOrderRows_eq, Option.map_eq_some_iff]
  constructor
  · intro h passes hpasses o ho hpass hother
    rw [← hcount]
    refine (hiff passes).mp (h _ ⟨passes, hpasses, rfl⟩) o ?_ hother
    exact (orderByDesc_perm _).mem_iff.mpr (List.mem_filter.mpr ⟨ho, hpass⟩)
  · rintro h _ ⟨passes, hpasses, rfl⟩
    refine (hiff passes).mpr fun o ho hother => ?_
    obtain ⟨hmem, hpass⟩ := List.mem_filter.mp ((orderByDesc_perm _).mem_iff.mp ho)
    rw [hcount]
    exact h passes hpasses o hmem hpass hother

/-- Stores that agree on the customer's orders and show nothing else show the same. -/
lemma listOrderRows_congr (hA : (A.map (·.orderId)).Nodup) (hB : (B.map (·.orderId)).Nodup)
    (hagree : ∀ o, Own query.customerEmail o = true → (o ∈ A ↔ o ∈ B))
    (hshowsA : ShowsOwn json timestamp A query) (hshowsB : ShowsOwn json timestamp B query) :
    listOrderRows json timestamp A query.cursor query.limit =
      listOrderRows json timestamp B query.cursor query.limit := by
  rw [ShowsOwn, listOrderRows_eq] at hshowsA hshowsB
  rw [listOrderRows_eq, listOrderRows_eq]
  cases hpasses : passing json timestamp query with
  | none => rfl
  | some passes =>
    rw [hpasses] at hshowsA hshowsB
    rw [Option.map_some, Option.map_some, Option.some.injEq,
      Keyset.take_eq_take_filter (hshowsA _ rfl), Keyset.take_eq_take_filter (hshowsB _ rfl)]
    have hdownA := (orderByDesc_pairwise hA passes).filter (Own query.customerEmail)
    have hdownB := (orderByDesc_pairwise hB passes).filter (Own query.customerEmail)
    have hdistinct : ∀ {l : List StoredOrder}, l.Pairwise (fun a b => b.sortKey < a.sortKey) →
        l.Nodup := fun hl => hl.imp fun hlt heq => by rw [heq] at hlt; exact lt_irrefl _ hlt
    have hsame : ((orderByDesc (A.filter passes)).filter (Own query.customerEmail)).Perm
        ((orderByDesc (B.filter passes)).filter (Own query.customerEmail)) := by
      refine (List.perm_ext_iff_of_nodup (hdistinct hdownA) (hdistinct hdownB)).mpr fun o => ?_
      simp only [List.mem_filter, (orderByDesc_perm _).mem_iff]
      constructor
      · rintro ⟨⟨hmem, hpass⟩, hown⟩
        exact ⟨⟨(hagree o hown).mp hmem, hpass⟩, hown⟩
      · rintro ⟨⟨hmem, hpass⟩, hown⟩
        exact ⟨⟨(hagree o hown).mpr hmem, hpass⟩, hown⟩
    rw [hsame.eq_of_pairwise (fun a b _ _ hab hba => absurd hab hba.not_gt) hdownA hdownB]

end Orders

/-! ### Two customers -/

/-- The first page, of one order, for Ada. -/
def adasPage : ListOrdersQuery := ⟨"ada@example.com", none, 1⟩

/-- An order of somebody else. -/
def bobsOrder (orderId : UUID) : StoredOrder :=
  { Pagination.orderWithId orderId with
    attendeeInfo := ⟨"Bob", "bob@example.com", none, by decide, by decide⟩ }

end TicketGenius.OwnOrders
