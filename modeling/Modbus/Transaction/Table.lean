import Modbus.Pdu

/-! # Modbus.Transaction.Table — transaction tables and transaction ids

A transaction manager keeps the messages it was handed in a table, under one
of two policies (its subclass):

* `DictTransactionManager` keys them by transaction id in a Python `dict`
  (`TidDict`): `add_transaction` is `transactions[tid] = request`, which
  replaces a message already held under `tid`, and `get_transaction` is
  `transactions.pop(tid, None)`;
* `FifoTransactionManager` appends them to a list, and `get_transaction` pops
  the oldest, whatever `tid` it is asked for.

`TablePolicy` is what the manager's methods see of either. A `TidDict` carries
the fact that its keys are distinct; `pop_set_self` and `not_mem_keys_pop` are
the keyed table's contract (§4.5, property 6). `getNextTid` is the `u16`
counter.
-/

namespace Modbus

/-- The table methods of a `ModbusTransactionManager` subclass over its table
`τ`: `add_transaction(request)`, under `request.transaction_id`, and
`get_transaction(tid)`, which removes what it returns. -/
structure TablePolicy (τ : Type) where
  addTransaction : τ → Pdu → τ
  getTransaction : τ → Nat → Option Pdu × τ
  /-- How many messages the table holds. -/
  size : τ → Nat

/-! ## The keyed table -/

section Items

variable {α : Type}

/-- `items[tid] = x` on a dict's items: replace the value under `tid` in
place, or append it. -/
def setItems : List (Nat × α) → Nat → α → List (Nat × α)
  | [], tid, x => [(tid, x)]
  | (k, v) :: l, tid, x => if k = tid then (tid, x) :: l else (k, v) :: setItems l tid x

/-- `items.pop(tid, None)` on a dict's items: the value under `tid`, if any,
and the items without it. -/
def popItems : List (Nat × α) → Nat → Option α × List (Nat × α)
  | [], _ => (none, [])
  | (k, v) :: l, tid =>
    if k = tid then (some v, l) else ((popItems l tid).1, (k, v) :: (popItems l tid).2)

theorem keys_setItems (l : List (Nat × α)) (tid : Nat) (x : α) :
    (setItems l tid x).map Prod.fst =
      if tid ∈ l.map Prod.fst then l.map Prod.fst else l.map Prod.fst ++ [tid] := by
  induction l with
  | nil => simp [setItems]
  | cons p l ih =>
    obtain ⟨k, v⟩ := p
    by_cases hk : k = tid
    · simp [setItems, hk]
    · by_cases ht : tid ∈ l.map Prod.fst <;> simp [setItems, hk, ih, ht, Ne.symm hk]

theorem keys_popItems_sublist (l : List (Nat × α)) (tid : Nat) :
    ((popItems l tid).2.map Prod.fst).Sublist (l.map Prod.fst) := by
  induction l with
  | nil => simp [popItems]
  | cons p l ih =>
    obtain ⟨k, v⟩ := p
    by_cases hk : k = tid
    · simp [popItems, hk]
    · simpa [popItems, hk] using ih.cons₂ k

theorem not_mem_keys_popItems {l : List (Nat × α)} (h : (l.map Prod.fst).Nodup) (tid : Nat) :
    tid ∉ (popItems l tid).2.map Prod.fst := by
  induction l with
  | nil => simp [popItems]
  | cons p l ih =>
    obtain ⟨k, v⟩ := p
    simp only [List.map_cons, List.nodup_cons] at h
    by_cases hk : k = tid
    · subst hk; simpa [popItems] using h.1
    · simpa [popItems, hk, Ne.symm hk] using ih h.2

theorem mem_setItems {l : List (Nat × α)} {tid : Nat} {x : α} {p : Nat × α}
    (h : p ∈ setItems l tid x) : p = (tid, x) ∨ p ∈ l := by
  induction l with
  | nil => simpa [setItems] using h
  | cons q l ih =>
    obtain ⟨k, v⟩ := q
    by_cases hk : k = tid
    · simp only [setItems, hk, if_true, List.mem_cons] at h ⊢
      tauto
    · simp only [setItems, hk, if_false, List.mem_cons] at h ⊢
      rcases h with h | h
      · exact .inr (.inl h)
      · rcases ih h with h | h <;> simp [h]

/-- Storing a value the dict does not hold keeps its values distinct. -/
theorem nodup_values_setItems {l : List (Nat × α)} (hl : (l.map Prod.snd).Nodup) {x : α}
    (hx : x ∉ l.map Prod.snd) (tid : Nat) : ((setItems l tid x).map Prod.snd).Nodup := by
  induction l with
  | nil => simp [setItems]
  | cons q l ih =>
    obtain ⟨k, v⟩ := q
    simp only [List.map_cons, List.nodup_cons, List.mem_cons, not_or] at hl hx
    by_cases hk : k = tid
    · simp only [setItems, hk, if_true, List.map_cons, List.nodup_cons]
      exact ⟨hx.2, hl.2⟩
    · simp only [setItems, hk, if_false, List.map_cons, List.nodup_cons, List.mem_map]
      refine ⟨?_, ih hl.2 hx.2⟩
      rintro ⟨p, hp, rfl⟩
      rcases mem_setItems hp with rfl | hp
      · exact hx.1 rfl
      · exact hl.1 (List.mem_map_of_mem _ hp)

/-- Storing under a key replaces the value held there: it is no longer held. -/
theorem not_mem_values_setItems {l : List (Nat × α)} (hk : (l.map Prod.fst).Nodup)
    (hv : (l.map Prod.snd).Nodup) {tid : Nat} {d x : α} (hd : (tid, d) ∈ l) (hx : x ≠ d) :
    d ∉ (setItems l tid x).map Prod.snd := by
  induction l with
  | nil => simp at hd
  | cons q l ih =>
    obtain ⟨k, v⟩ := q
    simp only [List.map_cons, List.nodup_cons] at hk hv
    by_cases hkt : k = tid
    · subst hkt
      simp only [setItems, if_true, List.map_cons, List.mem_cons, not_or]
      rcases List.mem_cons.mp hd with h | h
      · cases h; exact ⟨hx.symm, hv.1⟩
      · exact absurd (List.mem_map_of_mem Prod.fst h) hk.1
    · simp only [setItems, hkt, if_false, List.map_cons, List.mem_cons, not_or]
      rcases List.mem_cons.mp hd with h | h
      · cases h; exact absurd rfl hkt
      · exact ⟨fun hdv => hv.1 (hdv ▸ List.mem_map_of_mem Prod.snd h), ih hk.2 hv.2 h⟩

/-- A pop that finds `tid` takes out its one entry. -/
theorem popItems_eq_some {l : List (Nat × α)} {tid : Nat} {v : α} (h : (popItems l tid).1 = some v) :
    ∃ l₁ l₂, l = l₁ ++ (tid, v) :: l₂ ∧ (popItems l tid).2 = l₁ ++ l₂ := by
  induction l with
  | nil => simp [popItems] at h
  | cons q l ih =>
    obtain ⟨k, w⟩ := q
    by_cases hk : k = tid
    · simp only [popItems, hk, if_true, Option.some.injEq] at h ⊢
      exact ⟨[], l, by rw [h]; rfl, rfl⟩
    · simp only [popItems, hk, if_false] at h ⊢
      obtain ⟨l₁, l₂, rfl, h₂⟩ := ih h
      exact ⟨(k, w) :: l₁, l₂, rfl, by rw [h₂]; rfl⟩

/-- A pop that does not find `tid` keeps the items. -/
theorem popItems_eq_none {l : List (Nat × α)} {tid : Nat} (h : (popItems l tid).1 = none) :
    (popItems l tid).2 = l := by
  induction l with
  | nil => rfl
  | cons q l ih =>
    obtain ⟨k, w⟩ := q
    by_cases hk : k = tid
    · simp [popItems, hk] at h
    · simp only [popItems, hk, if_false] at h ⊢
      rw [ih h]

/-- Storing under `tid` and then popping it returns what was stored, and leaves
the items without any entry under `tid`. -/
theorem popItems_setItems (l : List (Nat × α)) (tid : Nat) (x : α) :
    popItems (setItems l tid x) tid = (some x, (popItems l tid).2) := by
  induction l with
  | nil => simp [setItems, popItems]
  | cons p l ih =>
    obtain ⟨k, v⟩ := p
    by_cases hk : k = tid <;> simp [setItems, popItems, hk, ih]

/-- A pop returns the first value under `tid`, the one `lookup` finds. -/
theorem popItems_fst (l : List (Nat × α)) (tid : Nat) : (popItems l tid).1 = l.lookup tid := by
  induction l with
  | nil => rfl
  | cons p l ih =>
    obtain ⟨k, v⟩ := p
    by_cases hk : k = tid
    · simp [popItems, hk]
    · simp [popItems, hk, ih, List.lookup_cons, beq_eq_false_iff_ne.mpr (Ne.symm hk)]

/-- A pop of `tid` leaves what is held under every other key. -/
theorem lookup_popItems (l : List (Nat × α)) {tid k : Nat} (h : k ≠ tid) :
    (popItems l tid).2.lookup k = l.lookup k := by
  induction l with
  | nil => rfl
  | cons p l ih =>
    obtain ⟨j, v⟩ := p
    by_cases hj : j = tid
    · subst hj; simp [popItems, List.lookup_cons, beq_eq_false_iff_ne.mpr h]
    · by_cases hjk : k = j <;> simp [popItems, hj, ih, List.lookup_cons, hjk]

end Items

/-- A Python `dict` keyed by transaction ids: its items in insertion order, each
key once. -/
def TidDict (α : Type) : Type := { items : List (Nat × α) // (items.map Prod.fst).Nodup }

namespace TidDict

variable {α : Type}

instance [DecidableEq α] : DecidableEq (TidDict α) := inferInstanceAs (DecidableEq (Subtype _))

/-- `{}`. -/
def empty : TidDict α := ⟨[], List.nodup_nil⟩

/-- The keys, in insertion order. -/
def keys (d : TidDict α) : List Nat := d.1.map Prod.fst

/-- `d[tid] = x`. -/
def set (d : TidDict α) (tid : Nat) (x : α) : TidDict α :=
  ⟨setItems d.1 tid x, by
    rw [keys_setItems]
    split_ifs with h
    · exact d.2
    · exact List.nodup_append.mpr ⟨d.2, List.nodup_singleton _, by simpa using h⟩⟩

/-- `d.pop(tid, None)`. -/
def pop (d : TidDict α) (tid : Nat) : Option α × TidDict α :=
  ((popItems d.1 tid).1, ⟨(popItems d.1 tid).2, d.2.sublist (keys_popItems_sublist d.1 tid)⟩)

/-- `len(d)`. -/
def size (d : TidDict α) : Nat := d.1.length

/-- `d.get(tid)`: the value held under `tid`, if any. -/
def lookup (d : TidDict α) (tid : Nat) : Option α := d.1.lookup tid

@[simp] theorem keys_empty : (empty : TidDict α).keys = [] := rfl

theorem keys_set (d : TidDict α) (tid : Nat) (x : α) :
    (d.set tid x).keys = if tid ∈ d.keys then d.keys else d.keys ++ [tid] :=
  keys_setItems d.1 tid x

theorem size_eq_length_keys (d : TidDict α) : d.size = d.keys.length := by
  simp [size, keys]

/-- What `d[tid] = x` stored, `d.pop(tid)` returns. -/
theorem pop_set_self (d : TidDict α) (tid : Nat) (x : α) : ((d.set tid x).pop tid).1 = some x := by
  obtain ⟨l, hl⟩ := d
  simp only [set, pop]
  clear hl
  induction l with
  | nil => simp [setItems, popItems]
  | cons p l ih =>
    obtain ⟨k, v⟩ := p
    by_cases hk : k = tid <;> simp [setItems, popItems, hk, ih]

/-- After `d.pop(tid)`, `tid` is no key: a second `pop` finds nothing. -/
theorem not_mem_keys_pop (d : TidDict α) (tid : Nat) : tid ∉ (d.pop tid).2.keys :=
  not_mem_keys_popItems d.2 tid

/-- `d[tid] = x` and then `d.pop(tid)`: `x`, and `d` without its entry under
`tid`. -/
theorem pop_set (d : TidDict α) (tid : Nat) (x : α) : (d.set tid x).pop tid = (some x, (d.pop tid).2) := by
  have h := popItems_setItems d.1 tid x
  exact Prod.ext (by simp [pop, set, h]) (Subtype.ext (by simp [pop, set, h]))

/-- Popping a key a dict does not hold returns `None` and keeps the dict. -/
theorem pop_empty_set_of_ne {tid k : Nat} (h : k ≠ tid) (x : α) :
    (empty.set k x).pop tid = (none, empty.set k x) := by
  simp [set, pop, empty, setItems, popItems, h]

theorem keys_pop_sublist (d : TidDict α) (tid : Nat) : ((d.pop tid).2.keys).Sublist d.keys :=
  keys_popItems_sublist d.1 tid

/-- A `pop` that finds `tid` takes out its one entry and keeps the others in order. -/
theorem pop_eq_some {d : TidDict α} {tid : Nat} {v : α} (h : (d.pop tid).1 = some v) :
    ∃ l₁ l₂, d.1 = l₁ ++ (tid, v) :: l₂ ∧ (d.pop tid).2.1 = l₁ ++ l₂ :=
  popItems_eq_some h

/-- A `pop` that does not find `tid` keeps the dict. -/
theorem pop_eq_none {d : TidDict α} {tid : Nat} (h : (d.pop tid).1 = none) : (d.pop tid).2 = d :=
  Subtype.ext (popItems_eq_none h)

/-- `d.pop(tid)` returns what `d.get(tid)` would. -/
theorem pop_fst (d : TidDict α) (tid : Nat) : (d.pop tid).1 = d.lookup tid :=
  popItems_fst d.1 tid

/-- `d.pop(tid)` keeps what is held under every other key. -/
theorem lookup_pop (d : TidDict α) {tid k : Nat} (h : k ≠ tid) : (d.pop tid).2.lookup k = d.lookup k :=
  lookup_popItems d.1 h

end TidDict

/-- `DictTransactionManager`'s table methods. -/
def dictPolicy : TablePolicy (TidDict Pdu) where
  addTransaction d request := d.set request.transactionId request
  getTransaction d tid := d.pop tid
  size := TidDict.size

/-- `FifoTransactionManager`'s table methods: append, and pop the oldest. -/
def fifoPolicy : TablePolicy (List Pdu) where
  addTransaction t request := t ++ [request]
  getTransaction t _ := match t with
    | [] => (none, [])
    | x :: xs => (some x, xs)
  size := List.length

/-! ## Transaction ids -/

/-- `get_next_tid()`: `(tid + 1) & 0xffff`, the new counter and the id handed out. -/
def getNextTid (tid : Nat) : Nat := (tid + 1) &&& 0xffff

theorem getNextTid_eq (tid : Nat) : getNextTid tid = (tid + 1) % 65536 := by
  simpa using Nat.and_pow_two_sub_one_eq_mod (tid + 1) 16

end Modbus
