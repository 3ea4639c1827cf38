import Mathlib

/-! # Modbus.Bytes — Python byte strings as the framers use them

The framers of `pymodbus3.transaction` work on `bytes` with a handful of Python
operations; this module gives each one the meaning CPython gives it:

* slicing `s[a:b]` and `s[a:]`, with negative bounds counted from the end and
  out-of-range bounds clamped (`slice`, `sliceFrom`);
* indexing `s[i]`, which raises `IndexError` past the end (`index`);
* `s.find(sub)`, with `-1` read as `none` (`find`);
* the `struct` formats `>B` and `>H` (`packB`, `packH`, `unpackB`, `unpackH`, `be16`);
* `binascii.b2a_hex`, `binascii.a2b_hex`, `bytes.upper` and `int(s, 16)`
  (`b2aHex`, `a2bHex`, `upper`, `int16`).

Every operation that raises in Python returns `Except Exc` here.
-/

namespace Modbus

/-- Equality of results, so that `decide` can compare what fallible code returns. -/
instance instDecidableEqExcept {ε α : Type _} [DecidableEq ε] [DecidableEq α] :
    DecidableEq (Except ε α)
  | .error a, .error b => decidable_of_iff (a = b) (by simp)
  | .ok a, .ok b => decidable_of_iff (a = b) (by simp)
  | .error _, .ok _ => isFalse Except.noConfusion
  | .ok _, .error _ => isFalse Except.noConfusion

/-- A Python `bytes` value. -/
abbrev Bytes := List UInt8

/-- The exceptions the modelled code raises, catches or lets through. -/
inductive Exc where
  | indexError
  | keyError
  /-- `ValueError`; `binascii.Error` is one. -/
  | valueError
  | structError
  | notImplementedError
  /-- `ModbusIOException(message)`. -/
  | ioException (message : String)
  /-- `ConnectionException(message)`. -/
  | connectionException (message : String)
  /-- `socket.error`. -/
  | socketError
  | typeError
  | attributeError
  /-- An exception raised by datastore or request code the model leaves abstract. -/
  | other
  deriving DecidableEq, Repr

/-- Peeling a successful `Except` computation apart, one bind at a time. -/
theorem bind_eq_ok {α β ε : Type} {x : Except ε α} {f : α → Except ε β} {b : β} :
    x >>= f = .ok b ↔ ∃ a, x = .ok a ∧ f a = .ok b := by
  cases x <;> simp [bind, Except.bind]

namespace Bytes

/-! ## Slicing and indexing -/

/-- Python's normalisation of a slice bound `i` against a sequence of length `n`. -/
def sliceBound (n : Nat) (i : Int) : Nat :=
  if i < 0 then (i + n).toNat else min i.toNat n

/-- `s[a:b]`. -/
def slice (s : Bytes) (a b : Int) : Bytes :=
  (s.drop (sliceBound s.length a)).take (sliceBound s.length b - sliceBound s.length a)

/-- `s[a:]`. -/
def sliceFrom (s : Bytes) (a : Int) : Bytes :=
  s.drop (sliceBound s.length a)

/-- `s[i]` for `i ≥ 0`. -/
def index (s : Bytes) (i : Nat) : Except Exc UInt8 :=
  match s[i]? with
  | some b => .ok b
  | none => .error .indexError

@[simp] theorem sliceBound_natCast (n i : Nat) : sliceBound n i = min i n := by
  simp [sliceBound]

theorem slice_natCast (s : Bytes) (a b : Nat) : slice s a b = (s.drop a).take (b - a) := by
  simp only [slice, sliceBound_natCast]
  by_cases ha : a ≤ s.length
  · rw [Nat.min_eq_left ha, List.take_eq_take, List.length_drop]
    rcases Nat.le_total b s.length with hb | hb
    · rw [Nat.min_eq_left hb]
    · rw [Nat.min_eq_right hb]; omega
  · rw [Nat.min_eq_right (by omega : s.length ≤ a), List.drop_of_length_le (by omega),
      List.drop_of_length_le (by omega : s.length ≤ a)]
    simp

@[simp] theorem slice_zero (s : Bytes) (b : Nat) : slice s 0 b = s.take b := by
  simpa using slice_natCast s 0 b

@[simp] theorem sliceFrom_natCast (s : Bytes) (a : Nat) : sliceFrom s a = s.drop a := by
  rw [sliceFrom, sliceBound_natCast]
  rcases Nat.le_total a s.length with h | h
  · rw [Nat.min_eq_left h]
  · rw [Nat.min_eq_right h, List.drop_of_length_le h, List.drop_of_length_le (by omega)]

@[simp] theorem sliceFrom_one_cons (b : UInt8) (s : Bytes) : sliceFrom (b :: s) 1 = s := by
  simpa using sliceFrom_natCast (b :: s) 1

theorem slice_append_left (s t : Bytes) (a b : Nat) (h : b ≤ s.length) :
    slice (s ++ t) a b = slice s a b := by
  rw [slice_natCast, slice_natCast]
  by_cases ha : a ≤ b
  · rw [List.drop_append_of_le_length (by omega)]
    exact List.take_append_of_le_length (by simp; omega)
  · simp [Nat.sub_eq_zero_of_le (by omega : b ≤ a)]

theorem sliceBound_le (n : Nat) (i : Int) : sliceBound n i ≤ n := by
  unfold sliceBound; split <;> omega

theorem length_slice (s : Bytes) (a b : Int) :
    (slice s a b).length = sliceBound s.length b - sliceBound s.length a := by
  have := sliceBound_le s.length b
  simp only [slice, List.length_take, List.length_drop]
  omega

/-- The slice that starts after `a` and spans `b`. -/
theorem slice_middle (a b c : Bytes) {i j : Int} (hi : i = a.length) (hj : j = a.length + b.length) :
    slice (a ++ b ++ c) i j = b := by
  have hj' : j = ((a.length + b.length : Nat) : Int) := by simp [hj]
  rw [hi, hj', slice_natCast, List.append_assoc, List.drop_left, Nat.add_sub_cancel_left,
    List.take_left]

theorem index_eq_ok {s : Bytes} {i : Nat} (h : i < s.length) : index s i = .ok s[i] := by
  simp [index, List.getElem?_eq_getElem h]

theorem index_eq_error {s : Bytes} {i : Nat} (h : s.length ≤ i) : index s i = .error .indexError := by
  simp [index, List.getElem?_eq_none h]

@[simp] theorem index_cons_zero (b : UInt8) (s : Bytes) : index (b :: s) 0 = .ok b := by
  simp [index]

@[simp] theorem index_cons_succ (b : UInt8) (s : Bytes) (i : Nat) :
    index (b :: s) (i + 1) = index s i := by
  simp [index]

/-- Indexing raises nothing but `IndexError`. -/
theorem index_error {s : Bytes} {i : Nat} {e : Exc} (h : index s i = .error e) : e = .indexError := by
  unfold index at h
  split at h <;> cases h
  rfl

theorem index_append_left {s : Bytes} {i : Nat} (h : i < s.length) (t : Bytes) :
    index (s ++ t) i = index s i := by
  simp [index, List.getElem?_append_left h]

theorem index_of_prefix {r s : Bytes} (h : r <+: s) {i : Nat} (hi : i < r.length) :
    index s i = index r i := by
  obtain ⟨t, rfl⟩ := h
  exact index_append_left hi t

/-! ## Search -/

/-- `s.find(sub)`: the first index at which `sub` occurs, `none` for Python's `-1`. -/
def find (sub : Bytes) : Bytes → Option Nat
  | [] => if sub = [] then some 0 else none
  | b :: s => if sub <+: b :: s then some 0 else (find sub s).map (· + 1)

theorem find_append_of_not_mem {x : UInt8} {t g : Bytes} (hg : x ∉ g) (r : Bytes) :
    find (x :: t) (g ++ r) = (find (x :: t) r).map (· + g.length) := by
  induction g with
  | nil => simp
  | cons b g ih =>
    have hb : ¬ x :: t <+: b :: (g ++ r) := fun h =>
      hg ((List.cons_prefix_cons.mp h).1 ▸ List.mem_cons_self b g)
    rw [List.cons_append, find, if_neg hb, ih (fun h => hg (List.mem_cons_of_mem b h)),
      Option.map_map]
    congr 1

@[simp] theorem find_self_append (x : UInt8) (t r : Bytes) : find (x :: t) (x :: t ++ r) = some 0 := by
  simp [find]

@[simp] theorem find_cons_self (x : UInt8) (r : Bytes) : find [x] (x :: r) = some 0 := by
  simp [find]

theorem find_eq_none_of_not_mem {x : UInt8} {t g : Bytes} (hg : x ∉ g) : find (x :: t) g = none := by
  simpa [find] using find_append_of_not_mem (t := t) hg []

/-- A match found lies inside the searched string. -/
theorem find_eq_some_le {sub : Bytes} : ∀ {s : Bytes} {i : Nat}, find sub s = some i →
    i + sub.length ≤ s.length
  | [], i, h => by
    simp only [find] at h
    split_ifs at h with h₀
    cases h; simp [h₀]
  | b :: s, i, h => by
    simp only [find] at h
    split_ifs at h with h₀
    · cases h; simpa using h₀.length_le
    · obtain ⟨j, hj, rfl⟩ := Option.map_eq_some'.mp h
      have := find_eq_some_le hj
      simp only [List.length_cons]
      omega

/-- A two-byte marker is not found in what ends before its second byte. -/
theorem find_pair_eq_none {x y : UInt8} {H r : Bytes} (hx : x ∉ H) (hr : r <+: H ++ [x]) :
    find [x, y] r = none := by
  rcases List.prefix_concat_iff.mp hr with rfl | hr
  · rw [find_append_of_not_mem hx]
    simp [find]
  · exact find_eq_none_of_not_mem fun h => hx (hr.subset h)

/-- What does not occur is not found. -/
theorem find_eq_none_of_not_occurs {sub : Bytes} : ∀ {s : Bytes}, ¬ sub <:+: s → find sub s = none
  | [], h => by
    rw [find, if_neg]
    rintro rfl
    exact h List.nil_infix
  | b :: s, h => by
    rw [find, if_neg fun h' => h h'.isInfix,
      find_eq_none_of_not_occurs fun h' => h (List.infix_cons h'), Option.map_none']

/-- A pair that does not occur in `a`, and does not straddle into `b`, is found
only in `b`. -/
theorem find_pair_append {x y : UInt8} {b : Bytes} (hb : b.head? ≠ some y) :
    ∀ {a : Bytes}, ¬ [x, y] <:+: a → find [x, y] (a ++ b) = (find [x, y] b).map (· + a.length)
  | [], _ => by simp
  | c :: a, ha => by
    have hc : ¬ [x, y] <+: c :: (a ++ b) := by
      rintro ⟨t, ht⟩
      rcases a with _ | ⟨d, a⟩
      · simp only [List.cons_append, List.nil_append, List.cons.injEq] at ht
        exact hb (by rw [← ht.2]; rfl)
      · simp only [List.cons_append, List.nil_append, List.cons.injEq] at ht
        exact ha ⟨[], a, by simp [ht.1, ht.2.1]⟩
    rw [List.cons_append, find, if_neg hc, find_pair_append hb fun h => ha (List.infix_cons h),
      Option.map_map]
    congr 1

/-! ## The `struct` formats -/

/-- `struct.pack('>B', n)`. -/
def packB (n : Nat) : Except Exc Bytes :=
  if n < 256 then .ok [UInt8.ofNat n] else .error .structError

/-- `struct.pack('>H', n)`. -/
def packH (n : Nat) : Except Exc Bytes :=
  if n < 65536 then .ok [UInt8.ofNat (n / 256), UInt8.ofNat (n % 256)] else .error .structError

/-- The value of a big-endian pair of bytes, `struct.unpack('>H', ...)`. -/
def be16 (hi lo : UInt8) : Nat := hi.toNat * 256 + lo.toNat

/-- `struct.unpack('>B', b)[0]`: exactly one byte. -/
def unpackB : Bytes → Except Exc Nat
  | [x] => .ok x.toNat
  | _ => .error .structError

/-- `struct.unpack('>H', b)[0]`: exactly two bytes. -/
def unpackH : Bytes → Except Exc Nat
  | [hi, lo] => .ok (be16 hi lo)
  | _ => .error .structError

theorem packB_ok {n : Nat} (h : n < 256) : packB n = .ok [UInt8.ofNat n] := by
  simp [packB, h]

theorem packB_eq_ok {n : Nat} {b : Bytes} : packB n = .ok b ↔ n < 256 ∧ b = [UInt8.ofNat n] := by
  unfold packB; split_ifs <;> simp_all [eq_comm]

theorem packH_eq_ok {n : Nat} {b : Bytes} :
    packH n = .ok b ↔ n < 65536 ∧ b = [UInt8.ofNat (n / 256), UInt8.ofNat (n % 256)] := by
  unfold packH; split_ifs <;> simp_all [eq_comm]

theorem packH_ok {n : Nat} (h : n < 65536) :
    packH n = .ok [UInt8.ofNat (n / 256), UInt8.ofNat (n % 256)] := by
  simp [packH, h]

theorem toNat_ofNat_byte {n : Nat} (h : n < 256) : (UInt8.ofNat n).toNat = n :=
  UInt8.toNat_ofNat_of_lt h

@[simp] theorem ofNat_toNat_byte (b : UInt8) : UInt8.ofNat b.toNat = b := by
  apply UInt8.eq_of_val_eq; simp [UInt8.ofNat, UInt8.toNat, Fin.ofNat]

/-- Packing a 16-bit value and reading it back gives the value. -/
@[simp] theorem be16_packH {n : Nat} (h : n < 65536) :
    be16 (UInt8.ofNat (n / 256)) (UInt8.ofNat (n % 256)) = n := by
  simp only [be16, toNat_ofNat_byte (show n / 256 < 256 by omega),
    toNat_ofNat_byte (show n % 256 < 256 by omega)]
  omega

/-- Two bytes read big-endian determine the bytes. -/
theorem be16_inj {a b c d : UInt8} (h : be16 a b = be16 c d) : a = c ∧ b = d := by
  have ha := a.toNat_lt; have hb := b.toNat_lt; have hc := c.toNat_lt; have hd := d.toNat_lt
  unfold be16 at h
  exact ⟨UInt8.toNat.inj (by omega), UInt8.toNat.inj (by omega)⟩

/-! ## Hexadecimal text -/

/-- The lowercase hex digit of `n < 16`, as `'%x'` writes it. -/
def hexDigit (n : Nat) : UInt8 :=
  if n < 10 then UInt8.ofNat (48 + n) else UInt8.ofNat (87 + n)

/-- `'%02x' % n`, for `n < 256`. -/
def hex2 (n : Nat) : Bytes := [hexDigit (n / 16), hexDigit (n % 16)]

/-- `binascii.b2a_hex(data)`: two lowercase digits a byte. -/
def b2aHex : Bytes → Bytes
  | [] => []
  | b :: s => hex2 b.toNat ++ b2aHex s

/-- ASCII lowercase to uppercase, one byte. -/
def upperByte (b : UInt8) : UInt8 := if 97 ≤ b.toNat ∧ b.toNat ≤ 122 then b - 32 else b

/-- `bytes.upper()`. -/
def upper (s : Bytes) : Bytes := s.map upperByte

/-- The value of a hex digit of either case. -/
def hexVal (b : UInt8) : Option Nat :=
  if 48 ≤ b.toNat ∧ b.toNat ≤ 57 then some (b.toNat - 48)
  else if 65 ≤ b.toNat ∧ b.toNat ≤ 70 then some (b.toNat - 55)
  else if 97 ≤ b.toNat ∧ b.toNat ≤ 102 then some (b.toNat - 87)
  else none

/-- `binascii.a2b_hex(data)`: raises `binascii.Error` on an odd length or a
non-hex digit. -/
def a2bHex : Bytes → Except Exc Bytes
  | [] => .ok []
  | [_] => .error .valueError
  | h :: l :: s =>
    match hexVal h, hexVal l with
    | some a, some b => (a2bHex s).map (UInt8.ofNat (a * 16 + b) :: ·)
    | _, _ => .error .valueError

/-- `a2b_hex` raises on any byte that is not a hex digit. -/
theorem a2bHex_of_not_hex {c : UInt8} (hc : hexVal c = none) :
    ∀ {s : Bytes}, c ∈ s → a2bHex s = .error .valueError
  | [_], _ => rfl
  | h :: l :: s, hm => by
    unfold a2bHex
    split
    · rename_i a b ha hb
      rcases List.mem_cons.mp hm with rfl | hm
      · simp [hc] at ha
      rcases List.mem_cons.mp hm with rfl | hm
      · simp [hc] at hb
      rw [a2bHex_of_not_hex hc hm]; rfl
    · rfl

theorem hexVal_colon : hexVal 58 = none := by decide

/-- The whitespace `int()` strips (C `isspace`). -/
def isSpace (b : UInt8) : Bool := b.toNat = 32 || (9 ≤ b.toNat && b.toNat ≤ 13)

/-- Hex digits with single underscores between them, read onto `acc`; `need`
says a digit must come next. -/
def readHex : Bool → Nat → Bytes → Option Nat
  | need, acc, [] => if need then none else some acc
  | need, acc, b :: s =>
    match hexVal b with
    | some d => readHex false (acc * 16 + d) s
    | none => if b = 95 && !need then readHex true acc s else none

/-- Digits after the sign: an optional `0x`/`0X` prefix, which one underscore may follow. -/
def readHexBody : Bytes → Option Nat
  | 48 :: x :: s =>
    if x = 120 || x = 88 then
      match s with
      | 95 :: t => readHex true 0 t
      | t => readHex true 0 t
    else readHex true 0 (48 :: x :: s)
  | s => readHex true 0 s

/-- `int(s, 16)` on a byte string: surrounding whitespace, a sign, an optional
`0x` prefix and underscores between digits are accepted; anything else raises
`ValueError`. -/
def int16 (s : Bytes) : Except Exc Int :=
  let t := ((s.dropWhile isSpace).reverse.dropWhile isSpace).reverse
  let r : Option Int :=
    match t with
    | 43 :: u => (readHexBody u).map Int.ofNat
    | 45 :: u => (readHexBody u).map fun n => -(n : Int)
    | u => (readHexBody u).map Int.ofNat
  match r with
  | some v => .ok v
  | none => .error .valueError

example : int16 [32, 70, 55, 10] = .ok 0xF7 := by decide
example : int16 [58, 70] = .error .valueError := by decide

/-! ## Hex round trips

What the ASCII framer writes with `b2a_hex`, `'%02x'` and `upper()` it reads
back with `a2b_hex` and `int(..., 16)`. -/

theorem hexVal_upper_hexDigit : ∀ k < 16, hexVal (upperByte (hexDigit k)) = some k := by decide

/-- An uppercase hex digit is none of the framing bytes `':'`, `'\r'`, `'\n'`. -/
theorem upper_hexDigit_ne : ∀ k < 16, upperByte (hexDigit k) ≠ 58 ∧
    upperByte (hexDigit k) ≠ 13 ∧ upperByte (hexDigit k) ≠ 10 := by decide

theorem hexVal_eq_some {b : UInt8} {a : Nat} (h : hexVal b = some a) :
    a < 16 ∧ (48 ≤ b.toNat ∧ b.toNat ≤ 57 ∨ 65 ≤ b.toNat ∧ b.toNat ≤ 70 ∨
      97 ≤ b.toNat ∧ b.toNat ≤ 102) := by
  unfold hexVal at h; split_ifs at h <;> cases h <;> omega

theorem readHex_pair {x y : UInt8} {a b : Nat} (hx : hexVal x = some a) (hy : hexVal y = some b) :
    readHex true 0 [x, y] = some (a * 16 + b) := by
  simp [readHex, hx, hy]

/-- `int(s, 16)` reads two hex digits as their value. -/
theorem int16_pair {x y : UInt8} {a b : Nat} (hx : hexVal x = some a) (hy : hexVal y = some b) :
    int16 [x, y] = .ok ((a * 16 + b : Nat) : Int) := by
  obtain ⟨-, hx'⟩ := hexVal_eq_some hx
  obtain ⟨-, hy'⟩ := hexVal_eq_some hy
  have hbody : readHexBody [x, y] = some (a * 16 + b) := by
    unfold readHexBody
    split
    · rename_i x' s h
      simp only [List.cons.injEq] at h
      obtain ⟨rfl, rfl, rfl⟩ := h
      rw [if_neg]
      · exact readHex_pair hx hy
      · simp only [Bool.or_eq_true, decide_eq_true_eq]
        rintro (rfl | rfl) <;> revert hy' <;> decide
    · exact readHex_pair hx hy
  have h43 : x ≠ 43 := by rintro rfl; revert hx'; decide
  have h45 : x ≠ 45 := by rintro rfl; revert hx'; decide
  have ht : ((([x, y].dropWhile isSpace).reverse.dropWhile isSpace).reverse) = [x, y] := by
    have sx : isSpace x = false := by simp [isSpace]; omega
    have sy : isSpace y = false := by simp [isSpace]; omega
    simp [List.dropWhile, sx, sy]
  simp only [int16, ht]
  split <;> rename_i h
  · split at h <;> simp_all
  · split at h <;> simp_all

theorem upper_hex2 (n : Nat) :
    upper (hex2 n) = [upperByte (hexDigit (n / 16)), upperByte (hexDigit (n % 16))] := rfl

/-- `'%02x' % n`, uppercased, is read back by `int(..., 16)`. -/
theorem int16_upper_hex2 {n : Nat} (h : n < 256) : int16 (upper (hex2 n)) = .ok n := by
  rw [upper_hex2, int16_pair (hexVal_upper_hexDigit _ (by omega)) (hexVal_upper_hexDigit _ (by omega))]
  congr 2
  omega

@[simp] theorem length_b2aHex (d : Bytes) : (b2aHex d).length = 2 * d.length := by
  induction d with
  | nil => rfl
  | cons b d ih => simp [b2aHex, hex2, ih]; omega

@[simp] theorem length_upper (s : Bytes) : (upper s).length = s.length := List.length_map _ _

theorem upper_append (a b : Bytes) : upper (a ++ b) = upper a ++ upper b := List.map_append _ _ _

theorem b2aHex_append (a b : Bytes) : b2aHex (a ++ b) = b2aHex a ++ b2aHex b := by
  induction a with
  | nil => rfl
  | cons x a ih => simp [b2aHex, ih]

/-- `a2b_hex` undoes `b2a_hex`, also after `upper()`. -/
theorem a2bHex_upper_b2aHex (d : Bytes) : a2bHex (upper (b2aHex d)) = .ok d := by
  induction d with
  | nil => rfl
  | cons b d ih =>
    have hb := b.toNat_lt
    rw [b2aHex, upper, List.map_append, ← upper, ← upper, upper_hex2, List.cons_append,
      List.cons_append, List.nil_append, a2bHex, hexVal_upper_hexDigit _ (by omega),
      hexVal_upper_hexDigit _ (by omega), ih]
    simp [Except.map, show b.toNat / 16 * 16 + b.toNat % 16 = b.toNat by omega]

/-- Every byte of uppercased hex text is an uppercase hex digit. -/
theorem mem_upper_b2aHex {c : UInt8} {d : Bytes} (h : c ∈ upper (b2aHex d)) :
    ∃ k < 16, c = upperByte (hexDigit k) := by
  induction d with
  | nil => simp [b2aHex, upper] at h
  | cons b d ih =>
    rw [b2aHex, upper, List.map_append, ← upper, ← upper, upper_hex2] at h
    rcases List.mem_append.mp h with h | h
    · simp only [List.mem_cons, List.mem_singleton, List.not_mem_nil, or_false] at h
      rcases h with rfl | rfl
      · exact ⟨_, by have := b.toNat_lt; omega, rfl⟩
      · exact ⟨_, Nat.mod_lt _ (by decide), rfl⟩
    · exact ih h

end Bytes

end Modbus
