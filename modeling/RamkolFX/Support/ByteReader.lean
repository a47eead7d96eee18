import RamkolFX.Support.BigEndian
import Mathlib.Data.List.OfFn
import Mathlib.Data.List.Infix
import Mathlib.Data.Fin.SuccPred

/-!
# Checked reads from a byte buffer

A decoder receives a buffer and may index only inside it.  Every access is
checked: a read outside the buffer is a `Fault`, which is kept apart from a
decoder that looks at the bytes it has and rejects them (`none`).

An `OffsetReader` reads one value at an offset and reports the offset after
it.  `Reads d xs a` says that `d` reads exactly the bytes `xs` as `a` wherever
they stand, and rejects every proper prefix of them at the end of a buffer.
The two halves are closed under sequencing and counted repetition, so a
layout built from such readers has neither junk nor truncation.  `Spells` is
the converse: what a reader accepts stands in the buffer as it is encoded.
-/

namespace Support

/-- An access outside the bytes a decoder was handed. -/
inductive Fault
  | outOfBounds (index : ℕ)
  deriving DecidableEq, Repr

/-- The result of a computation whose buffer accesses are checked. -/
abbrev Checked (α : Type*) := Except Fault α

instance {α : Type*} [DecidableEq α] : DecidableEq (Checked α)
  | .ok a, .ok b => decidable_of_iff (a = b) (by simp)
  | .error a, .error b => decidable_of_iff (a = b) (by simp)
  | .ok _, .error _ => isFalse (by simp)
  | .error _, .ok _ => isFalse (by simp)

@[simp] theorem ok_bind {α β : Type} (a : α) (f : α → Checked β) :
    ((Except.ok a : Checked α) >>= f) = f a := rfl

theorem exists_of_bind_eq_ok {α β : Type} {x : Checked α} {f : α → Checked β}
    {b : β} (h : (x >>= f) = .ok b) : ∃ a, x = .ok a ∧ f a = .ok b := by
  cases x with
  | ok a => exact ⟨a, rfl, h⟩
  | error fault => cases h

@[simp] theorem pure_eq_ok {α : Type} (a : α) :
    (pure a : Checked α) = .ok a := rfl

@[simp] theorem map_ok {α β : Type} (f : α → β) (a : α) :
    f <$> (Except.ok a : Checked α) = .ok (f a) := rfl

/-- The byte at index `i`. -/
def byteAt (payload : List UInt8) (i : ℕ) : Checked UInt8 :=
  match payload[i]? with
  | some b => .ok b
  | none => .error (.outOfBounds i)

/-- The `len` bytes from index `i` on. -/
def bytesAt (payload : List UInt8) (i len : ℕ) : Checked (List UInt8) :=
  if i + len ≤ payload.length then .ok ((payload.drop i).take len)
  else .error (.outOfBounds payload.length)

/-- The big-endian 32-bit word at index `i`. -/
def uint32At (payload : List UInt8) (i : ℕ) : Checked UInt32 := do
  let b₀ ← byteAt payload i
  let b₁ ← byteAt payload (i + 1)
  let b₂ ← byteAt payload (i + 2)
  let b₃ ← byteAt payload (i + 3)
  return uint32OfBytes b₀ b₁ b₂ b₃

/-- The big-endian 16-bit word at index `i`. -/
def uint16At (payload : List UInt8) (i : ℕ) : Checked UInt16 := do
  let hi ← byteAt payload i
  let lo ← byteAt payload (i + 1)
  return uint16OfBytes hi lo

/-- The `n` values a loop over `0, ..., n - 1` reads, in order. -/
def readArray {α : Type*} (read : ℕ → Checked α) : (n : ℕ) → Checked (Fin n → α)
  | 0 => .ok Fin.elim0
  | n + 1 => do
      let xs ← readArray read n
      let x ← read n
      return Fin.snoc xs x

theorem byteAt_of_lt {payload : List UInt8} {i : ℕ} (h : i < payload.length) :
    byteAt payload i = .ok payload[i] := by
  simp [byteAt, h]

theorem byteAt_eq_ok_iff {payload : List UInt8} {i : ℕ} {b : UInt8} :
    byteAt payload i = .ok b ↔ payload[i]? = some b := by
  unfold byteAt
  cases payload[i]? <;> simp

theorem byteAt_append
    (before xs : List UInt8) (k : ℕ) {b : UInt8} (h : xs[k]? = some b) :
    byteAt (before ++ xs) (before.length + k) = .ok b := by
  rw [byteAt_eq_ok_iff, List.getElem?_append_right (Nat.le_add_right _ _),
    Nat.add_sub_cancel_left, h]

theorem byteAt_at
    {payload before after : List UInt8} {i : ℕ} {b : UInt8}
    (hpayload : payload = before ++ (b :: after)) (hi : i = before.length) :
    byteAt payload i = .ok b := by
  subst hpayload hi
  exact byteAt_append before (b :: after) 0 rfl

@[simp] theorem byteAt_cons_zero (b : UInt8) (bs : List UInt8) :
    byteAt (b :: bs) 0 = .ok b := rfl

theorem uint16At_append (before after : List UInt8) (w : UInt16) :
    uint16At (before ++ (bytesOfUInt16 w ++ after)) before.length = .ok w := by
  have hhi := byteAt_append before (bytesOfUInt16 w ++ after) 0 rfl
  have hlo := byteAt_append before (bytesOfUInt16 w ++ after) 1 rfl
  rw [Nat.add_zero] at hhi
  simp only [uint16At, hhi, hlo]
  exact congrArg Except.ok (uint16OfBytes_bytes w)

theorem uint32At_append (before after : List UInt8) (w : UInt32) :
    uint32At (before ++ (bytesOfUInt32 w ++ after)) before.length = .ok w := by
  have h₀ := byteAt_append before (bytesOfUInt32 w ++ after) 0 rfl
  have h₁ := byteAt_append before (bytesOfUInt32 w ++ after) 1 rfl
  have h₂ := byteAt_append before (bytesOfUInt32 w ++ after) 2 rfl
  have h₃ := byteAt_append before (bytesOfUInt32 w ++ after) 3 rfl
  rw [Nat.add_zero] at h₀
  simp only [uint32At, h₀, h₁, h₂, h₃]
  exact congrArg Except.ok (uint32OfBytes_bytes w)

theorem bytesAt_append (before xs after : List UInt8) :
    bytesAt (before ++ (xs ++ after)) before.length xs.length = .ok xs := by
  simp [bytesAt]

/-- A loop whose every read succeeds returns the values read. -/
theorem readArray_eq_ok {α : Type*} {read : ℕ → Checked α} {n : ℕ}
    {xs : Fin n → α} (h : ∀ i : Fin n, read i = .ok (xs i)) :
    readArray read n = .ok xs := by
  induction n with
  | zero => exact congrArg Except.ok (Subsingleton.elim _ _)
  | succ n ih =>
      have hinit : readArray read n = .ok (Fin.init xs) :=
        ih fun i => h i.castSucc
      have hlast : read n = .ok (xs (Fin.last n)) := h (Fin.last n)
      simp only [readArray, hinit, hlast]
      exact congrArg Except.ok (Fin.snoc_init_self xs)

/-- The values that a loop has returned are the ones read. -/
theorem read_of_readArray_eq_ok {α : Type} {read : ℕ → Checked α} {n : ℕ}
    {xs : Fin n → α} (h : readArray read n = .ok xs) (i : Fin n) :
    read i = .ok (xs i) := by
  induction n with
  | zero => exact i.elim0
  | succ n ih =>
      obtain ⟨front, hfront, h⟩ := exists_of_bind_eq_ok h
      obtain ⟨last, hlast, h⟩ := exists_of_bind_eq_ok h
      obtain rfl := Except.ok.inj h
      cases i using Fin.lastCases with
      | last => rw [Fin.snoc_last, Fin.val_last, hlast]
      | cast i => rw [Fin.snoc_castSucc, Fin.val_castSucc, ih hfront i]

theorem length_flatMap_of_size {α : Type} {enc : α → List UInt8} {size : ℕ}
    (hsize : ∀ a, (enc a).length = size) (as : List α) :
    (as.flatMap enc).length = size * as.length := by
  induction as with
  | nil => rfl
  | cons a as ih =>
      rw [List.flatMap_cons, List.length_append, hsize, ih, List.length_cons,
        Nat.mul_succ, Nat.add_comm]

/-- Values of one size written one after the other are read back by a loop
over their offsets. -/
theorem readArray_at {α : Type} {enc : α → List UInt8} {size : ℕ}
    {read : List UInt8 → ℕ → Checked α}
    (hsize : ∀ a, (enc a).length = size)
    (hread : ∀ before a after,
      read (before ++ (enc a ++ after)) before.length = .ok a)
    {n start : ℕ} {xs : Fin n → α} {payload : List UInt8}
    (before after : List UInt8)
    (hpayload : payload = before ++ ((List.ofFn xs).flatMap enc ++ after))
    (hstart : start = before.length) :
    readArray (fun i => read payload (start + size * i)) n = .ok xs := by
  refine readArray_eq_ok fun i => ?_
  have hi : (i : ℕ) < (List.ofFn xs).length := by simp
  have hfront : (((List.ofFn xs).take i).flatMap enc).length = size * i := by
    rw [length_flatMap_of_size hsize, List.length_take, Nat.min_eq_left hi.le]
  have hsplit : (List.ofFn xs).flatMap enc =
      ((List.ofFn xs).take i).flatMap enc ++
        (enc (xs i) ++ ((List.ofFn xs).drop (i + 1)).flatMap enc) := by
    conv_lhs => rw [← List.take_append_drop i (List.ofFn xs)]
    rw [List.flatMap_append, List.drop_eq_getElem_cons hi, List.flatMap_cons,
      List.getElem_ofFn]
  have hentry := hread (before ++ ((List.ofFn xs).take i).flatMap enc) (xs i)
    (((List.ofFn xs).drop (i + 1)).flatMap enc ++ after)
  rw [List.length_append, hfront] at hentry
  rw [hpayload, hstart, hsplit]
  simpa only [List.append_assoc] using hentry

/-- A loop that appends the encodings of its values. -/
theorem foldl_append_flatMap {α : Type} {append : List UInt8 → α → List UInt8}
    {enc : α → List UInt8} (h : ∀ out a, append out a = out ++ enc a)
    (as : List α) (out : List UInt8) :
    as.foldl append out = out ++ as.flatMap enc := by
  induction as generalizing out with
  | nil => simp
  | cons a as ih => rw [List.foldl_cons, ih, h, List.flatMap_cons, List.append_assoc]

/-! ## Computations that stay inside the buffer -/

/-- The computation makes no access outside its buffer, and its result
satisfies `P`. -/
def Yields {α : Type} (x : Checked α) (P : α → Prop) : Prop :=
  ∃ a, x = .ok a ∧ P a

section

variable {α β : Type} {P : α → Prop} {Q : β → Prop}

theorem Yields.pure {a : α} (h : P a) : Yields (pure a) P := ⟨a, rfl, h⟩

theorem Yields.bind {x : Checked α} {f : α → Checked β}
    (hx : Yields x P) (hf : ∀ a, P a → Yields (f a) Q) :
    Yields (x >>= f) Q := by
  obtain ⟨a, rfl, ha⟩ := hx
  exact hf a ha

/-- Each branch of a check may use the outcome of the check. -/
theorem Yields.ite {p : Prop} [Decidable p] {x y : Checked α}
    (hx : p → Yields x P) (hy : ¬ p → Yields y P) :
    Yields (if p then x else y) P := by
  by_cases h : p
  · simpa only [if_pos h] using hx h
  · simpa only [if_neg h] using hy h

theorem byteAt_yields {payload : List UInt8} {i : ℕ}
    (h : i < payload.length) :
    Yields (byteAt payload i) fun b => byteAt payload i = .ok b :=
  ⟨payload[i], byteAt_of_lt h, byteAt_of_lt h⟩

theorem bytesAt_yields {payload : List UInt8} {i len : ℕ}
    (h : i + len ≤ payload.length) :
    Yields (bytesAt payload i len) fun bs => bs.length = len := by
  refine ⟨(payload.drop i).take len, if_pos h, ?_⟩
  simp only [List.length_take, List.length_drop]
  omega

theorem uint16At_yields {payload : List UInt8} {i : ℕ}
    (h : i + 2 ≤ payload.length) :
    Yields (uint16At payload i) fun _ => True := by
  refine (byteAt_yields (by omega)).bind fun _ _ => ?_
  refine (byteAt_yields (by omega)).bind fun _ _ => ?_
  exact Yields.pure trivial

theorem uint32At_yields {payload : List UInt8} {i : ℕ}
    (h : i + 4 ≤ payload.length) :
    Yields (uint32At payload i) fun _ => True := by
  refine (byteAt_yields (by omega)).bind fun _ _ => ?_
  refine (byteAt_yields (by omega)).bind fun _ _ => ?_
  refine (byteAt_yields (by omega)).bind fun _ _ => ?_
  refine (byteAt_yields (by omega)).bind fun _ _ => ?_
  exact Yields.pure trivial

/-- A loop all of whose reads stay inside. -/
theorem readArray_yields {read : ℕ → Checked α} {n : ℕ}
    (h : ∀ i < n, Yields (read i) fun _ => True) :
    Yields (readArray read n) fun _ => True := by
  induction n with
  | zero => exact ⟨Fin.elim0, rfl, trivial⟩
  | succ n ih =>
      refine (ih fun i hi => h i (by omega)).bind fun xs _ => ?_
      exact (h n (by omega)).bind fun x _ => Yields.pure trivial

end

/-! ## What a successful read says of the buffer -/

section

variable {payload : List UInt8} {i : ℕ}

/-- Bytes that follow each other in the buffer. -/
theorem prefix_drop_append {xs ys : List UInt8} {j : ℕ}
    (hxs : xs <+: payload.drop i) (hj : j = i + xs.length)
    (hys : ys <+: payload.drop j) : xs ++ ys <+: payload.drop i := by
  obtain ⟨tail, htail⟩ := hxs
  have hdrop : payload.drop j = tail := by
    rw [hj, ← List.drop_drop, ← htail, List.drop_left]
  rw [hdrop] at hys
  rw [← htail]
  exact (List.prefix_append_right_inj xs).mpr hys

theorem prefix_of_byteAt {b : UInt8} (h : byteAt payload i = .ok b) :
    [b] <+: payload.drop i := by
  obtain ⟨hlt, hget⟩ := List.getElem?_eq_some_iff.mp (byteAt_eq_ok_iff.mp h)
  rw [List.drop_eq_getElem_cons hlt, hget]
  exact ⟨payload.drop (i + 1), rfl⟩

theorem prefix_of_uint16At {w : UInt16} (h : uint16At payload i = .ok w) :
    bytesOfUInt16 w <+: payload.drop i := by
  obtain ⟨hi, hhi, h⟩ := exists_of_bind_eq_ok h
  obtain ⟨lo, hlo, h⟩ := exists_of_bind_eq_ok h
  obtain rfl := Except.ok.inj h
  rw [bytesOfUInt16_uint16OfBytes]
  exact prefix_drop_append (prefix_of_byteAt hhi) rfl (prefix_of_byteAt hlo)

theorem prefix_of_uint32At {w : UInt32} (h : uint32At payload i = .ok w) :
    bytesOfUInt32 w <+: payload.drop i := by
  obtain ⟨b₀, h₀, h⟩ := exists_of_bind_eq_ok h
  obtain ⟨b₁, h₁, h⟩ := exists_of_bind_eq_ok h
  obtain ⟨b₂, h₂, h⟩ := exists_of_bind_eq_ok h
  obtain ⟨b₃, h₃, h⟩ := exists_of_bind_eq_ok h
  obtain rfl := Except.ok.inj h
  rw [bytesOfUInt32_uint32OfBytes]
  have h₂₃ : [b₂] ++ [b₃] <+: payload.drop (i + 2) :=
    prefix_drop_append (prefix_of_byteAt h₂) rfl (prefix_of_byteAt h₃)
  have h₁₂₃ : [b₁] ++ [b₂, b₃] <+: payload.drop (i + 1) :=
    prefix_drop_append (prefix_of_byteAt h₁) rfl h₂₃
  exact prefix_drop_append (prefix_of_byteAt h₀) rfl h₁₂₃

theorem prefix_of_bytesAt {len : ℕ} {bs : List UInt8}
    (h : bytesAt payload i len = .ok bs) :
    bs.length = len ∧ bs <+: payload.drop i := by
  rw [bytesAt] at h
  split at h
  · obtain rfl := Except.ok.inj h
    refine ⟨?_, List.take_prefix _ _⟩
    rw [List.length_take, List.length_drop]
    omega
  · cases h

/-- A loop over values of one size read their bytes one after the other. -/
theorem prefix_of_readArray {α : Type} {enc : α → List UInt8} {size : ℕ}
    {read : ℕ → Checked α} (hsize : ∀ a, (enc a).length = size) {n : ℕ}
    (hread : ∀ k < n, ∀ a, read k = .ok a →
      enc a <+: payload.drop (i + size * k))
    {xs : Fin n → α} (h : readArray read n = .ok xs) :
    (List.ofFn xs).flatMap enc <+: payload.drop i := by
  induction n with
  | zero => exact List.nil_prefix
  | succ n ih =>
      obtain ⟨front, hfront, h⟩ := exists_of_bind_eq_ok h
      obtain ⟨last, hlast, h⟩ := exists_of_bind_eq_ok h
      obtain rfl := Except.ok.inj h
      have hentries : (List.ofFn (Fin.snoc front last : Fin (n + 1) → α)).flatMap
          enc = (List.ofFn front).flatMap enc ++ enc last := by
        rw [List.ofFn_succ_last, List.flatMap_append]
        simp [Fin.snoc_castSucc, Fin.snoc_last]
      rw [hentries]
      refine prefix_drop_append (j := i + size * n)
        (ih (fun k hk => hread k (by omega)) hfront) ?_
        (hread n (by omega) last hlast)
      rw [length_flatMap_of_size hsize, List.length_ofFn]

end

/-! ## Readers at an offset -/

/-- Reads one value at an offset and reports the offset after it; `none` when
the remaining bytes do not hold such a value. -/
def OffsetReader (α : Type) : Type :=
  List UInt8 → ℕ → Checked (Option (α × ℕ))

namespace OffsetReader

variable {α β : Type}

/-- Read nothing and return `a`. -/
def succeed (a : α) : OffsetReader α :=
  fun _ offset => .ok (some (a, offset))

/-- Read a value, then go on behind it as `f` says. -/
def andThen (d : OffsetReader α) (f : α → OffsetReader β) : OffsetReader β :=
  fun payload offset =>
    match d payload offset with
    | .error e => .error e
    | .ok none => .ok none
    | .ok (some (a, offset)) => f a payload offset

instance : Monad OffsetReader where
  pure := succeed
  bind := andThen

/-- Read `n` values one after the other. -/
def times (d : OffsetReader α) : ℕ → OffsetReader (List α)
  | 0 => pure []
  | n + 1 => do
      let a ← d
      let as ← times d n
      return a :: as

/-- `d` makes no access outside the buffer, and ends inside it. -/
def StaysInside (d : OffsetReader α) : Prop :=
  ∀ payload offset, offset ≤ payload.length →
    Yields (d payload offset) fun result =>
      ∀ a next, result = some (a, next) → next ≤ payload.length

theorem StaysInside.pure (a : α) : StaysInside (pure a) := by
  intro payload offset h
  refine Yields.pure ?_
  rintro a next ⟨⟩
  exact h

theorem StaysInside.bind {d : OffsetReader α} {f : α → OffsetReader β}
    (hd : StaysInside d) (hf : ∀ a, StaysInside (f a)) :
    StaysInside (d >>= f) := by
  intro payload offset h
  obtain ⟨result, hread, hinside⟩ := hd payload offset h
  change Yields (andThen d f payload offset) _
  rw [andThen, hread]
  cases result with
  | none => exact Yields.pure (by simp)
  | some found => exact hf found.1 payload found.2 (hinside _ _ rfl)

theorem StaysInside.times {d : OffsetReader α} (hd : StaysInside d) (n : ℕ) :
    StaysInside (d.times n) := by
  induction n with
  | zero => exact StaysInside.pure []
  | succ n ih =>
      exact hd.bind fun a => ih.bind fun as => StaysInside.pure (a :: as)

/-- What `d` reads satisfies `P`, and the bytes read are the ones `enc` gives
for it. -/
def Spells (d : OffsetReader α) (enc : α → List UInt8) (P : α → Prop) : Prop :=
  ∀ payload offset a next, d payload offset = .ok (some (a, next)) →
    P a ∧ next = offset + (enc a).length ∧ enc a <+: payload.drop offset

theorem Spells.pair {γ : Type} {d₁ : OffsetReader α} {d₂ : OffsetReader β}
    {enc₁ : α → List UInt8} {enc₂ : β → List UInt8} {enc : γ → List UInt8}
    {P₁ : α → Prop} {P₂ : β → Prop} {P : γ → Prop} {make : α → β → γ}
    (h₁ : Spells d₁ enc₁ P₁) (h₂ : Spells d₂ enc₂ P₂)
    (henc : ∀ a b, enc (make a b) = enc₁ a ++ enc₂ b)
    (hP : ∀ a b, P₁ a → P₂ b → P (make a b)) :
    Spells (do let a ← d₁; let b ← d₂; return make a b) enc P := by
  intro payload offset c next h
  change andThen d₁ (fun a => andThen d₂ fun b => succeed (make a b))
    payload offset = _ at h
  cases hd₁ : d₁ payload offset with
  | error fault => simp [andThen, hd₁] at h
  | ok result =>
      cases result with
      | none => simp [andThen, hd₁] at h
      | some found =>
          obtain ⟨a, middle⟩ := found
          cases hd₂ : d₂ payload middle with
          | error fault => simp [andThen, hd₁, hd₂] at h
          | ok result =>
              cases result with
              | none => simp [andThen, hd₁, hd₂] at h
              | some found =>
                  obtain ⟨b, after⟩ := found
                  simp only [andThen, hd₁, hd₂, succeed, Except.ok.injEq,
                    Option.some.injEq, Prod.mk.injEq] at h
                  obtain ⟨rfl, rfl⟩ := h
                  obtain ⟨ha, rfl, hxs⟩ := h₁ _ _ _ _ hd₁
                  obtain ⟨hb, rfl, hys⟩ := h₂ _ _ _ _ hd₂
                  refine ⟨hP a b ha hb, ?_, ?_⟩
                  · rw [henc, List.length_append, Nat.add_assoc]
                  · rw [henc]
                    exact prefix_drop_append hxs rfl hys

/-- Counted repetition reads the concatenated encodings. -/
theorem Spells.times {d : OffsetReader α} {enc : α → List UInt8}
    {P : α → Prop} (h : Spells d enc P) (n : ℕ) :
    Spells (d.times n) (fun as => as.flatMap enc)
      fun as => as.length = n ∧ ∀ a ∈ as, P a := by
  induction n with
  | zero =>
      intro payload offset as next hread
      obtain ⟨rfl, rfl⟩ := Prod.mk.inj (Option.some.inj (Except.ok.inj hread))
      exact ⟨⟨rfl, by simp⟩, rfl, List.nil_prefix⟩
  | succ n ih =>
      have happend : ∀ (a : α) (as : List α),
          (a :: as).flatMap enc = enc a ++ as.flatMap enc :=
        fun a as => List.flatMap_cons
      have hentries : ∀ (a : α) (as : List α), P a →
          (as.length = n ∧ ∀ a ∈ as, P a) →
          (a :: as).length = n + 1 ∧ ∀ a' ∈ a :: as, P a' := by
        rintro a as ha ⟨hlength, has⟩
        exact ⟨congrArg Nat.succ hlength, List.forall_mem_cons.mpr ⟨ha, has⟩⟩
      exact h.pair ih happend hentries

/-- `d` reads exactly the bytes `xs` as `a`: wherever they stand, and no
proper prefix of them at the end of the buffer. -/
structure Reads (d : OffsetReader α) (xs : List UInt8) (a : α) : Prop where
  complete : ∀ before after,
    d (before ++ (xs ++ after)) before.length =
      .ok (some (a, before.length + xs.length))
  truncated : ∀ before part, part <+: xs → part ≠ xs →
    d (before ++ part) before.length = .ok none

/-- A proper prefix of a concatenation stops inside the first part or inside
the second. -/
theorem properPrefix_append_cases {part xs ys : List UInt8}
    (hpre : part <+: xs ++ ys) (hne : part ≠ xs ++ ys) :
    (part <+: xs ∧ part ≠ xs) ∨
      ∃ rest, part = xs ++ rest ∧ rest <+: ys ∧ rest ≠ ys := by
  rcases List.prefix_or_prefix_of_prefix hpre (List.prefix_append xs ys) with h | h
  · by_cases heq : part = xs
    · refine Or.inr ⟨[], by simp [heq], List.nil_prefix, ?_⟩
      rintro rfl
      simp [heq] at hne
    · exact Or.inl ⟨h, heq⟩
  · obtain ⟨rest, rfl⟩ := h
    refine Or.inr ⟨rest, rfl, (List.prefix_append_right_inj xs).mp hpre, ?_⟩
    rintro rfl
    exact hne rfl

theorem Reads.pure (a : α) : Reads (pure a) [] a := by
  constructor
  · intro before after
    rfl
  · intro before part hpre hne
    exact absurd (List.prefix_nil.mp hpre) hne

theorem Reads.bind {d : OffsetReader α} {f : α → OffsetReader β}
    {xs ys : List UInt8} {a : α} {b : β}
    (hd : Reads d xs a) (hf : Reads (f a) ys b) :
    Reads (d >>= f) (xs ++ ys) b := by
  constructor
  · intro before after
    have hfirst := hd.complete before (ys ++ after)
    have hsecond := hf.complete (before ++ xs) after
    simp only [List.append_assoc, List.length_append] at hsecond ⊢
    change andThen d f _ _ = _
    simp only [andThen, hfirst, hsecond, Nat.add_assoc]
  · intro before part hpre hne
    change andThen d f _ _ = _
    rcases properPrefix_append_cases hpre hne with ⟨h, hne⟩ | ⟨rest, rfl, h, hne⟩
    · simp only [andThen, hd.truncated before part h hne]
    · have hfirst := hd.complete before rest
      have hsecond := hf.truncated (before ++ xs) rest h hne
      simp only [List.append_assoc, List.length_append] at hsecond
      simp only [andThen, hfirst, hsecond]

/-- Counted repetition reads the concatenated encodings. -/
theorem Reads.times {d : OffsetReader α} {enc : α → List UInt8} {as : List α}
    (h : ∀ a ∈ as, Reads d (enc a) a) :
    Reads (d.times as.length) (as.flatMap enc) as := by
  induction as with
  | nil => exact Reads.pure []
  | cons a as ih =>
      have htail : Reads (d.times as.length) (as.flatMap enc) as :=
        ih fun b hb => h b (by simp [hb])
      have hcons : Reads (do let as ← d.times as.length; return a :: as)
          (as.flatMap enc ++ []) (a :: as) :=
        htail.bind (Reads.pure (a :: as))
      rw [List.append_nil] at hcons
      rw [List.flatMap_cons]
      exact (h a (by simp)).bind hcons

end OffsetReader

end Support
