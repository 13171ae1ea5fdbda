/-
The BARE message encoding: codecs for its types, each with the law that
what was written reads back, whatever follows it.

A message is described by putting codecs together: a struct is a `pair`
after another, a union the index of the member and the member's own
encoding (`union`), and `map` carries a codec over to the program's own
types.
-/
import RivetKit.Lib.Js
import Mathlib.Algebra.Order.Ring.Nat

namespace Bare

/-- A way to write values of `α`, and to read one from the head of a
stream of bytes. -/
structure Codec (α : Type) where
  encode : α → List UInt8
  decode : List UInt8 → Option (α × List UInt8)
  decode_encode : ∀ x rest, decode (encode x ++ rest) = some (x, rest)

-- =============================================================== integers

/-- The bytes of a `uint`, seven bits at a time. The fuel is at least the
number. -/
def uintBytes : Nat → Nat → List UInt8
  | 0, n => [UInt8.ofNat n]
  | f + 1, n =>
      if n < 128 then [UInt8.ofNat n]
      else UInt8.ofNat (n % 128 + 128) :: uintBytes f (n / 128)

/-- Read a `uint`. -/
def readUint : List UInt8 → Option (Nat × List UInt8)
  | [] => none
  | b :: bs =>
      if b.toNat < 128 then some (b.toNat, bs)
      else
        match readUint bs with
        | some (n, rest) => some (b.toNat - 128 + 128 * n, rest)
        | none => none

theorem readUint_uintBytes (f : Nat) :
    ∀ (n : Nat) (rest : List UInt8), n ≤ f →
      readUint (uintBytes f n ++ rest) = some (n, rest) := by
  induction f with
  | zero =>
      intro n rest hn
      have hzero : n = 0 := by omega
      subst hzero
      rfl
  | succ f ih =>
      intro n rest hn
      unfold uintBytes
      by_cases hsmall : n < 128
      · rw [if_pos hsmall, List.cons_append, List.nil_append]
        have hb : (UInt8.ofNat n).toNat = n := by
          rw [UInt8.toNat_ofNat']
          omega
        unfold readUint
        rw [hb, if_pos hsmall]
      · rw [if_neg hsmall, List.cons_append]
        have hb : (UInt8.ofNat (n % 128 + 128)).toNat = n % 128 + 128 := by
          rw [UInt8.toNat_ofNat']
          omega
        have hrest := ih (n / 128) rest (by omega)
        unfold readUint
        rw [hb, if_neg (by omega), hrest]
        have hn' : n % 128 + 128 - 128 + 128 * (n / 128) = n := by omega
        simp only [hn']

/-- This many bytes of a number, the lowest first. -/
def littleEndian : Nat → Nat → List UInt8
  | 0, _ => []
  | k + 1, n => UInt8.ofNat n :: littleEndian k (n / 256)

/-- Read a number of this many bytes. -/
def readLittleEndian : Nat → List UInt8 → Option (Nat × List UInt8)
  | 0, bs => some (0, bs)
  | _ + 1, [] => none
  | k + 1, b :: bs =>
      match readLittleEndian k bs with
      | some (n, rest) => some (b.toNat + 256 * n, rest)
      | none => none

theorem readLittleEndian_littleEndian (k : Nat) :
    ∀ (n : Nat) (rest : List UInt8), n < 256 ^ k →
      readLittleEndian k (littleEndian k n ++ rest) = some (n, rest) := by
  induction k with
  | zero =>
      intro n rest hn
      have hzero : n = 0 := by omega
      rw [hzero]
      rfl
  | succ k ih =>
      intro n rest hn
      have hrest := ih (n / 256) rest (by
        rw [Nat.pow_succ] at hn
        exact Nat.div_lt_of_lt_mul (by omega))
      have hb : (UInt8.ofNat n).toNat = n % 256 := UInt8.toNat_ofNat'
      have hn' : n % 256 + 256 * (n / 256) = n := by omega
      unfold littleEndian readLittleEndian
      rw [List.cons_append]
      dsimp only
      rw [hrest, hb]
      simp only [hn']

namespace Codec

variable {α β : Type}

/-- `u64`. -/
def u64 : Codec UInt64 where
  encode n := littleEndian 8 n.toNat
  decode bs :=
    match readLittleEndian 8 bs with
    | some (n, rest) => some (UInt64.ofNat n, rest)
    | none => none
  decode_encode n rest := by
    rw [readLittleEndian_littleEndian 8 _ _ n.toNat_lt]
    dsimp only
    rw [UInt64.ofNat_toNat]

/-- `uint`. -/
def uint : Codec Nat where
  encode n := uintBytes n n
  decode := readUint
  decode_encode n rest := readUint_uintBytes n n rest (Nat.le_refl n)

/-- `bool`. -/
def bool : Codec Bool where
  encode
    | false => [0]
    | true => [1]
  decode
    | 0 :: rest => some (false, rest)
    | 1 :: rest => some (true, rest)
    | _ => none
  decode_encode b rest := by
    cases b with
    | false => rfl
    | true => rfl

-- ======================================================= bytes and strings

/-- Read this many bytes behind their count. -/
def readData (bs : List UInt8) : Option (List UInt8 × List UInt8) :=
  match uint.decode bs with
  | some (n, rest) =>
      if n ≤ rest.length then some (rest.take n, rest.drop n) else none
  | none => none

/-- `data`. -/
def data : Codec (List UInt8) where
  encode bytes := uint.encode bytes.length ++ bytes
  decode := readData
  decode_encode bytes rest := by
    unfold readData
    rw [List.append_assoc, uint.decode_encode]
    dsimp only
    rw [if_pos (by rw [List.length_append]; omega), List.take_left,
      List.drop_left]

/-- The UTF-8 bytes of a string. -/
def utf8 (s : List Char) : List UInt8 := s.flatMap String.utf8EncodeChar

/-- Read UTF-8. The fuel is at least the number of bytes. -/
def readUtf8 : Nat → List UInt8 → Option (List Char)
  | _, [] => some []
  | 0, _ => none
  | f + 1, b :: bs =>
      match ByteArray.utf8DecodeChar? (b :: bs).toByteArray 0 with
      | some c =>
          match readUtf8 f ((b :: bs).drop c.utf8Size) with
          | some cs => some (c :: cs)
          | none => none
      | none => none

theorem readUtf8_utf8 (s : List Char) :
    ∀ f : Nat, (utf8 s).length ≤ f → readUtf8 f (utf8 s) = some s := by
  induction s with
  | nil =>
      intro f _
      cases f <;> rfl
  | cons c s ih =>
      intro f hf
      have hsize := String.length_utf8EncodeChar c
      have hpos := Char.utf8Size_pos c
      have hbytes : utf8 (c :: s) = String.utf8EncodeChar c ++ utf8 s :=
        List.flatMap_cons
      have hchar : ByteArray.utf8DecodeChar?
          (String.utf8EncodeChar c ++ utf8 s).toByteArray 0 = some c := by
        rw [List.toByteArray_append]
        exact ByteArray.utf8DecodeChar?_utf8EncodeChar_append
      rw [hbytes, List.length_append] at hf
      obtain ⟨f, rfl⟩ := Nat.exists_eq_succ_of_ne_zero (by omega : f ≠ 0)
      have htail := ih f (by omega)
      rw [hbytes]
      cases hcons : String.utf8EncodeChar c ++ utf8 s with
      | nil =>
          have hlen := congrArg List.length hcons
          rw [List.length_append, List.length_nil] at hlen
          omega
      | cons b bs =>
          unfold readUtf8
          rw [← hcons, hchar]
          dsimp only
          rw [← hsize, List.drop_left, htail]

/-- `str`. -/
def str : Codec String where
  encode s := data.encode (utf8 s.toList)
  decode bs :=
    match data.decode bs with
    | some (bytes, rest) =>
        match readUtf8 bytes.length bytes with
        | some s => some (String.ofList s, rest)
        | none => none
    | none => none
  decode_encode s rest := by
    rw [data.decode_encode]
    dsimp only
    rw [readUtf8_utf8 _ _ (Nat.le_refl _)]
    dsimp only
    rw [String.ofList_toList]

-- ====================================================== composite types

/-- `optional`. -/
def optional (c : Codec α) : Codec (Option α) where
  encode
    | none => [0]
    | some x => 1 :: c.encode x
  decode
    | 0 :: rest => some (none, rest)
    | 1 :: rest =>
        match c.decode rest with
        | some (x, rest) => some (some x, rest)
        | none => none
    | _ => none
  decode_encode o rest := by
    cases o with
    | none => rfl
    | some x =>
        show (match c.decode (c.encode x ++ rest) with
          | some (x, rest) => some (some x, rest)
          | none => none) = _
        rw [c.decode_encode]

/-- Read this many elements. -/
def readList (c : Codec α) : Nat → List UInt8 →
    Option (List α × List UInt8)
  | 0, bs => some ([], bs)
  | n + 1, bs =>
      match c.decode bs with
      | some (x, bs) =>
          match readList c n bs with
          | some (xs, rest) => some (x :: xs, rest)
          | none => none
      | none => none

theorem readList_encode (c : Codec α) (xs : List α) (rest : List UInt8) :
    readList c xs.length (xs.flatMap c.encode ++ rest) = some (xs, rest) := by
  induction xs with
  | nil => rfl
  | cons x xs ih =>
      rw [List.flatMap_cons, List.append_assoc, List.length_cons]
      unfold readList
      rw [c.decode_encode]
      dsimp only
      rw [ih]

/-- `list`. -/
def list (c : Codec α) : Codec (List α) where
  encode xs := uint.encode xs.length ++ xs.flatMap c.encode
  decode bs :=
    match uint.decode bs with
    | some (n, bs) => readList c n bs
    | none => none
  decode_encode xs rest := by
    rw [List.append_assoc, uint.decode_encode]
    dsimp only
    rw [readList_encode]

/-- Two fields of a struct. -/
def pair (c : Codec α) (d : Codec β) : Codec (α × β) where
  encode x := c.encode x.1 ++ d.encode x.2
  decode bs :=
    match c.decode bs with
    | some (x, bs) =>
        match d.decode bs with
        | some (y, bs) => some ((x, y), bs)
        | none => none
    | none => none
  decode_encode x rest := by
    rw [List.append_assoc, c.decode_encode]
    dsimp only
    rw [d.decode_encode]

/-- A codec for `β`, written as `α`. -/
def map (c : Codec α) (f : α → β) (g : β → α) (hfg : ∀ y, f (g y) = y) :
    Codec β where
  encode y := c.encode (g y)
  decode bs :=
    match c.decode bs with
    | some (x, bs) => some (f x, bs)
    | none => none
  decode_encode y rest := by
    rw [c.decode_encode]
    dsimp only
    rw [hfg]

/-- The index of a union's member. -/
def index (n : Nat) : Codec (Fin n) where
  encode i := uint.encode i
  decode bs :=
    match uint.decode bs with
    | some (i, rest) => if h : i < n then some (⟨i, h⟩, rest) else none
    | none => none
  decode_encode i rest := by
    rw [uint.decode_encode]
    dsimp only
    rw [dif_pos i.isLt]

/-- A union of `n` members. -/
def union {n : Nat} {F : Fin n → Type} (c : (i : Fin n) → Codec (F i)) :
    Codec ((i : Fin n) × F i) where
  encode x := (index n).encode x.1 ++ (c x.1).encode x.2
  decode bs :=
    match (index n).decode bs with
    | some (i, bs) =>
        match (c i).decode bs with
        | some (x, bs) => some (⟨i, x⟩, bs)
        | none => none
    | none => none
  decode_encode x rest := by
    rw [List.append_assoc, (index n).decode_encode]
    dsimp only
    rw [(c x.1).decode_encode]

/-- Read a whole message. -/
def decodeAll (c : Codec α) (bs : List UInt8) : Option α :=
  match c.decode bs with
  | some (x, []) => some x
  | _ => none

theorem decodeAll_encode (c : Codec α) (x : α) :
    c.decodeAll (c.encode x) = some x := by
  have h := c.decode_encode x []
  rw [List.append_nil] at h
  unfold decodeAll
  rw [h]

end Codec

end Bare
