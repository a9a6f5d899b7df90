import Madara.Primitives.Felt
import Mathlib.Tactic.NormNum

/-! The sync crate's conversions of L1 logs (`crates/client/sync/src/utils/utility.rs`).
A `U256` is written as its 32 big-endian bytes and read back as a `StarkFelt`; an
`I256` block number is checked for sign and cut to its low 64 bits. `trim_hash`
slices the hex rendering of a felt and `format_address` an address string; every slice
or `usize` subtraction that panics is `none`. -/
namespace Madara.Sync

/-- `ethers::types::U256`. -/
abbrev U256 := BitVec 256

/-- `ethers::types::I256`, a two's complement word. -/
abbrev I256 := BitVec 256

/-- The low `width` bytes of `x`, most significant first: `U256::to_big_endian` at width 32. -/
def bigEndianBytes : Nat → Nat → List UInt8
  | 0, _ => []
  | width + 1, x => UInt8.ofNat (x / 256 ^ width) :: bigEndianBytes width x

def ofBigEndian : List UInt8 → Nat
  | [] => 0
  | b :: rest => b.toNat * 256 ^ rest.length + ofBigEndian rest

@[simp] theorem bigEndianBytes_length (width x : Nat) : (bigEndianBytes width x).length = width := by
  induction width with
  | zero => rfl
  | succ width ih => simp only [bigEndianBytes, List.length_cons, ih]

theorem toNat_ofNat_byte (n : Nat) : (UInt8.ofNat n).toNat = n % 256 := BitVec.toNat_ofNat n 8

theorem ofBigEndian_bigEndianBytes (width x : Nat) :
    ofBigEndian (bigEndianBytes width x) = x % 256 ^ width := by
  induction width with
  | zero => simp [bigEndianBytes, ofBigEndian, Nat.mod_one]
  | succ width ih =>
    simp only [bigEndianBytes, ofBigEndian, bigEndianBytes_length, ih, toNat_ofNat_byte,
      pow_succ, Nat.mod_mul]
    ring

/-- `starknet_api::hash::StarkFelt`: 32 big-endian bytes. -/
structure StarkFelt where
  bytes : List UInt8
  length_eq : bytes.length = 32

def StarkFelt.value (felt : StarkFelt) : Nat := ofBigEndian felt.bytes

/-- `StarkFelt::new`: accepts the bytes when their most significant nibble is zero. -/
def StarkFelt.new (bytes : List UInt8) (length_eq : bytes.length = 32) : Option StarkFelt :=
  if (bytes.headD 0).toNat < 0x10 then some ⟨bytes, length_eq⟩ else none

def u256ToStarkfelt (u256 : U256) : Except String StarkFelt :=
  match StarkFelt.new (bigEndianBytes 32 u256.toNat) (bigEndianBytes_length 32 _) with
  | some felt => .ok felt
  | none => .error "converting U256 to StarkFelt"

theorem leading_byte_lt_iff (u : U256) :
    ((bigEndianBytes 32 u.toNat).headD 0).toNat < 0x10 ↔ u.toNat < 2 ^ 252 := by
  have bound := u.isLt
  simp only [bigEndianBytes, List.headD_cons, toNat_ofNat_byte]
  rw [Nat.mod_eq_of_lt (Nat.div_lt_of_lt_mul (by omega)), Nat.div_lt_iff_lt_mul (by norm_num)]
  norm_num

theorem u256ToStarkfelt_eq (u : U256) :
    u256ToStarkfelt u =
      if u.toNat < 2 ^ 252 then .ok ⟨bigEndianBytes 32 u.toNat, bigEndianBytes_length 32 _⟩
      else .error "converting U256 to StarkFelt" := by
  unfold u256ToStarkfelt StarkFelt.new
  by_cases small : u.toNat < 2 ^ 252
  · rw [if_pos ((leading_byte_lt_iff u).mpr small), if_pos small]
  · rw [if_neg (mt (leading_byte_lt_iff u).mp small), if_neg small]

theorem u256ToStarkfelt_ok_iff (u : U256) :
    (∃ felt, u256ToStarkfelt u = .ok felt) ↔ u.toNat < 2 ^ 252 := by
  rw [u256ToStarkfelt_eq]
  split <;> simp_all

theorem u256ToStarkfelt_value {u : U256} {felt : StarkFelt} (h : u256ToStarkfelt u = .ok felt) :
    felt.value = u.toNat := by
  rw [u256ToStarkfelt_eq] at h
  split at h
  · cases h
    exact (ofBigEndian_bigEndianBytes 32 _).trans (Nat.mod_eq_of_lt (u.isLt.trans_eq (by norm_num)))
  · cases h

/-- `crate::l1::LogStateUpdate`, a decoded `LogStateUpdate` event of the core contract. -/
structure LogStateUpdate where
  globalRoot : U256
  blockNumber : I256
  blockHash : U256

/-- `crate::l1::L1StateUpdate`. -/
structure L1StateUpdate where
  blockNumber : UInt64
  globalRoot : StarkFelt
  blockHash : StarkFelt

/-- `I256::low_u64`: the low 64 bits of the two's complement word. -/
def lowU64 (x : I256) : UInt64 := UInt64.ofNat x.toNat

def convertLogStateUpdate (logStateUpdate : LogStateUpdate) : Except String L1StateUpdate := do
  let blockNumber ← if 0 ≤ logStateUpdate.blockNumber.toInt then
      pure (lowU64 logStateUpdate.blockNumber)
    else throw "Block number is negative"
  let globalRoot ← u256ToStarkfelt logStateUpdate.globalRoot
  let blockHash ← u256ToStarkfelt logStateUpdate.blockHash
  pure { blockNumber, globalRoot, blockHash }

theorem convertLogStateUpdate_ok_iff_parts (l : LogStateUpdate) (u : L1StateUpdate) :
    convertLogStateUpdate l = .ok u ↔
      0 ≤ l.blockNumber.toInt ∧ u.blockNumber = lowU64 l.blockNumber ∧
      u256ToStarkfelt l.globalRoot = .ok u.globalRoot ∧
      u256ToStarkfelt l.blockHash = .ok u.blockHash := by
  unfold convertLogStateUpdate
  by_cases sign : 0 ≤ l.blockNumber.toInt
  · cases root : u256ToStarkfelt l.globalRoot <;> cases hash : u256ToStarkfelt l.blockHash <;>
      cases u <;> simp [sign, root, hash, bind, Except.bind, pure, Except.pure, eq_comm]
  · simp [sign, bind, Except.bind, throw, throwThe, MonadExceptOf.throw]

theorem convertLogStateUpdate_values {l : LogStateUpdate} {u : L1StateUpdate}
    (h : convertLogStateUpdate l = .ok u) :
    u.blockNumber.toNat = l.blockNumber.toNat % 2 ^ 64 ∧ u.globalRoot.value = l.globalRoot.toNat ∧
      u.blockHash.value = l.blockHash.toNat := by
  obtain ⟨-, number, root, hash⟩ := (convertLogStateUpdate_ok_iff_parts l u).mp h
  exact ⟨number ▸ BitVec.toNat_ofNat _ 64, u256ToStarkfelt_value root, u256ToStarkfelt_value hash⟩

theorem convertLogStateUpdate_values_five :
    (lowU64 5).toNat = (5 : I256).toNat % 2 ^ 64 ∧
      StarkFelt.value ⟨bigEndianBytes 32 0, bigEndianBytes_length 32 0⟩ = (0 : U256).toNat ∧
      StarkFelt.value ⟨bigEndianBytes 32 0, bigEndianBytes_length 32 0⟩ = (0 : U256).toNat :=
  convertLogStateUpdate_values (show convertLogStateUpdate ⟨0, 5, 0⟩ =
    .ok ⟨lowU64 5, ⟨bigEndianBytes 32 0, bigEndianBytes_length 32 0⟩,
      ⟨bigEndianBytes 32 0, bigEndianBytes_length 32 0⟩⟩ from rfl)

theorem convertLogStateUpdate_succeeds_iff (l : LogStateUpdate) :
    (∃ u, convertLogStateUpdate l = .ok u) ↔
      0 ≤ l.blockNumber.toInt ∧ l.globalRoot.toNat < 2 ^ 252 ∧ l.blockHash.toNat < 2 ^ 252 := by
  simp only [convertLogStateUpdate_ok_iff_parts, ← u256ToStarkfelt_ok_iff]
  constructor
  · rintro ⟨u, sign, -, root, hash⟩
    exact ⟨sign, ⟨_, root⟩, ⟨_, hash⟩⟩
  · rintro ⟨sign, ⟨root, hroot⟩, ⟨hash, hhash⟩⟩
    exact ⟨⟨lowU64 l.blockNumber, root, hash⟩, sign, rfl, hroot, hhash⟩

theorem convertLogStateUpdate_wraps_block_number :
    (BitVec.ofNat 256 (2 ^ 64)).toInt = 2 ^ 64 ∧
      ∃ u, convertLogStateUpdate ⟨0, BitVec.ofNat 256 (2 ^ 64), 0⟩ = .ok u ∧
        u.blockNumber = 0 :=
  ⟨by decide, _, rfl, rfl⟩

/-- `&s[..k]`. The strings sliced here are ASCII, so a byte index is a character index;
`none` is the panic of a slice past the end. -/
def sliceTo (s : List Char) (k : Nat) : Option (List Char) :=
  if k ≤ s.length then some (s.take k) else none

/-- `&s[k..]`, as `sliceTo`. -/
def sliceFrom (s : List Char) (k : Nat) : Option (List Char) :=
  if k ≤ s.length then some (s.drop k) else none

/-- `usize` subtraction. Debug builds panic on underflow; in release builds the wrapped
index is past the end of any string, so the slice taking it panics instead. -/
def usizeSub (a b : Nat) : Option Nat :=
  if b ≤ a then some (a - b) else none

def trimHash (hash : Felt) : Option String := do
  let hashStr := hash.formatHex
  let hashLen := hashStr.length
  let pre ← sliceTo hashStr (6 + 2)
  let start ← usizeSub hashLen 6
  let suffix ← sliceFrom hashStr start
  pure (String.mk (pre ++ "...".toList ++ suffix))

theorem trimHash_eq (hash : Felt) :
    trimHash hash = if 16 ^ 5 ≤ hash.val then
      some (String.mk (hash.formatHex.take 8 ++ "...".toList ++
        hash.formatHex.drop (hash.formatHex.length - 6)))
    else none := by
  have digits : 6 ≤ (lowerHex hash.val).length ↔ 16 ^ 5 ≤ hash.val := six_le_lowerHex_length
  by_cases large : 16 ^ 5 ≤ hash.val
  · have long := digits.mpr large
    have four : 4 ≤ (lowerHex hash.val).length := by omega
    have within : (lowerHex hash.val).length ≤ (lowerHex hash.val).length + 2 + 4 := by omega
    rw [if_pos large]
    simp [trimHash, sliceTo, sliceFrom, usizeSub, long, four, within]
  · rw [if_neg large]
    simp [trimHash, sliceTo, mt digits.mp large]

theorem trimHash_isSome_iff (hash : Felt) : (trimHash hash).isSome ↔ 16 ^ 5 ≤ hash.val := by
  rw [trimHash_eq]
  split <;> simp_all

theorem trimHash_zero_panics : trimHash Felt.zero = none := rfl

/-! `format_address` slices a string that may hold any character, so its slices are
taken on the UTF-8 bytes, as Rust takes them. -/

/-- The number of bytes of `s` in UTF-8: `str::len`. -/
def utf8Len (s : List Char) : Nat := (s.map Char.utf8Size).sum

@[simp] theorem utf8Len_nil : utf8Len [] = 0 := rfl

@[simp] theorem utf8Len_cons (c : Char) (s : List Char) :
    utf8Len (c :: s) = c.utf8Size + utf8Len s := rfl

@[simp] theorem utf8Len_append (s t : List Char) :
    utf8Len (s ++ t) = utf8Len s + utf8Len t := by
  simp [utf8Len]

/-- `str::is_char_boundary`: byte `k` of `s` starts a character or ends the string. -/
def IsCharBoundary (s : List Char) (k : Nat) : Prop := ∃ p q, s = p ++ q ∧ utf8Len p = k

/-- `&s[..k]` and `&s[k..]` on the UTF-8 bytes of `s`; `none` is the panic when byte `k`
is past the end or inside a character. -/
def splitAtByte : List Char → Nat → Option (List Char × List Char)
  | s, 0 => some ([], s)
  | [], _ + 1 => none
  | c :: rest, k + 1 =>
    if c.utf8Size ≤ k + 1 then
      (splitAtByte rest (k + 1 - c.utf8Size)).map fun (p, q) => (c :: p, q)
    else none

theorem splitAtByte_append (p q : List Char) :
    splitAtByte (p ++ q) (utf8Len p) = some (p, q) := by
  induction p with
  | nil => simp [splitAtByte]
  | cons c p ih =>
    obtain ⟨k, hk⟩ : ∃ k, c.utf8Size + utf8Len p = k + 1 :=
      ⟨_, (Nat.succ_pred_eq_of_pos (Nat.add_pos_left (Char.utf8Size_pos c) _)).symm⟩
    have rest : k + 1 - c.utf8Size = utf8Len p := by omega
    simp only [List.cons_append, utf8Len_cons, hk, splitAtByte, rest, ih]
    simp [show c.utf8Size ≤ k + 1 by omega]

theorem splitAtByte_sound {s : List Char} {k : Nat} {p q : List Char}
    (split : splitAtByte s k = some (p, q)) : s = p ++ q ∧ utf8Len p = k := by
  induction s generalizing k p q with
  | nil => cases k <;> simp_all [splitAtByte]
  | cons c rest ih =>
    cases k with
    | zero => simp_all [splitAtByte]
    | succ k =>
      simp only [splitAtByte] at split
      split at split
      next fits =>
        obtain ⟨⟨p', q'⟩, tail, joined⟩ := Option.map_eq_some'.mp split
        obtain ⟨rfl, rfl⟩ := Prod.mk.inj joined
        have := ih tail
        simp only [List.cons_append, utf8Len_cons, this.1, true_and]
        omega
      next => cases split

theorem splitAtByte_eq_some_iff {s : List Char} {k : Nat} {p q : List Char} :
    splitAtByte s k = some (p, q) ↔ s = p ++ q ∧ utf8Len p = k :=
  ⟨splitAtByte_sound, by rintro ⟨rfl, rfl⟩; exact splitAtByte_append p q⟩

theorem splitAtByte_eq_none_iff {s : List Char} {k : Nat} :
    splitAtByte s k = none ↔ ¬ IsCharBoundary s k := by
  simp only [IsCharBoundary, Option.eq_none_iff_forall_not_mem, Option.mem_def, Prod.forall,
    splitAtByte_eq_some_iff, not_exists, not_and]

theorem splitAtByte_isSome_iff {s : List Char} {k : Nat} :
    (splitAtByte s k).isSome ↔ IsCharBoundary s k := by
  rw [← not_iff_not, Option.not_isSome_iff_eq_none, splitAtByte_eq_none_iff]

/-- `str::find` with a character predicate: the byte index of the first match. -/
def findByte (p : Char → Bool) : List Char → Option Nat
  | [] => none
  | c :: rest => if p c then some 0 else (findByte p rest).map (c.utf8Size + ·)

theorem findByte_eq (p : Char → Bool) (s : List Char) :
    findByte p s = if s.any p then some (utf8Len (s.takeWhile fun c => !p c)) else none := by
  induction s with
  | nil => rfl
  | cons c rest ih =>
    by_cases hc : p c
    · simp [findByte, hc, List.takeWhile]
    · simp only [findByte, hc, ih, List.any_cons, List.takeWhile]
      split <;> simp_all

/-- The first two statements of `format_address`: `0x` in front, then the leading zeros
after it dropped. The slice at byte 2 and the one found by `find` both start a character. -/
def stripLeadingZeros (address : List Char) : Option (List Char) := do
  let formattedAddress :=
    if "0x".toList.isPrefixOf address then address else "0x".toList ++ address
  let (_, digits) ← splitAtByte formattedAddress 2
  match findByte (fun c => c != '0') digits with
  | some nonZeroIndex => do
    let (_, rest) ← splitAtByte formattedAddress (2 + nonZeroIndex)
    pure ("0x".toList ++ rest)
  | none => pure formattedAddress

/-- The last statement of `format_address`: past ten bytes, the first six and the last
four around `...`. -/
def truncateAddress (formattedAddress : List Char) : Option String :=
  if utf8Len formattedAddress > 10 then do
    let (start, _) ← splitAtByte formattedAddress 6
    let (_, stop) ← splitAtByte formattedAddress (utf8Len formattedAddress - 4)
    pure (String.mk (start ++ "...".toList ++ stop))
  else pure (String.mk formattedAddress)

def formatAddress (address : String) : Option String :=
  stripLeadingZeros address.data >>= truncateAddress

def addressDigits (address : List Char) : List Char :=
  if "0x".toList.isPrefixOf address then address.drop 2 else address

/-- The digits `format_address` keeps: all but the leading zeros, unless all are zeros. -/
def significantDigits (address : List Char) : List Char :=
  let digits := addressDigits address
  if digits.any (· != '0') then digits.dropWhile (· == '0') else digits

/-- What `format_address` is for: `0x` and the significant digits, of which only the first
four and the last four are shown when there are more than eight. -/
def abbreviate (digits : List Char) : List Char :=
  if 8 < digits.length then
    "0x".toList ++ digits.take 4 ++ "...".toList ++ digits.drop (digits.length - 4)
  else "0x".toList ++ digits

theorem prefixed_eq (address : List Char) :
    (if "0x".toList.isPrefixOf address then address else "0x".toList ++ address) =
      "0x".toList ++ addressDigits address := by
  unfold addressDigits
  split
  next prefixed =>
    have first : "0x".toList = address.take 2 :=
      List.prefix_iff_eq_take.mp (List.isPrefixOf_iff_prefix.mp prefixed)
    calc address = address.take 2 ++ address.drop 2 := (List.take_append_drop 2 address).symm
      _ = _ := by rw [← first]
  next => rfl

theorem stripLeadingZeros_eq (address : List Char) :
    stripLeadingZeros address = some ("0x".toList ++ significantDigits address) := by
  have hex : utf8Len "0x".toList = 2 := rfl
  have zeros : (fun c => !(c != '0')) = (· == '0') := funext fun c => Bool.not_not (c == '0')
  have digits := splitAtByte_append "0x".toList (addressDigits address)
  rw [hex] at digits
  simp only [stripLeadingZeros, prefixed_eq, digits, Option.bind_eq_bind, Option.some_bind,
    findByte_eq, zeros, significantDigits]
  by_cases nonZero : (addressDigits address).any (· != '0')
  · have cut := splitAtByte_append ("0x".toList ++ (addressDigits address).takeWhile (· == '0'))
      ((addressDigits address).dropWhile (· == '0'))
    rw [List.append_assoc, List.takeWhile_append_dropWhile, utf8Len_append, hex] at cut
    simp only [if_pos nonZero, cut, Option.some_bind]
    rfl
  · simp only [if_neg nonZero]
    rfl

theorem truncateAddress_eq_none_iff (formatted : List Char) :
    truncateAddress formatted = none ↔ 10 < utf8Len formatted ∧
      ¬ (IsCharBoundary formatted 6 ∧ IsCharBoundary formatted (utf8Len formatted - 4)) := by
  unfold truncateAddress
  split
  next long =>
    rw [← splitAtByte_isSome_iff, ← splitAtByte_isSome_iff]
    cases splitAtByte formatted 6 <;> cases splitAtByte formatted (utf8Len formatted - 4) <;>
      simp [long]
  next short => exact iff_of_false (Option.some_ne_none _) fun panics => short panics.1

theorem formatAddress_eq (address : String) :
    formatAddress address = truncateAddress ("0x".toList ++ significantDigits address.data) := by
  rw [formatAddress, stripLeadingZeros_eq, Option.bind_eq_bind, Option.some_bind]

theorem formatAddress_eq_none_iff (address : String) :
    formatAddress address = none ↔
      10 < utf8Len ("0x".toList ++ significantDigits address.data) ∧
      ¬ (IsCharBoundary ("0x".toList ++ significantDigits address.data) 6 ∧
        IsCharBoundary ("0x".toList ++ significantDigits address.data)
          (utf8Len ("0x".toList ++ significantDigits address.data) - 4)) := by
  rw [formatAddress_eq]
  exact truncateAddress_eq_none_iff _

example : formatAddress "0x123é4567890" = none := rfl

theorem utf8Size_of_ascii {c : Char} (ascii : c.toNat < 0x80) : c.utf8Size = 1 := by
  have : c.val ≤ 127 := show c.toNat ≤ 127 by omega
  simp [Char.utf8Size, this]

section Ascii

variable {s : List Char} (ascii : ∀ c ∈ s, c.toNat < 0x80)
include ascii

theorem utf8Len_of_ascii : utf8Len s = s.length := by
  induction s with
  | nil => rfl
  | cons c s ih =>
    simp only [utf8Len_cons, List.length_cons,
      utf8Size_of_ascii (ascii c (List.mem_cons_self c s)),
      ih fun d hd => ascii d (List.mem_cons_of_mem c hd)]
    omega

theorem splitAtByte_of_ascii {k : Nat} (within : k ≤ s.length) :
    splitAtByte s k = some (s.take k, s.drop k) := by
  have split := splitAtByte_append (s.take k) (s.drop k)
  rwa [List.take_append_drop, utf8Len_of_ascii fun c hc => ascii c (List.mem_of_mem_take hc),
    List.length_take, min_eq_left within] at split

theorem truncateAddress_of_ascii :
    truncateAddress s = some (String.mk (if 10 < s.length then
      s.take 6 ++ "...".toList ++ s.drop (s.length - 4) else s)) := by
  unfold truncateAddress
  rw [utf8Len_of_ascii ascii]
  split
  next long =>
    simp only [splitAtByte_of_ascii ascii (show 6 ≤ s.length by omega),
      splitAtByte_of_ascii ascii (Nat.sub_le s.length 4)]
    rfl
  next => rfl

end Ascii

theorem significantDigits_suffix (address : List Char) :
    significantDigits address <:+ address := by
  have digits : addressDigits address <:+ address := by
    unfold addressDigits; split
    · exact List.drop_suffix 2 address
    · exact List.suffix_refl address
  dsimp only [significantDigits]; split
  · exact (List.dropWhile_suffix _).trans digits
  · exact digits

theorem formatAddress_ascii (address : String) (ascii : ∀ c ∈ address.data, c.toNat < 0x80) :
    formatAddress address = some (String.mk (abbreviate (significantDigits address.data))) := by
  have hex : ∀ c ∈ "0x".toList, c.toNat < 0x80 := by decide
  have digits : ∀ c ∈ "0x".toList ++ significantDigits address.data, c.toNat < 0x80 := by
    intro c hc
    rcases List.mem_append.mp hc with prefixed | kept
    · exact hex c prefixed
    · exact ascii c ((significantDigits_suffix _).subset kept)
  rw [formatAddress_eq, truncateAddress_of_ascii digits]
  set d := significantDigits address.data
  have len : ("0x".toList ++ d).length = 2 + d.length := List.length_append _ _
  unfold abbreviate
  by_cases long : 8 < d.length
  · have cut : ("0x".toList ++ d).length - 4 = "0x".toList.length + (d.length - 4) := by
      rw [len]; exact show 2 + d.length - 4 = 2 + (d.length - 4) by omega
    rw [if_pos (by omega), if_pos long, cut, List.drop_append,
      show 6 = "0x".toList.length + 4 from rfl, List.take_append]
  · rw [if_neg (by omega), if_neg long]

theorem formatAddress_ascii_sample :
    (∀ c ∈ "0x00abcdef012".data, c.toNat < 0x80) ∧
      formatAddress "0x00abcdef012" =
        some (String.mk (abbreviate (significantDigits "0x00abcdef012".data))) :=
  have ascii : ∀ c ∈ "0x00abcdef012".data, c.toNat < 0x80 := by decide
  ⟨ascii, formatAddress_ascii _ ascii⟩

end Madara.Sync
