import Mathlib

/-!
# Account data of pools

`swaps/direct/venues/layout.rs`, `chains/solana/pools/fetcher_types.rs`, and the `extract_*`
functions of `chains/solana/pools/decoders`.

* `Pubkey` — 32 bytes; the source prints them in base 58 where it compares texts.
* `pubkeyAt`, `uintAt`, `intAt` — the bounds-checked reads at fixed offsets, little endian.
* `AccountData`, `poolAccount` — the accounts of a bundle, and the one that a program owns.
-/

namespace Dripline.Pools

/-! Literals of the price formulas; the proof that each of them rests on has a name. -/

scoped instance atLeastTwo_2 : Nat.AtLeastTwo 2 := ⟨by decide⟩
scoped instance atLeastTwo_3 : Nat.AtLeastTwo 3 := ⟨by decide⟩
scoped instance atLeastTwo_9 : Nat.AtLeastTwo 9 := ⟨by decide⟩
scoped instance atLeastTwo_10 : Nat.AtLeastTwo 10 := ⟨by decide⟩
scoped instance atLeastTwo_20 : Nat.AtLeastTwo 20 := ⟨by decide⟩
scoped instance atLeastTwo_10000 : Nat.AtLeastTwo 10000 := ⟨by decide⟩

/-- An address. -/
structure Pubkey where
  bytes : List UInt8
  size : bytes.length = 32
  deriving DecidableEq

/-- Wrapped SOL. Source: `chains/solana/constants.rs` -/
def solMint : Pubkey :=
  ⟨[6, 155, 136, 87, 254, 171, 129, 132, 251, 104, 127, 99, 70, 24, 192, 53, 218, 196, 57, 220, 26, 235,
    59, 85, 152, 160, 240, 0, 0, 0, 0, 1], rfl⟩

/-- Source: `chains/solana/constants.rs` -/
def systemProgramId : Pubkey := ⟨List.replicate 32 0, rfl⟩

/-- An address that is one byte, repeated. -/
def repeated (byte : UInt8) : Pubkey := ⟨List.replicate 32 byte, List.length_replicate⟩

/-- Source: `chains/solana/constants.rs` -/
def solDecimals : ℕ := 9

/-- Source: `pools/utils.rs`, `is_sol_mint`; `chains/solana/adapter.rs`, `is_native_asset` -/
def isSolMint (mint : Pubkey) : Bool := mint = solMint || mint = systemProgramId

@[simp] lemma isSolMint_solMint : isSolMint solMint = true := by simp [isSolMint]

/-! ## Reads -/

/-- So many bytes at an offset, if there are as many. -/
def bytesAt (data : List UInt8) (offset size : ℕ) : Option (List UInt8) :=
  if offset + size ≤ data.length then some ((data.drop offset).take size) else none

/-- Source: `layout.rs`, `pubkey_at`; the decoders' `extract_pubkey_at_offset` -/
def pubkeyAt (data : List UInt8) (offset : ℕ) : Option Pubkey :=
  if h : offset + 32 ≤ data.length then
    some ⟨(data.drop offset).take 32, by rw [List.length_take, List.length_drop]; omega⟩
  else none

/-- Source: the `from_le_bytes` of the unsigned integers -/
def fromLeBytes : List UInt8 → ℕ
  | [] => 0
  | byte :: rest => byte.toNat + 256 * fromLeBytes rest

/-- Source: `layout.rs`, `u8_at`, `u16_at`, `u64_at`, `u128_at`; the decoders'
`extract_u*_at_offset` -/
def uintAt (data : List UInt8) (offset size : ℕ) : Option ℕ :=
  (bytesAt data offset size).map fromLeBytes

lemma fromLeBytes_lt (bytes : List UInt8) : fromLeBytes bytes < 256 ^ bytes.length := by
  induction bytes with
  | nil => simp [fromLeBytes]
  | cons byte rest ih =>
    have := byte.toNat_lt
    rw [fromLeBytes, List.length_cons, pow_succ]
    omega

lemma uintAt_lt {data : List UInt8} {offset size n : ℕ} (h : uintAt data offset size = some n) :
    n < 256 ^ size := by
  obtain ⟨bytes, hbytes, rfl⟩ := Option.map_eq_some_iff.mp h
  have hlength : bytes.length ≤ size := by
    obtain ⟨-, hbytes⟩ := Option.ite_none_right_eq_some.mp hbytes
    exact Option.some.inj hbytes ▸ List.length_take_le _ _
  exact (fromLeBytes_lt bytes).trans_le (Nat.pow_le_pow_right (by norm_num) hlength)

/-- Source: `layout.rs`, `i32_at`; the decoders' `extract_i32_at_offset` -/
def intAt (data : List UInt8) (offset size : ℕ) : Option ℤ :=
  (uintAt data offset size).map fun n : ℕ =>
    if 2 * n < 256 ^ size then (n : ℤ) else n - (256 ^ size : ℕ)

/-! ## Accounts -/

/-- Source: `fetcher_types.rs`, `AccountData`, without the time of fetching -/
structure AccountData where
  pubkey : Pubkey
  owner : Pubkey
  data : List UInt8
  slot : ℕ
  lamports : ℕ
  deriving DecidableEq

/-- The accounts of a pool by address, in the order in which the map is walked. -/
abbrev Accounts := List (Pubkey × AccountData)

namespace Accounts

/-- The first account that a program owns. Source: the decoders' `accounts.values().find` -/
def poolAccount (accounts : Accounts) (program : Pubkey) : Option AccountData :=
  (accounts.map Prod.snd).find? fun account => account.owner = program

/-- The account under an address. -/
def get (accounts : Accounts) (address : Pubkey) : Option AccountData :=
  accounts.lookup address

end Accounts

/-- Source: the decoders' `decode_token_account_amount`, `extract_token_account_balance` -/
def tokenAccountAmount (data : List UInt8) : Option ℕ :=
  if data.length < 72 then none else uintAt data 64 8

/-- Source: the decoders' `decode_token_account_mint` -/
def tokenAccountMint (data : List UInt8) : Option Pubkey :=
  if data.length < 32 then none else pubkeyAt data 0

/-- The balance of a vault, if the account is there and is a token account. -/
def Accounts.balance (accounts : Accounts) (vault : Pubkey) : Option ℕ :=
  (accounts.get vault).bind fun account => tokenAccountAmount account.data

end Dripline.Pools
