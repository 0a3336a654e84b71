import Dripline.Positions.Position

/-!
# Profit and loss of a position

`positions/pnl.rs`, in exact money. A division by zero, which is an infinity in the source, is zero
here.

* `calculatePositionPnl` — the SOL and the percentage, from whatever the row knows: a close in
  flight, a booked close, or the price of what is still held.
-/

namespace Dripline.Positions

/-- Lamports as SOL. Source: `chains/adapter.rs` -/
def rawToNative (raw : ℕ) : ℚ := raw / 10 ^ 9

/-- A recorded fee, or nothing. -/
def feeSol (lamports : Option ℕ) : ℚ := (lamports.map rawToNative).getD 0

/-- Raw tokens as whole tokens. Source: `pnl.rs` -/
def uiTokenAmount (amount decimals : ℕ) : ℚ := amount / 10 ^ decimals

/-- Profit by value: what is there and what came out, less cost and fees. -/
def pnlByValue (value realized cost fees : ℚ) : ℚ × ℚ :=
  let net := value + realized - cost - fees
  (net, net / cost * 100)

/-- Profit by price alone, when no amount is known. -/
def pnlByPrice (priceChange cost fees : ℚ) : ℚ × ℚ :=
  let percent := priceChange * 100 - fees / cost * 100
  (percent / 100 * cost, percent)

section pnl

variable (decimals : String → Option ℕ) (position : Position)

/-- The price legacy rows were entered at. -/
def Position.legacyEntryPrice : ℚ := position.effectiveEntryPrice.getD position.entryPrice

/-- What is still held, as far as the row says. -/
def Position.heldAmount : Option ℕ := position.remainingTokenAmount.or position.tokenAmount

/-- A close in flight, estimated at the current price: the sale is assumed to cost what the entry
did. Source: `pnl.rs`, the closing branch of `calculate_position_pnl` -/
def pnlClosing (current : ℚ) : ℚ × ℚ :=
  let fees := feeSol position.entryFeeLamports + feeSol position.entryFeeLamports
  let held := position.heldAmount.bind fun amount =>
    (decimals position.mint).map (uiTokenAmount amount)
  match held with
  | some amount =>
    pnlByValue (amount * current) (position.solReceived.getD 0) position.totalSizeSol fees
  | none =>
    pnlByPrice ((current - position.legacyEntryPrice) / position.legacyEntryPrice)
      position.totalSizeSol fees

/-- A booked close. Source: `pnl.rs`, the closed branches of `calculate_position_pnl` -/
def pnlClosed (exitPrice : ℚ) : ℚ × ℚ :=
  let fees := feeSol position.entryFeeLamports + feeSol position.exitFeeLamports
  match position.solReceived with
  | some received =>
    let net := received - position.totalSizeSol - fees
    let invested :=
      if position.totalSizeSol < 1 / 10 ^ 5 then 1 / 10 ^ 5 else position.totalSizeSol
    (net, net / invested * 100)
  | none =>
    let exit := position.effectiveExitPrice.getD exitPrice
    match position.tokenAmount with
    | some amount =>
      match decimals position.mint with
      | some d => pnlByValue (uiTokenAmount amount d * exit) 0 position.entrySizeSol fees
      | none => (0, 0)
    | none =>
      pnlByPrice ((exit - position.legacyEntryPrice) / position.legacyEntryPrice)
        position.entrySizeSol fees

/-- A position that is held, at the current price.
Source: `pnl.rs`, the open branches of `calculate_position_pnl` -/
def pnlOpen (entryPrice current : ℚ) : ℚ × ℚ :=
  let fees := feeSol position.entryFeeLamports + feeSol position.entryFeeLamports
  match position.heldAmount with
  | some amount =>
    match decimals position.mint with
    | some d =>
      pnlByValue (uiTokenAmount amount d * current) (position.solReceived.getD 0)
        position.totalSizeSol fees
    | none => (0, 0)
  | none => pnlByPrice ((current - entryPrice) / entryPrice) position.entrySizeSol fees

/-- Profit and loss in SOL and in percent. A position is closed when it has an exit time: the exit
price is stamped before the swap. Source: `pnl.rs` -/
def calculatePositionPnl (currentPrice : Option ℚ) : ℚ × ℚ :=
  let entryPrice :=
    if 0 < position.averageEntryPrice then position.averageEntryPrice
    else position.legacyEntryPrice
  if entryPrice ≤ 0 then (0, 0)
  else if currentPrice.any (· ≤ 0) then (0, 0)
  else
    let closing := position.exitTransactionSignature.isSome && !position.transactionExitVerified
    match if closing then currentPrice else none with
    | some current => pnlClosing decimals position current
    | none =>
      match if position.exitTime.isSome then position.exitPrice else none with
      | some exitPrice => pnlClosed decimals position exitPrice
      | none =>
        match currentPrice with
        | some current => pnlOpen decimals position entryPrice current
        | none => (0, 0)

end pnl

end Dripline.Positions
