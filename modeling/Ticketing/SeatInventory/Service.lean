import Ticketing.SeatInventory.Store

/-!
# Seat inventory service

Library `SeatInventory`. Follows `inventory/seat-lock.service.ts`,
`inventory/inventory.service.ts`, `hold/hold.service.ts`, `hold/hold-expiry.worker.ts` and
`inventory/inventory.grpc-controller.ts`. Where a transaction is open, the local entity
says whether it still is: rolling back a committed transaction throws.
-/

namespace Ticketing.SeatInventory

open Async

/-! ### `SeatLockService` -/

/-- The key `lock:event:{eventId}:seat:{seatId}`. -/
def lockKey (eventId seatId : String) : String :=
  "lock:event:" ++ eventId ++ ":seat:" ++ seatId

/-- `lockSeats`, the first loop: the keys locked so far and the seats that failed. -/
def lockEach (eventId userId sessionId : String) :
    List String → List String → List String → Code sig Unit (List String × List String)
  | [], lockedKeys, failedSeatIds => pure (lockedKeys, failedSeatIds)
  | seatId :: rest, lockedKeys, failedSeatIds => do
    let key := lockKey eventId seatId
    let lockedAt ← await .now
    if ← await (.setNx { key, userId, sessionId, lockedAt }) then
      lockEach eventId userId sessionId rest (lockedKeys ++ [key]) failedSeatIds
    else
      lockEach eventId userId sessionId rest lockedKeys (failedSeatIds ++ [seatId])

/-- `lockSeats`, the second loop: give back what was locked. -/
def unlockEach {L : Type} : List String → Code sig L Unit
  | [] => pure ()
  | key :: rest => do
    await (.del key)
    unlockEach rest

/-- `SeatLockService.lockSeats` (`seat-lock.service.ts:13–65`): the seats that failed. -/
def lockSeats (eventId : String) (seatIds : List String) (userId sessionId : String) :
    Code sig Unit (List String) := do
  let (lockedKeys, failedSeatIds) ← lockEach eventId userId sessionId seatIds [] []
  if failedSeatIds.isEmpty then pure []
  else
    unlockEach lockedKeys
    pure failedSeatIds

/-- `SeatLockService.releaseSeats` (`seat-lock.service.ts:67–92`): how many it released. -/
def releaseLocks {L : Type} (eventId userId : String) : List String → Nat → Code sig L Nat
  | [], released => pure released
  | seatId :: rest, released => do
    let key := lockKey eventId seatId
    match ← await (.get key) with
    | none => releaseLocks eventId userId rest released
    | some lockData =>
      if lockData.userId = userId then
        await (.del key)
        releaseLocks eventId userId rest (released + 1)
      else releaseLocks eventId userId rest released

/-! ### `HoldService` -/

/-- `HoldService.HOLD_DURATION_MS`. -/
def holdDurationMs : Nat := 10 * 60 * 1000

/-- `queryRunner.commitTransaction()`. -/
def commitTransaction (writes : List Write) : Code sig Bool Unit := do
  await (.commit writes)
  assign fun _ ↦ false

/-- `queryRunner.rollbackTransaction()`. -/
def rollbackTransaction : Code sig Bool Unit := do
  if ← entity then await .rollback
  else throw (.failure "TransactionNotStartedError")

/-- The result of `holdSeats`. -/
structure HoldResult where
  holdIds : List Id
  expiresAt : Nat

/-- The hold entities of `holdSeats`; a seat without inventory throws. -/
def newHolds {L : Type} (eventId userId sessionId : String) (expiresAt : Nat)
    (inventories : List Seat) : List String → Code sig L (List SeatHold)
  | [] => pure []
  | seatId :: rest =>
    match inventories.find? fun inv ↦ inv.seatId = seatId with
    | none => throw (.badRequest ("Seat " ++ seatId ++ " not found in inventory"))
    | some inventory => do
      let holds ← newHolds eventId userId sessionId expiresAt inventories rest
      pure ({ id := 0, seatInventoryId := inventory.id, eventId, seatId, userId, sessionId,
              expiresAt, releasedAt := none, releaseReason := none } :: holds)

/-- `HoldService.holdSeats`, the `try` block. -/
def holdTransaction (eventId : String) (seatIds : List String) (userId sessionId : String) :
    Code sig Bool HoldResult := do
  let inventories ← await (.findBySeatIds eventId seatIds)
  let unavailable := inventories.filter fun inv ↦ inv.status ≠ .available
  if ¬ unavailable.isEmpty then
    throw (.badRequest ("Seats not available: " ++
      String.intercalate ", " (unavailable.map Seat.seatId)))
  else
    let held := inventories.map fun inv ↦ { inv with status := .held }
    let updated ← await (.statement (.seats held))
    let now ← await .now
    let expiresAt := now + holdDurationMs
    let holds ← newHolds eventId userId sessionId expiresAt inventories seatIds
    let savedHolds ← await (.insertHolds holds)
    commitTransaction [updated, .holds savedHolds]
    await (.hset eventId (seatIds.map fun seatId ↦ (seatId, .held)))
    pure { holdIds := savedHolds.map SeatHold.id, expiresAt }

/-- `HoldService.holdSeats` (`hold.service.ts:25–114`). -/
def holdSeats (eventId : String) (seatIds : List String) (userId sessionId : String) :
    Code sig Unit HoldResult := do
  let failedSeatIds ← lockSeats eventId seatIds userId sessionId
  if ¬ failedSeatIds.isEmpty then
    throw (.badRequest ("Seats already held: " ++ String.intercalate ", " failedSeatIds))
  else
    await .connect
    Code.on true <| tryCatch (holdTransaction eventId seatIds userId sessionId) fun error ↦ do
      rollbackTransaction
      let _ ← releaseLocks eventId userId seatIds 0
      throw error

/-- The hold entities of `holds` after those of the listed seats are released. -/
def releaseHolds (seatIds : List String) (now : Nat) (reason : SeatLockReleaseReason)
    (holds : List SeatHold) : List SeatHold :=
  holds.map fun hold ↦
    if seatIds.contains hold.seatId then
      { hold with releasedAt := some now, releaseReason := some reason }
    else hold

/-- `HoldService.releaseSeats`, the `try` block. -/
def releaseTransaction (eventId : String) (seatIds : List String) (userId : String)
    (reason : SeatLockReleaseReason) : Code sig Bool Unit := do
  let holds ← await (.findHolds eventId userId)
  let now ← await .now
  let released := releaseHolds seatIds now reason holds
  let updatedHolds ← await (.statement (.holds released))
  let inventories ← await (.findBySeatIds eventId seatIds)
  let freed := inventories.map fun inv ↦ { inv with status := .available }
  let updated ← await (.statement (.seats freed))
  commitTransaction [updatedHolds, updated]
  let _ ← releaseLocks eventId userId seatIds 0
  await (.hset eventId (seatIds.map fun seatId ↦ (seatId, .available)))

/-- `HoldService.releaseSeats` (`hold.service.ts:116–167`). -/
def releaseSeats (eventId : String) (seatIds : List String) (userId : String)
    (reason : SeatLockReleaseReason) : Code sig Unit Unit := do
  await .connect
  Code.on true <| tryCatch (releaseTransaction eventId seatIds userId reason) fun error ↦ do
    rollbackTransaction
    throw error

/-- `HoldService.markAsSold`, the `try` block. -/
def soldTransaction (eventId : String) (seatIds : List String) (userId : String) :
    Code sig Bool Unit := do
  let inventories ← await (.findBySeatIds eventId seatIds)
  let sold := inventories.map fun inv ↦ { inv with status := .sold }
  let updated ← await (.statement (.seats sold))
  let holds ← await (.findHolds eventId userId)
  let now ← await .now
  let released := releaseHolds seatIds now .paymentSuccess holds
  let updatedHolds ← await (.statement (.holds released))
  commitTransaction [updated, updatedHolds]
  let _ ← releaseLocks eventId userId seatIds 0
  await (.hset eventId (seatIds.map fun seatId ↦ (seatId, .sold)))

/-- `HoldService.markAsSold` (`hold.service.ts:176–229`). -/
def markAsSold (eventId : String) (seatIds : List String) (userId : String) :
    Code sig Unit Unit := do
  await .connect
  Code.on true <| tryCatch (soldTransaction eventId seatIds userId) fun error ↦ do
    rollbackTransaction
    throw error

/-! ### `InventoryService` -/

/-- `InventoryService.relaseSoldSeats` (`inventory.service.ts:89–109`). -/
def relaseSoldSeats (eventId : String) (seatIds : List String) : Code sig Unit Unit := do
  let inventories ← await (.findBySeatIds eventId seatIds)
  let _ ← await (.saveSeats (inventories.map fun inv ↦ { inv with status := .available }))
  await (.hset eventId (seatIds.map fun seatId ↦ (seatId, .available)))

/-! ### `HoldExpiryWorker` -/

/-- Expired holds by the key `{eventId}:{userId}`, groups in order of first occurrence. -/
def groupHolds : List SeatHold → List (String × List SeatHold)
  | [] => []
  | hold :: rest =>
    let key := hold.eventId ++ ":" ++ hold.userId
    let others := groupHolds rest
    (key, hold :: ((others.find? fun g ↦ g.1 = key).map Prod.snd).getD []) ::
      others.filter fun g ↦ g.1 ≠ key

/-- `processExpiredHolds`, the loop over the groups; an error of one group is logged. -/
def releaseGroups : List (String × List SeatHold) → Code sig Unit Unit
  | [] => pure ()
  | (_, holds) :: rest => do
    match holds with
    | [] => pure ()
    | hold :: _ =>
      tryCatch
        (releaseSeats hold.eventId (holds.map SeatHold.seatId) hold.userId .timeout)
        fun _ ↦ pure ()
    releaseGroups rest

/-- `processExpiredHolds`, the `try` block. -/
def releaseExpired : Code sig Unit Unit := do
  let now ← await .now
  let expiredHolds ← await (.findExpiredHolds now)
  releaseGroups (groupHolds expiredHolds)

/-- `HoldExpiryWorker.processExpiredHolds` (`hold-expiry.worker.ts:19–75`). -/
def processExpiredHolds : Code sig Unit Unit := do
  if ← await .enter then
    tryCatch releaseExpired fun error ↦ do
      await .leave
      throw error
    await .leave
  else pure ()

/-! ### `InventoryGrpcController` -/

/-- The message of a seat in `getSeatsByEvent`. -/
def toSeatInfo (s : Seat) : SeatInfo where
  id := s.id
  eventId := s.eventId
  seatId := s.seatId
  sectionId := s.sectionId
  sectionName := s.sectionName
  ticketTypeId := s.ticketTypeId
  ticketTypeName := s.ticketTypeName
  price := s.price
  currency := s.currency
  row := s.row
  seatNumber := s.seatNumber
  seatType := s.seatType
  status := s.status

/-- `getSeatsByEvent` (`inventory.grpc-controller.ts:16–36`). -/
def grpcGetSeatsByEvent (eventId : String) : Code sig Unit Reply := do
  let seats ← await (.findByEventId eventId)
  pure (.seats (seats.map toSeatInfo))

/-- `verifyHold` (`inventory.grpc-controller.ts:44–57`). -/
def grpcVerifyHold (eventId userId : String) : List String → Code sig Unit Reply
  | [] => pure (.verified true)
  | seatId :: rest => do
    match ← await (.get (lockKey eventId seatId)) with
    | none => pure (.verified false)
    | some lock =>
      if lock.userId = userId then grpcVerifyHold eventId userId rest
      else pure (.verified false)

/-- A handler that answers `success: false` when the service throws. -/
def answerSuccess (c : Code sig Unit Unit) : Code sig Unit Reply :=
  tryCatch (do c; pure (.success true)) fun _ ↦ pure (.success false)

/-- The handler of a request; the service answers only its own. -/
def handler : Request → Code sig Unit Reply
  | .getSeatsByEvent e => grpcGetSeatsByEvent e
  | .verifyHold e ids u => grpcVerifyHold e u ids
  | .releaseSeats e ids u r => answerSuccess (releaseSeats e ids u r)
  | .markSeatsAsSold e ids u => answerSuccess (markAsSold e ids u)
  | .releaseSoldSeats e ids => answerSuccess (relaseSoldSeats e ids)
  | .initiatePayment _ | .refundPayment _ _ _ => throw (.failure "UNIMPLEMENTED")

/-- What runs in the seat inventory: requests of clients and of the booking service, the
expiry worker, and the expiry of a lock key in Redis. -/
inductive Job where
  | holdSeats (eventId : String) (seatIds : List String) (userId sessionId : String)
  | releaseSeats (eventId : String) (seatIds : List String) (userId : String)
  | serve (issuer : Option Id) (request : Request)
  | processExpiredHolds
  | expireLock (eventId seatId : String)
  deriving DecidableEq

/-- The code of a job. -/
def Job.run : Job → Code sig Unit Reply
  | .holdSeats e ids u n => do
    let _ ← SeatInventory.holdSeats e ids u n
    pure .done
  | .releaseSeats e ids u => do
    SeatInventory.releaseSeats e ids u .userCancel
    pure .done
  | .serve _ r => handler r
  | .processExpiredHolds => do
    SeatInventory.processExpiredHolds
    pure .done
  | .expireLock e s => do
    await (.expire (lockKey e s))
    pure .done

/-- The seat inventory service. -/
abbrev service : Service where
  toSig := sig
  State := Db
  Choice := Choice
  exec := exec
  Job := Job
  Reply := Reply
  code j := j.run.prog

end Ticketing.SeatInventory
