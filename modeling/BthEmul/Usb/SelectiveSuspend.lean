import BthEmul.Foundation.Ledger
import BthEmul.Foundation.Pool

/-!
# Idle requests for selective suspend

While the device is idle the driver keeps an idle request with the lower
driver. Three routines share the request: one submits it, one cancels it when
the device is used, and the completion routine ends it. The request and the
callback information that goes with it are allocated for each submission. What
happens under the spin lock is one step, and so is every interlocked operation
and everything else in between that concerns the request.

Whether the device is idle, and whether it is fully powered, changes beside
these routines.
-/

namespace BthEmul

open Foundation

namespace Usb

/-- The part of `DEVICE_EXTENSION` for selective suspend, and what has been
allocated and freed. -/
structure IdleState where
  /-- `IdleReqPend`. -/
  idleReqPend : Bool
  /-- `PendingIdleIrp`, if it is not null. -/
  pendingIdleIrp : Option Nat
  /-- `IdleCallbackInfo`, if it is not null. -/
  idleCallbackInfo : Option Nat
  /-- `FreeIdleIrpCount`. -/
  freeIdleIrpCount : Int
  /-- `NoIdleReqPendEvent` is signalled. -/
  noIdleReqPendEvent : Bool
  /-- The irps for idle requests. -/
  irps : Ledger
  /-- The blocks of callback information. -/
  infos : Ledger
  deriving DecidableEq

/-- A device for which selective suspend is enabled. -/
def IdleState.start : IdleState where
  idleReqPend := false
  pendingIdleIrp := none
  idleCallbackInfo := none
  freeIdleIrpCount := 0
  noIdleReqPendEvent := true
  irps := .fresh
  infos := .fresh

/-- How far a routine is. -/
inductive IdlePoint
  /-- `SubmitIdleRequestIrp`, before the check of `DevPower`. -/
  | submit
  /-- Before the section that allocates the request. -/
  | request
  /-- Without an irp, before the callback information is freed. -/
  | dropInfo (info : Nat)
  /-- Before the check of whether the device is idle. -/
  | check (irp info : Nat)
  /-- The device is not idle: before the section that withdraws the request. -/
  | withdraw (irp info : Nat)
  /-- Before the callback information is freed. -/
  | freeInfo (irp info : Nat)
  /-- Before the irp is freed. -/
  | freeIrp (irp : Nat)
  /-- Before `IoCallDriver`. -/
  | callDriver (irp : Nat)
  /-- The lower driver has the irp. -/
  | lower (irp : Nat)
  /-- `IdleNotificationRequestComplete`, before its section. -/
  | complete (irp : Nat)
  /-- Behind its section, with the callback information it found, and whether
  it found the irp. -/
  | completed (irp : Nat) (info : Option Nat) (found : Bool)
  /-- The completion routine, before it counts down. -/
  | completeDecrement (irp : Nat)
  /-- Before the irp is freed and the event is set. -/
  | freeAndSet (irp : Nat)
  /-- Before the event is set. -/
  | setEvent
  /-- `CancelSelectSuspend`, before its section. -/
  | cancel
  /-- Before `IoCancelIrp`. -/
  | cancelIrp (irp : Nat)
  /-- The canceller, before it counts down. -/
  | cancelDecrement (irp : Nat)
  deriving DecidableEq

/-- What does not depend on these routines. -/
structure IdleChance where
  /-- `DevPower` is `PowerDeviceD0`. -/
  powered : Bool
  /-- `CanDeviceSuspend`. -/
  canSuspend : Bool
  /-- The callback information is allocated. -/
  allocatesInfo : Bool
  /-- The irp is allocated. -/
  allocatesIrp : Bool
  deriving DecidableEq

/-- The irp and the callback information that a step uses or frees. -/
structure IdleUse where
  /-- The irp. -/
  irp : Option Nat
  /-- The callback information. -/
  info : Option Nat
  deriving DecidableEq

namespace IdleState

/-- A step that uses neither an irp nor callback information. -/
def quietly
    (state : IdleState)
    (later : List IdlePoint) :
    IdleUse × IdleState × List IdlePoint :=
  (⟨none, none⟩, state, later)

/-- A step that uses an irp. -/
def touching
    (state : IdleState)
    (irp : Nat)
    (later : List IdlePoint) :
    IdleUse × IdleState × List IdlePoint :=
  (⟨some irp, none⟩, state, later)

/-- `IoFreeIrp`. -/
def ioFreeIrp
    (state : IdleState)
    (irp : Nat)
    (later : List IdlePoint) :
    IdleUse × IdleState × List IdlePoint :=
  (⟨some irp, none⟩, { state with irps := state.irps.release irp }, later)

/-- `ExFreePool`. -/
def exFreePool
    (state : IdleState)
    (info : Nat)
    (later : List IdlePoint) :
    IdleUse × IdleState × List IdlePoint :=
  (⟨none, some info⟩, { state with infos := state.infos.release info }, later)

/-- The section of `SubmitIdleRequestIrp` that allocates the request. -/
def requestSection
    (state : IdleState)
    (chance : IdleChance) : IdleUse × IdleState × List IdlePoint :=
  if state.idleReqPend then state.quietly []
  else
    match state.infos.request chance.allocatesInfo with
    | (none, _) => quietly { state with noIdleReqPendEvent := true } []
    | (some info, infos) =>
        let state := {
          state with
          infos := infos
          idleCallbackInfo := some info }
        match state.irps.request chance.allocatesIrp with
        | (none, _) =>
            quietly { state with noIdleReqPendEvent := true } [.dropInfo info]
        | (some irp, irps) =>
            quietly {
              state with
              idleReqPend := true
              noIdleReqPendEvent := false
              pendingIdleIrp := some irp
              freeIdleIrpCount := 2
              irps := irps } [.check irp info]

/-- The section of `SubmitIdleRequestIrp` that withdraws the request. -/
def withdrawSection (state : IdleState) : IdleState :=
  { state with
    idleCallbackInfo := none
    pendingIdleIrp := none
    noIdleReqPendEvent := true
    idleReqPend := false }

/-- The section of `IdleNotificationRequestComplete`. -/
def completeSection
    (state : IdleState)
    (irp : Nat) : IdleUse × IdleState × List IdlePoint :=
  quietly {
    state with
    idleCallbackInfo := none
    pendingIdleIrp := none
    idleReqPend := false }
    [.completed irp state.idleCallbackInfo state.pendingIdleIrp.isSome]

/-- The section of `CancelSelectSuspend`. -/
def cancelSection
    (state : IdleState)
    (chance : IdleChance) : IdleUse × IdleState × List IdlePoint :=
  if chance.canSuspend then state.quietly []
  else
    quietly { state with pendingIdleIrp := none }
      (state.pendingIdleIrp.toList.map .cancelIrp)

/-- `InterlockedDecrement` of `FreeIdleIrpCount`. Who reaches zero frees the
irp. -/
def decrement
    (state : IdleState)
    (irp : Nat) : IdleUse × IdleState × List IdlePoint :=
  let result := state.freeIdleIrpCount - 1
  quietly { state with freeIdleIrpCount := result }
    (if result = 0 then [.freeAndSet irp] else [])

/-- What a routine does next. -/
def advance
    (state : IdleState)
    (chance : IdleChance) :
    IdlePoint → IdleUse × IdleState × List IdlePoint
  | .submit => state.quietly (if chance.powered then [.request] else [])
  | .request => state.requestSection chance
  | .dropInfo info => state.exFreePool info []
  | .check irp info =>
      state.quietly
        (if ¬ chance.canSuspend ∨ ¬ chance.powered then [.withdraw irp info]
        else [.callDriver irp])
  | .withdraw irp info => state.withdrawSection.quietly [.freeInfo irp info]
  | .freeInfo irp info => state.exFreePool info [.freeIrp irp]
  | .freeIrp irp => state.ioFreeIrp irp []
  | .callDriver irp => state.touching irp [.lower irp]
  -- the completion routine begins by reading the status of the irp
  | .lower irp => state.touching irp [.complete irp]
  | .complete irp => state.completeSection irp
  | .completed irp info found =>
      let later := [if found then .freeAndSet irp else .completeDecrement irp]
      match info with
      | some info => state.exFreePool info later
      | none => state.quietly later
  | .completeDecrement irp | .cancelDecrement irp => state.decrement irp
  | .freeAndSet irp => state.ioFreeIrp irp [.setEvent]
  | .setEvent => quietly { state with noIdleReqPendEvent := true } []
  | .cancel => state.cancelSection chance
  | .cancelIrp irp => state.touching irp [.cancelDecrement irp]

end IdleState

/-- The routines that begin from outside. -/
inductive IdleRoutine
  | submitIdleRequestIrp
  | cancelSelectSuspend
  deriving DecidableEq

/-- Where a routine begins. -/
def IdleRoutine.entry : IdleRoutine → IdlePoint
  | submitIdleRequestIrp => .submit
  | cancelSelectSuspend => .cancel

/-- The three routines. -/
def idleProgram :
    Program IdleState IdlePoint IdleRoutine IdleChance IdleUse where
  enter state routine := some (state, routine.entry)
  advance state point chance := some (state.advance chance point)

/-! ## The property -/

namespace IdlePoint

/-- One of the three routines is in progress. -/
def inRoutine : IdlePoint → Bool
  | lower _ => false
  | _ => true

/-- The irp that a routine or the lower driver can still free or complete. -/
def irp : IdlePoint → Option Nat
  | check irp _ | withdraw irp _ | freeInfo irp _ | freeIrp irp
  | callDriver irp | lower irp | complete irp | completed irp _ _
  | completeDecrement irp | freeAndSet irp | cancelIrp irp
  | cancelDecrement irp => some irp
  | submit | request | dropInfo _ | setEvent | cancel => none

/-- The callback information that a routine is about to free. -/
def info : IdlePoint → Option Nat
  | dropInfo info | freeInfo _ info => some info
  | completed _ info _ => info
  | _ => none

/-- A routine has yet to decrement `FreeIdleIrpCount`. -/
def decrements : IdlePoint → Bool
  | completed _ _ found => !found
  | completeDecrement _ | cancelIrp _ | cancelDecrement _ => true
  | _ => false

end IdlePoint

/-- No irp and no callback information is used or freed once it has been freed,
none is lost, and without a request nothing is left behind. -/
structure IdleOwned
    (pool : Pool IdleState IdlePoint)
    (output : Option IdleUse)
    (next : Pool IdleState IdlePoint) : Prop where
  /-- An irp is used or freed only while it is not freed. -/
  irp : ∀ use ∈ output, ∀ irp ∈ use.irp, pool.shared.irps.IsOpen irp
  /-- Callback information is freed only while it is not freed. -/
  info : ∀ use ∈ output, ∀ info ∈ use.info, pool.shared.infos.IsOpen info
  /-- An irp that is not freed is with somebody. -/
  irpKept : ∀ irp, next.shared.irps.IsOpen irp →
    ∃ point ∈ next.strands, point.irp = some irp
  /-- Callback information that is not freed is with somebody. -/
  infoKept : ∀ info, next.shared.infos.IsOpen info →
    next.shared.idleCallbackInfo = some info ∨
      ∃ point ∈ next.strands, point.info = some info
  /-- Without a request and with no routine in progress nothing is left, and
  the event is set. -/
  quiet : next.shared.idleReqPend = false →
    (∀ point ∈ next.strands, ¬ point.inRoutine) →
      next.shared.pendingIdleIrp = none ∧
        next.shared.idleCallbackInfo = none ∧
        next.shared.noIdleReqPendEvent = true

/-- The step does not fail to allocate an irp behind the callback information,
does not begin a request while the count of an earlier one is still to be
decremented, and does not free a withdrawn irp that is about to be
cancelled. -/
def IdleConforms
    (state : IdleState)
    (point : IdlePoint)
    (rest : List IdlePoint)
    (chance : IdleChance) : Prop :=
  match point with
  | .request =>
      state.idleReqPend = false → chance.allocatesInfo →
        chance.allocatesIrp ∧ ∀ other ∈ rest, ¬ other.decrements
  | .freeIrp irp => .cancelIrp irp ∉ rest
  | _ => True

end Usb
end BthEmul
