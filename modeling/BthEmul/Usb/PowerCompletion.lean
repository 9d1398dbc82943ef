import BthEmul.Usb.PowerSettlement

/-!
# How long power requests take

Every step for an irp leaves less to do, so the driver takes no more steps than
the irps from outside allow. While something is left it can go on, or a worker
waits for `StopEvent`.
-/

namespace BthEmul

open Foundation

namespace Usb
namespace Power

/-! ## Work -/

/-- The steps that an irp takes from its handler on, where it takes most. -/
def Irp.work : Irp → Nat
  | system _ => 10
  | device _ context => 4 + context.toList.length
  | waitWake _ => 3
  | other _ => 2

/-- The steps that are left, where there are most. -/
def Point.work : Point → Nat
  | dispatch irp => irp.work + 1
  | handle irp => irp.work
  | skip irp => irp.context.toList.length + 1
  | systemPending _ => 9
  | sendDeviceIrp _ => 8
  | requestPowerIrp _ _ => 7
  | powerUp _ context | powerDown _ context => context.toList.length + 1
  | hold _ context _ => context.toList.length + 3
  | waitWake _ => 2
  | freeWorker _ | devPoCompletion _ _ | cancelWaitWake _ => 1

theorem workLeft_complete (shared : Shared) (irp : Irp) (status : NtStatus) :
    workLeft Point.work (shared.complete irp status).2 =
      irp.context.toList.length := by
  rw [Shared.complete]
  cases irp.context with
  | none => rfl
  | some context => rfl

theorem workLeft_finish (shared : Shared) (irp : Irp) (status : NtStatus) :
    workLeft Point.work (shared.finish irp status).2 =
      irp.context.toList.length :=
  workLeft_complete _ irp status

theorem workLeft_finishWaitWake
    (shared : Shared)
    (number : Nat)
    (status : NtStatus) :
    workLeft Point.work (shared.finishWaitWake number status).2 = 0 :=
  workLeft_complete _ (.waitWake number) status

theorem workLeft_singleton (point : Point) :
    workLeft Point.work [point] = point.work := Nat.add_zero _

theorem workLeft_passDown (shared : Shared) (irp : Irp) :
    workLeft Point.work (shared.passDown irp).2 =
      irp.context.toList.length + 1 :=
  workLeft_singleton _

/-- The routines behind an irp take fewer steps than it. -/
theorem Irp.length_context_lt_work (irp : Irp) :
    irp.context.toList.length + 1 < irp.work := by
  cases irp with
  | system irp => simp [Irp.context, Irp.work]
  | device irp context =>
      rw [Irp.context, Irp.work]
      omega
  | waitWake number => simp [Irp.context, Irp.work]
  | other number => simp [Irp.context, Irp.work]

theorem workLeft_holdIoRequests
    (shared : Shared)
    (irp : DeviceIrp)
    (context : Option Context)
    (chance : Chance) :
    workLeft Point.work (shared.holdIoRequests irp context chance).2 <
      context.toList.length + 4 := by
  fun_cases Shared.holdIoRequests with
  | case1 workers requested =>
      rw [workLeft_finish, Irp.context]
      omega
  | case2 block workers requested workItems failed =>
      rw [workLeft_finish, Irp.context]
      omega
  | case3 block workers requested workItem workItems granted =>
      rw [workLeft_singleton, Point.work]
      omega

/-- The handlers of the minor functions. -/
theorem workLeft_handle
    (capabilities : Capabilities)
    (shared : Shared)
    (chance : Chance)
    (irp : Irp) :
    workLeft Point.work (shared.advance capabilities chance (.handle irp)).2 <
      irp.work := by
  have finished := irp.length_context_lt_work
  match irp with
  | .system irp =>
      rw [Shared.advance]
      fun_cases Shared.handleSystem with
      | case1 incompatible =>
          rw [workLeft_finish]
          omega
      | case2 compatible =>
          rw [workLeft_singleton]
          exact Nat.lt_succ_self 9
  | .device irp context =>
      have held := workLeft_holdIoRequests shared irp context chance
      rw [Irp.work, Nat.add_comm]
      rw [Irp.context] at finished
      rw [Shared.advance]
      cases irp.minor with
      | setPower =>
          dsimp only
          fun_cases Shared.handleDeviceSetPower with
          | case1 up =>
              rw [workLeft_singleton, Point.work]
              omega
          | case2 notUp down => exact held
          | case3 notUp notDown =>
              rw [workLeft_singleton, Point.work]
              omega
      | queryPower =>
          dsimp only
          fun_cases Shared.handleDeviceQueryPower with
          | case1 incompatible =>
              rw [workLeft_finish, Irp.context]
              omega
          | case2 compatible up =>
              rw [workLeft_passDown, Irp.context]
              omega
          | case3 compatible notUp => exact held
  | .waitWake number =>
      rw [Shared.advance, workLeft_singleton]
      exact Nat.lt_succ_self 2
  | .other number =>
      rw [Shared.advance, workLeft_passDown]
      exact finished

/-- Every step leaves fewer steps than there were. -/
theorem workLeft_advance
    (capabilities : Capabilities)
    (shared : Shared)
    (chance : Chance)
    (point : Point) :
    workLeft Point.work (shared.advance capabilities chance point).2 <
      point.work := by
  cases point with
  | dispatch irp =>
      have finished := irp.length_context_lt_work
      rw [Shared.advance, Point.work]
      split_ifs with removed notStarted
      · rw [workLeft_finish]
        omega
      · rw [workLeft_passDown]
        omega
      · rw [workLeft_singleton, Point.work]
        omega
  | handle irp => exact workLeft_handle capabilities shared chance irp
  | skip irp =>
      rw [Shared.advance, workLeft_complete, Point.work]
      omega
  | systemPending irp =>
      rw [Shared.advance]
      split_ifs with succeeds
      · rw [workLeft_singleton]
        exact Nat.lt_succ_self 8
      · rw [workLeft_finish]
        exact Nat.zero_lt_succ 8
  | sendDeviceIrp irp =>
      rw [Shared.advance]
      split
      case h_1 contexts failed =>
        rw [workLeft_finish]
        exact Nat.zero_lt_succ 7
      case h_2 block contexts granted =>
        rw [workLeft_singleton]
        exact Nat.lt_succ_self 7
  | requestPowerIrp irp block =>
      rw [Shared.advance]
      split_ifs with succeeds
      · rw [Shared.requestDevice, workLeft_singleton]
        exact Nat.lt_succ_self 6
      · rw [workLeft_finish]
        exact Nat.zero_lt_succ 6
  | powerUp irp context =>
      rw [Shared.advance, Point.work]
      split_ifs with succeeds
      · rw [workLeft_finish, Irp.context]
        omega
      · rw [workLeft_finish, Irp.context]
        omega
  | powerDown irp context =>
      rw [Shared.advance, Point.work]
      split_ifs with down
      · rw [workLeft_finish, Irp.context]
        omega
      · rw [workLeft_finish, Irp.context]
        omega
  | hold irp context worker =>
      rw [Shared.advance, workLeft_cons, workLeft_singleton]
      simp only [Point.work]
      omega
  | freeWorker worker => exact Nat.zero_lt_one
  | devPoCompletion context status =>
      rw [Shared.advance, workLeft_finish]
      exact Nat.zero_lt_one
  | waitWake number =>
      rw [Shared.advance]
      split_ifs with cancelled
      · rw [workLeft_singleton]
        exact Nat.one_lt_two
      · rw [workLeft_finishWaitWake]
        exact Nat.zero_lt_two
  | cancelWaitWake number =>
      rw [Shared.advance, workLeft_finishWaitWake]
      exact Nat.zero_lt_one

end Power
end Usb
end BthEmul
