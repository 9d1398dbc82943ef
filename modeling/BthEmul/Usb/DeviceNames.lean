import BthEmul.Usb.LifetimeSafety

/-!
# Names of devices and links

A device takes the first name that is free, and makes a link with the same
number. The name goes with the device object, but the link goes with the pipe
contexts: a device that is stopped loses its link, and does not get it back
when it is started again, and a device that is removed without pipe contexts
leaves its link behind. No device can be added under the number of such a link,
and it is never deleted.
-/

namespace BthEmul

open Foundation

namespace Usb
namespace Lifetime

/-! ## The property -/

/-- There is a link to each device and to nothing else. -/
structure NamesSound (driver : DriverState) : Prop where
  /-- No two devices have one name. -/
  distinct : driver.names.Nodup
  /-- The names have two digits. -/
  bounded : ∀ number ∈ driver.names, number < 99
  /-- The links are those to the devices. -/
  linked : ∀ number, number ∈ driver.links ↔ number ∈ driver.names

/-- A device that is stopped has no pipe contexts, and a device that is removed
has some. -/
def LifetimeAction.NamesConform
    (driver : DriverState) : LifetimeAction → Prop
  | .addDevice answers => (LifetimeAction.addDevice answers).Conforms driver
  | .dispatchPnp index irp =>
      ∀ device ∈ driver.devices[index]?, irp.Releases →
        (irp.Removes ↔ device.pointers.pipeContext.isSome)
  | .driverUnload => True

theorem LifetimeAction.NamesConform.conforms
    {driver : DriverState}
    {action : LifetimeAction}
    (conforms : action.NamesConform driver) : action.Conforms driver := by
  cases action with
  | addDevice answers => exact conforms
  | dispatchPnp index irp => trivial
  | driverUnload => trivial

/-- A link to no device. -/
def DriverState.Dangling (driver : DriverState) (number : Nat) : Prop :=
  number ∈ driver.links ∧ number ∉ driver.names

instance (driver : DriverState) (number : Nat) :
    Decidable (driver.Dangling number) :=
  inferInstanceAs (Decidable (_ ∧ ¬ _))

/-! ## Adding a device -/

theorem not_ntSuccess_collision : ¬ NtSuccess statusObjectNameCollision := by
  decide

/-- The device that is added has the first number for which a device is
created, and there is no link of that number. -/
structure TakesFirst
    (driver : DriverState)
    (answers : AddAnswers)
    (number : Nat) : Prop where
  lt : number < 99
  unnamed : number ∉ driver.names
  unlinked : number ∉ driver.links
  first : ∀ earlier < number,
    earlier ∈ driver.names ∨ ¬ NtSuccess (answers.createDevice earlier)

theorem AddAnswers.Adds.takesFirst
    {driver : DriverState}
    {answers : AddAnswers}
    (adds : answers.Adds driver) :
    TakesFirst driver answers (tryDeviceNames driver answers).2 := by
  obtain ⟨created, linked, -⟩ := adds
  rcases createLoop_cases (ioCreateDevice driver answers)
    not_ntSuccess_collision 0 99 with ⟨-, same, -, lt, first⟩ | ⟨failed, -⟩
  · have named : (tryDeviceNames driver answers).2 ∉ driver.names := by
      intro taken
      have status : (tryDeviceNames driver answers).1 =
          statusObjectNameCollision := same.trans (if_pos taken)
      rw [status] at created
      exact not_ntSuccess_collision created
    refine ⟨by rw [Nat.zero_add] at lt; exact lt, named, ?_, ?_⟩
    · intro taken
      rw [ioCreateSymbolicLink, if_pos taken] at linked
      exact not_ntSuccess_collision linked
    · intro earlier before
      have status := first earlier (Nat.zero_le _) before
      by_cases taken : earlier ∈ driver.names
      · exact .inl taken
      · rw [ioCreateDevice, if_neg taken] at status
        exact .inr status
  · exact absurd created failed

theorem names_concat
    {next : DriverState}
    (devices : next.devices = others ++ [device]) :
    next.names = others.map DeviceObject.instanceNumber ++
      [device.instanceNumber] := by
  rw [DriverState.names, devices, List.map_append, List.map_singleton]

/-- A device that is added gets a link. -/
theorem NamesSound.addDevice
    {driver next : DriverState}
    {answers : AddAnswers}
    (sound : NamesSound driver)
    (leads : (LifetimeAction.addDevice answers).Leads driver next) :
    NamesSound next := by
  by_cases adds : answers.Adds driver
  · obtain ⟨device, devices, same, -, links⟩ := leads.1 adds
    obtain ⟨lt, unnamed, unlinked, -⟩ := adds.takesFirst
    rw [← same] at lt unnamed unlinked links
    have names : next.names = driver.names ++ [device.instanceNumber] :=
      names_concat devices
    refine ⟨?_, ?_, ?_⟩
    · rw [names, ← List.concat_eq_append]
      exact sound.distinct.concat unnamed
    · rw [names]
      exact forall_mem_concat sound.bounded lt
    · intro number
      rw [names, links, List.mem_cons, List.mem_append, List.mem_singleton,
        sound.linked]
      exact Or.comm
  · rw [leads.2 adds]
    exact sound

/-! ## Requests -/

/-- The names of the other devices. -/
theorem names_of_pick
    {driver : DriverState}
    (picked : pick driver.devices index = some (device, others)) :
    driver.names.Perm (device.instanceNumber ::
      others.map DeviceObject.instanceNumber) :=
  (perm_of_pick picked).map _

/-- A request that keeps the device keeps the names. -/
theorem names_of_stays
    {driver next : DriverState}
    (picked : pick driver.devices index = some (device, others))
    (devices : next.devices = others ++ [after])
    (number : after.instanceNumber = device.instanceNumber) :
    next.names.Perm driver.names := by
  rw [names_concat devices, number]
  exact List.perm_append_comm.trans (names_of_pick picked).symm

theorem mem_ioDeleteSymbolicLink
    {links : List Nat}
    {number other : Nat} :
    other ∈ ioDeleteSymbolicLink links number ↔
      other ∈ links ∧ other ≠ number := by
  simp [ioDeleteSymbolicLink]

theorem NamesSound.of_same
    {driver next : DriverState}
    (sound : NamesSound driver)
    (names : next.names.Perm driver.names)
    (links : next.links = driver.links) : NamesSound next where
  distinct := names.nodup_iff.mpr sound.distinct
  bounded number member := sound.bounded number (names.mem_iff.mp member)
  linked number := by
    rw [links, names.mem_iff]
    exact sound.linked number

/-- A request keeps the links to the devices exactly where it conforms. -/
theorem NamesSound.dispatchPnp_iff
    {driver next : DriverState}
    {irp : PnpIrp}
    (sound : NamesSound driver)
    (leads : (LifetimeAction.dispatchPnp index irp).Leads driver next) :
    NamesSound next ↔
      (LifetimeAction.dispatchPnp index irp).NamesConform driver := by
  obtain ⟨device, others, picked, devices, links⟩ := leads
  have found := (pick_eq_some_iff.mp picked).1
  have names := names_of_pick picked
  have here : device.instanceNumber ∈ driver.names :=
    names.mem_iff.mpr List.mem_cons_self
  have conforms_iff :
      (LifetimeAction.dispatchPnp index irp).NamesConform driver ↔
        (irp.Releases →
          (irp.Removes ↔ device.pointers.pipeContext.isSome)) := by
    rw [LifetimeAction.NamesConform, found]
    simp
  rw [conforms_iff]
  rcases devices with ⟨removes, gone⟩ | ⟨stays, after, same, number⟩
  · have releases : irp.Releases := by
      cases irp with
      | removeDevice aborts lowerStatus => trivial
      | _ => exact absurd removes id
    have nodup := names.nodup_iff.mp sound.distinct
    have apart := (List.nodup_cons.mp nodup).1
    have left : next.names = others.map DeviceObject.instanceNumber := by
      rw [DriverState.names, gone]
    rw [if_pos releases] at links
    constructor
    · intro soundNext
      refine fun _ => ⟨fun _ => ?_, fun _ => removes⟩
      by_contra noContext
      rw [DeviceObject.linksReleased, if_neg noContext] at links
      apply apart
      rw [← left, ← soundNext.linked, links]
      exact (sound.linked _).mpr here
    · intro conforms
      have context := (conforms releases).mp removes
      rw [DeviceObject.linksReleased, if_pos context] at links
      refine ⟨?_, ?_, ?_⟩
      · rw [left]
        exact (List.nodup_cons.mp nodup).2
      · intro other member
        rw [left] at member
        exact sound.bounded other
          (names.mem_iff.mpr (List.mem_cons_of_mem _ member))
      · intro other
        rw [links, mem_ioDeleteSymbolicLink, sound.linked, names.mem_iff,
          List.mem_cons, left]
        constructor
        · rintro ⟨rfl | member, different⟩
          · exact absurd rfl different
          · exact member
        · intro member
          refine ⟨.inr member, ?_⟩
          rintro rfl
          exact apart member
  · have kept := names_of_stays picked same number
    by_cases releases : irp.Releases
    · rw [if_pos releases] at links
      constructor
      · intro soundNext
        refine fun _ => ⟨fun removes => absurd removes stays, fun context => ?_⟩
        rw [DeviceObject.linksReleased, if_pos context] at links
        have linked := (soundNext.linked _).mpr (kept.mem_iff.mpr here)
        rw [links, mem_ioDeleteSymbolicLink] at linked
        exact absurd rfl linked.2
      · intro conforms
        have noContext : ¬ device.pointers.pipeContext.isSome :=
          fun context => stays ((conforms releases).mpr context)
        rw [DeviceObject.linksReleased, if_neg noContext] at links
        exact sound.of_same kept links
    · rw [if_neg releases] at links
      exact iff_of_true (sound.of_same kept links)
        fun released => absurd released releases

/-! ## Runs -/

/-- Nothing is lost, and the names are sound. -/
def NamesKept (state : LifetimeState) : Prop :=
  (∃ lost, Owned state lost) ∧ NamesSound state.driver

theorem namesKept_start : NamesKept startLifetime :=
  ⟨⟨[], owned_start⟩, List.nodup_nil, nofun, fun _ => Iff.rfl⟩

/-- An action of a running system that has no result conforms. -/
theorem namesConform_of_stuck
    (running : state.crashed = false)
    (stuck : lifetimeMachine.step state action = none) :
    action.NamesConform state.driver := by
  by_cases conforms : action.Conforms state.driver
  · cases action with
    | addDevice answers => exact conforms
    | driverUnload => trivial
    | dispatchPnp index irp =>
        intro device found
        change lifetimeStep state _ = none at stuck
        have picked : pick state.driver.devices index =
            some (device, state.driver.devices.eraseIdx index) :=
          pick_eq_some_iff.mpr ⟨found, rfl⟩
        simp only [lifetimeStep, running, Bool.false_eq_true, if_false,
          LifetimeAction.routine, picked, Option.bind_eq_bind,
          Option.bind_some] at stuck
        split at stuck <;> cases stuck
  · rw [step_of_not_conforms running conforms] at stuck
    cases stuck

/-- Over any number of devices and any requests to them, there is a link to
each device and to nothing else exactly where `FreeBT_AddDevice` never fails
once the link exists, only devices without pipe contexts are stopped, and only
devices with pipe contexts are removed. -/
theorem namesSound_iff_conform (actions : List LifetimeAction) :
    lifetimeMachine.Always
        (fun _ _ event next => event ≠ .fault ∧ NamesSound next.driver)
        startLifetime actions ↔
      lifetimeMachine.Admits
        (fun state action => action.NamesConform state.driver)
        startLifetime actions := by
  have exact_step : ∀ state action event next,
      NamesKept state →
        lifetimeMachine.step state action = some (event, next) →
          ((event ≠ .fault ∧ NamesSound next.driver) ↔
            action.NamesConform state.driver) := by
    rintro state action event next ⟨⟨lost, owned⟩, sound⟩ stepped
    by_cases conforms : action.Conforms state.driver
    · obtain ⟨noFault, leads, -⟩ := owned.step conforms stepped
      rw [and_iff_right noFault]
      cases action with
      | addDevice answers => exact iff_of_true (sound.addDevice leads) conforms
      | dispatchPnp index irp => exact sound.dispatchPnp_iff leads
      | driverUnload =>
          refine iff_of_true (sound.of_same ?_ leads.2) trivial
          rw [DriverState.names, leads.1]
          exact List.Perm.refl _
    · rw [step_of_not_conforms owned.running conforms] at stepped
      cases stepped
      exact iff_of_false (fun both => both.1 rfl)
        fun namesConform => conforms namesConform.conforms
  apply Machine.always_iff_admits NamesKept exact_step ?_ ?_ namesKept_start
  · rintro state action ⟨⟨lost, owned⟩, -⟩ stuck
    exact namesConform_of_stuck owned.running stuck
  · rintro state action event next kept conforms stepped
    have sound := (exact_step state action event next kept stepped).mpr conforms
    obtain ⟨⟨lost, owned⟩, -⟩ := kept
    obtain ⟨-, -, more, -, after⟩ := owned.step conforms.conforms stepped
    exact ⟨⟨_, after⟩, sound.2⟩

/-! ## Links left behind -/

/-- What becomes of a link to no device: it stays, and no device gets its
number. -/
theorem DriverState.Dangling.leads
    {driver next : DriverState}
    {action : LifetimeAction}
    (dangling : driver.Dangling number)
    (leads : action.Leads driver next) : next.Dangling number := by
  obtain ⟨linked, unnamed⟩ := dangling
  cases action with
  | driverUnload =>
      refine ⟨leads.2 ▸ linked, ?_⟩
      rw [DriverState.names, leads.1]
      exact unnamed
  | addDevice answers =>
      by_cases adds : answers.Adds driver
      · obtain ⟨device, devices, same, -, links⟩ := leads.1 adds
        have free := adds.takesFirst.unlinked
        refine ⟨?_, ?_⟩
        · rw [links]
          exact List.mem_cons_of_mem _ linked
        · rw [names_concat devices, same]
          intro member
          rcases List.mem_append.mp member with old | new
          · exact unnamed old
          · rw [List.mem_singleton.mp new] at linked
            exact free linked
      · rw [leads.2 adds]
        exact ⟨linked, unnamed⟩
  | dispatchPnp index irp =>
      obtain ⟨device, others, picked, devices, links⟩ := leads
      have names := names_of_pick picked
      have different : number ≠ device.instanceNumber := by
        rintro rfl
        exact unnamed (names.mem_iff.mpr List.mem_cons_self)
      refine ⟨?_, ?_⟩
      · rw [links]
        unfold DeviceObject.linksReleased
        split
        · split
          · exact mem_ioDeleteSymbolicLink.mpr ⟨linked, different⟩
          · exact linked
        · exact linked
      · intro member
        apply unnamed
        rcases devices with ⟨-, gone⟩ | ⟨-, after, same, sameNumber⟩
        · rw [DriverState.names, gone] at member
          exact names.mem_iff.mpr (List.mem_cons_of_mem _ member)
        · exact (names_of_stays picked same sameNumber).mem_iff.mp member

/-- No device can be created for lack of anything but a free name. -/
def LifetimeAction.CreatesFree : LifetimeAction → Prop
  | .addDevice answers => ∀ number, NtSuccess (answers.createDevice number)
  | .dispatchPnp _ _ | .driverUnload => True

/-- Devices that are added while a link dangles have smaller numbers. -/
theorem DriverState.Dangling.names_lt
    {driver next : DriverState}
    {action : LifetimeAction}
    (dangling : driver.Dangling number)
    (creates : action.CreatesFree)
    (leads : action.Leads driver next)
    (member : other ∈ next.names) : other ∈ driver.names ∨ other < number := by
  cases action with
  | driverUnload =>
      rw [DriverState.names, leads.1] at member
      exact .inl member
  | dispatchPnp index irp =>
      obtain ⟨device, others, picked, devices, -⟩ := leads
      rcases devices with ⟨-, gone⟩ | ⟨-, after, same, sameNumber⟩
      · rw [DriverState.names, gone] at member
        exact .inl ((names_of_pick picked).mem_iff.mpr
          (List.mem_cons_of_mem _ member))
      · exact .inl ((names_of_stays picked same sameNumber).mem_iff.mp member)
  | addDevice answers =>
      by_cases adds : answers.Adds driver
      · obtain ⟨device, devices, same, -, -⟩ := leads.1 adds
        rw [names_concat devices, same] at member
        rcases List.mem_append.mp member with old | new
        · exact .inl old
        · rw [List.mem_singleton.mp new]
          refine .inr ?_
          have takes := adds.takesFirst
          have free := takes.unlinked
          by_contra notBefore
          rcases Nat.lt_or_eq_of_le (Nat.not_lt.mp notBefore) with less | equal
          · -- the number of the link is free, so it would have been taken
            rcases takes.first number less with taken | failed
            · exact dangling.2 taken
            · exact failed (creates number)
          · rw [← equal] at free
            exact free dangling.1
      · rw [leads.2 adds] at member
        exact .inl member

/-- The blocks of the driver are those allocated and not lost, or something was
used that was freed, and nothing happens any more. -/
def Owns (state : LifetimeState) : Prop :=
  (∃ lost, Owned state lost) ∨ state.crashed = true

/-- An action does what it does to the driver, or faults and leaves it. -/
theorem Owns.step
    {state next : LifetimeState}
    (owns : Owns state)
    (stepped : lifetimeMachine.step state action = some (event, next)) :
    Owns next ∧
      (action.Leads state.driver next.driver ∨ next.driver = state.driver) := by
  rcases owns with ⟨lost, owned⟩ | crashed
  · by_cases conforms : action.Conforms state.driver
    · obtain ⟨-, leads, more, -, after⟩ := owned.step conforms stepped
      exact ⟨.inl ⟨_, after⟩, .inl leads⟩
    · rw [step_of_not_conforms owned.running conforms] at stepped
      cases stepped
      exact ⟨.inr rfl, .inr rfl⟩
  · change lifetimeStep state action = _ at stepped
    rw [lifetimeStep, if_pos crashed] at stepped
    cases stepped

/-- A link to no device is never deleted, and no device gets its number. Where
nothing but a name that is taken keeps a device from being created, devices that
are added have smaller numbers, so that none is added while those are taken. -/
theorem dangling_of_run
    (earlier later : List LifetimeAction)
    (earlierEvents laterEvents : List LifetimeEvent)
    (middle final : LifetimeState)
    (number : Nat)
    (reached : lifetimeMachine.run startLifetime earlier =
      some (earlierEvents, middle))
    (dangling : middle.driver.Dangling number)
    (ran : lifetimeMachine.run middle later = some (laterEvents, final)) :
    final.driver.Dangling number ∧
      ((∀ action ∈ later, action.CreatesFree) →
        ∀ other ∈ final.driver.names,
          other ∈ middle.driver.names ∨ other < number) := by
  have owns : Owns middle :=
    Machine.holds_of_run (fun _ state => Owns state)
      (fun _ _ _ _ _ owns _ stepped => (owns.step stepped).1)
      [] (.inl ⟨[], owned_start⟩)
      (Machine.admits_of_forall (fun _ _ => trivial) _ earlier) reached
  have frees : lifetimeMachine.Admits
      (fun _ action =>
        (∀ each ∈ later, each.CreatesFree) → action.CreatesFree)
      middle later :=
    Machine.admits_of_forall_mem _ fun action member _ free =>
      free action member
  have kept := Machine.holds_of_run
    (fun _ state => Owns state ∧ state.driver.Dangling number ∧
      ((∀ action ∈ later, action.CreatesFree) →
        ∀ other ∈ state.driver.names,
          other ∈ middle.driver.names ∨ other < number))
    (fun _ state action event next kept guarded stepped => by
      obtain ⟨owns, dangles, names⟩ := kept
      obtain ⟨after, leads | same⟩ := owns.step stepped
      · refine ⟨after, dangles.leads leads, ?_⟩
        intro free other member
        rcases dangles.names_lt (guarded free) leads member with old | less
        · exact names free other old
        · exact .inr less
      · rw [same]
        exact ⟨after, dangles, names⟩)
    [] ⟨owns, dangling, fun _ _ => .inl⟩ frees ran
  exact kept.2

/-- The device does not start. -/
def startsNot : PnpIrp :=
  .startDevice {
    lowerStatus := statusDeviceNotConnected
    read := readableDevice
    interfaceState := statusSuccess }

/-- A device that does not start is removed. -/
def oneFailure : List LifetimeAction :=
  [.addDevice addsWell, .dispatchPnp 0 startsNot, .dispatchPnp 0 removesWell]

/-- After one device has failed to start, none can be added. -/
theorem dangling_oneFailure :
    ∃ earlierEvents middle laterEvents final,
      lifetimeMachine.run startLifetime oneFailure =
          some (earlierEvents, middle) ∧
        lifetimeMachine.run middle [.addDevice addsWell, .addDevice addsWell] =
          some (laterEvents, final) ∧
        final.driver.Dangling 0 ∧
        ∀ other ∈ final.driver.names,
          other ∈ middle.driver.names ∨ other < 0 := by
  obtain ⟨earlierEvents, middle, reached, dangling, runs⟩ :
      ∃ earlierEvents middle,
        lifetimeMachine.run startLifetime oneFailure =
            some (earlierEvents, middle) ∧
          middle.driver.Dangling 0 ∧
          (lifetimeMachine.run middle
            [.addDevice addsWell, .addDevice addsWell]).isSome := by
    decide +kernel
  obtain ⟨⟨laterEvents, final⟩, ran⟩ := Option.isSome_iff_exists.mp runs
  obtain ⟨stays, smaller⟩ := dangling_of_run oneFailure
    [.addDevice addsWell, .addDevice addsWell] earlierEvents laterEvents middle
    final 0 reached dangling ran
  refine ⟨earlierEvents, middle, laterEvents, final, reached, ran, stays,
    smaller ?_⟩
  intro action member
  rw [List.mem_pair, or_self] at member
  subst member
  exact fun _ => (by decide : NtSuccess statusSuccess)

end Lifetime
end Usb
end BthEmul
