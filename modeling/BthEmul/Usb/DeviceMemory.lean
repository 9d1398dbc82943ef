import BthEmul.Foundation.Ownership
import BthEmul.Usb.Device

/-!
# Memory of a USB device

The device extension has pointers to three blocks of pool memory, which are
allocated while the device starts and freed when it stops or is removed. Each
routine is modelled with the blocks it allocates, looks at and frees; the
system says which allocations succeed and how the requests to the lower driver
end.

What a routine does with the blocks is proved on its own, for any blocks that
others hold. A configuration descriptor that cannot be read is lost.
-/

namespace BthEmul
namespace Usb
namespace Lifetime

open Foundation Routine

/-! ## The device -/

/-- `USBD_INTERFACE_INFORMATION`. -/
structure UsbInterface where
  /-- The block. -/
  block : Nat
  /-- `NumberOfPipes`. -/
  numberOfPipes : Nat
  deriving DecidableEq

/-- An array of `FREEBT_PIPE_CONTEXT`. -/
structure PipeContext where
  /-- The block. -/
  block : Nat
  /-- `PipeOpen` of each element. -/
  pipeOpen : List Bool
  deriving DecidableEq

/-- The pointers of the device extension to pool memory. -/
structure DevicePointers where
  /-- `UsbConfigurationDescriptor`. -/
  usbConfigurationDescriptor : Option Nat
  /-- `UsbInterface`. -/
  usbInterface : Option UsbInterface
  /-- `PipeContext`. -/
  pipeContext : Option PipeContext
  deriving DecidableEq

namespace DevicePointers

/-- Null pointers. -/
def null : DevicePointers where
  usbConfigurationDescriptor := none
  usbInterface := none
  pipeContext := none

/-- The blocks of the interface. -/
def interfaceBlocks (pointers : DevicePointers) : List Nat :=
  (pointers.usbInterface.map UsbInterface.block).toList ++
    (pointers.pipeContext.map PipeContext.block).toList

/-- The blocks pointed to. -/
def blocks (pointers : DevicePointers) : List Nat :=
  pointers.usbConfigurationDescriptor.toList ++ pointers.interfaceBlocks

/-- No pipe is open, and each pipe has a context. -/
structure Sound (pointers : DevicePointers) : Prop where
  /-- `PipeOpen` is false everywhere. -/
  closed : ∀ context ∈ pointers.pipeContext,
    ∀ pipeOpen ∈ context.pipeOpen, pipeOpen = false
  /-- The array has an element for each pipe. -/
  sized : ∀ interface ∈ pointers.usbInterface,
    ∀ context ∈ pointers.pipeContext,
      context.pipeOpen.length = interface.numberOfPipes

theorem sound_null : null.Sound where
  closed := nofun
  sized := nofun

end DevicePointers

/-! ## What the system answers -/

/-- What `SelectInterfaces` is answered. -/
structure SelectAnswers where
  /-- The list of interfaces is allocated. -/
  interfaceList : Bool
  /-- `USBD_CreateConfigurationRequestEx` allocates an URB. -/
  createRequest : Bool
  /-- How the URB ends. -/
  status : NtStatus
  /-- `NumberOfPipes` of the interface. -/
  numberOfPipes : Nat
  /-- `UsbInterface` is allocated. -/
  usbInterface : Bool
  /-- `PipeContext` is allocated. -/
  pipeContext : Bool

/-- What `ConfigureDevice` is answered. -/
structure ConfigureAnswers where
  /-- The URB is allocated. -/
  urb : Bool
  /-- Memory for the descriptor without what follows it is allocated. -/
  fixedDescriptor : Bool
  /-- How reading it ends. -/
  fixedStatus : NtStatus
  /-- Memory for the whole descriptor is allocated. -/
  wholeDescriptor : Bool
  /-- How reading it ends. -/
  wholeStatus : NtStatus
  /-- What selecting the interfaces is answered. -/
  select : SelectAnswers

/-- What `ReadandSelectDescriptors` is answered. -/
structure ReadAnswers where
  /-- The URB is allocated. -/
  urb : Bool
  /-- Memory for the device descriptor is allocated. -/
  deviceDescriptor : Bool
  /-- How reading it ends. -/
  status : NtStatus
  /-- What configuring the device is answered. -/
  configure : ConfigureAnswers

/-! ## Starting a device -/

/-- `SelectInterfaces` once the configuration has been selected. -/
def saveInterface
    (answers : SelectAnswers)
    (pointers : DevicePointers)
    (urb : Nat) : Routine (NtStatus × DevicePointers) := do
  let usbInterface ← acquire answers.usbInterface
  let pipeContext ← acquire answers.pipeContext
  touchAll (urb :: (usbInterface.toList ++ pipeContext.toList))
  let ntStatus :=
    if usbInterface.isSome ∧ pipeContext.isSome then answers.status
    else statusInsufficientResources
  return (ntStatus, {
    pointers with
    usbInterface := usbInterface.map fun block => {
      block
      numberOfPipes := answers.numberOfPipes }
    pipeContext := pipeContext.map fun block => {
      block
      pipeOpen := List.replicate answers.numberOfPipes false } })

/-- `SelectInterfaces` with the URB of `USBD_CreateConfigurationRequestEx`. -/
def selectConfiguration
    (answers : SelectAnswers)
    (pointers : DevicePointers)
    (urb : Nat) : Routine (NtStatus × DevicePointers) := do
  touch urb
  if NtSuccess answers.status then saveInterface answers pointers urb
  else return (answers.status, pointers)

/-- `SelectInterfaces`. -/
def selectInterfaces
    (answers : SelectAnswers)
    (pointers : DevicePointers)
    (configurationDescriptor : Nat) : Routine (NtStatus × DevicePointers) := do
  match ← acquire answers.interfaceList with
  | none => return (statusInsufficientResources, pointers)
  | some tmp =>
      touchAll [configurationDescriptor, tmp]
      match ← acquire answers.createRequest with
      | none =>
          free tmp
          return (statusInsufficientResources, pointers)
      | some urb =>
          let result ← selectConfiguration answers pointers urb
          free tmp
          free urb
          return result

/-- `ConfigureDevice` once the fixed part of the descriptor has been read and
freed. -/
def readWholeDescriptor
    (answers : ConfigureAnswers)
    (pointers : DevicePointers)
    (urb : Nat) : Routine (NtStatus × DevicePointers) := do
  match ← acquire answers.wholeDescriptor with
  | none => return (statusInsufficientResources, pointers)
  | some configurationDescriptor =>
      touchAll [urb, configurationDescriptor]
      if NtSuccess answers.wholeStatus then
        selectInterfaces answers.select {
          pointers with
          usbConfigurationDescriptor := some configurationDescriptor }
          configurationDescriptor
      -- The block is not freed.
      else return (answers.wholeStatus, pointers)

/-- `ConfigureDevice` from the first allocation of a descriptor to
`ConfigureDevice_Exit`. -/
def readConfiguration
    (answers : ConfigureAnswers)
    (pointers : DevicePointers)
    (urb : Nat) : Routine (NtStatus × DevicePointers) := do
  match ← acquire answers.fixedDescriptor with
  | none => return (statusInsufficientResources, pointers)
  | some configurationDescriptor =>
      touchAll [urb, configurationDescriptor]
      if NtSuccess answers.fixedStatus then
        free configurationDescriptor
        readWholeDescriptor answers pointers urb
      -- The block is not freed.
      else return (answers.fixedStatus, pointers)

/-- `ConfigureDevice`. -/
def configureDevice
    (answers : ConfigureAnswers)
    (pointers : DevicePointers) : Routine (NtStatus × DevicePointers) := do
  match ← acquire answers.urb with
  | none => return (statusInsufficientResources, pointers)
  | some urb =>
      let result ← readConfiguration answers pointers urb
      free urb
      return result

/-- `ReadandSelectDescriptors` with both blocks allocated. -/
def readDeviceDescriptor
    (answers : ReadAnswers)
    (pointers : DevicePointers)
    (urb deviceDescriptor : Nat) : Routine (NtStatus × DevicePointers) := do
  touchAll [urb, deviceDescriptor]
  if NtSuccess answers.status then
    configureDevice answers.configure pointers
  else return (answers.status, pointers)

/-- `ReadandSelectDescriptors`. -/
def readandSelectDescriptors
    (answers : ReadAnswers)
    (pointers : DevicePointers) : Routine (NtStatus × DevicePointers) := do
  match ← acquire answers.urb with
  | none => return (statusInsufficientResources, pointers)
  | some urb =>
      match ← acquire answers.deviceDescriptor with
      | none =>
          free urb
          return (statusInsufficientResources, pointers)
      | some deviceDescriptor =>
          let result ←
            readDeviceDescriptor answers pointers urb deviceDescriptor
          free urb
          free deviceDescriptor
          return result

/-! ## Stopping a device -/

/-- The pool memory that `ReleaseMemory` frees. -/
def freePointers (pointers : DevicePointers) : Routine DevicePointers := do
  freeAll pointers.usbConfigurationDescriptor.toList
  freeAll (pointers.usbInterface.map UsbInterface.block).toList
  freeAll (pointers.pipeContext.map PipeContext.block).toList
  return .null

/-- `DeconfigureDevice`. -/
def deconfigureDevice
    (urb : Bool)
    (status : NtStatus) : Routine NtStatus := do
  match ← acquire urb with
  | none => return statusInsufficientResources
  | some urb =>
      touch urb
      free urb
      return status

/-- The loop of `FreeBT_AbortPipes`, from the pipe `i` on. -/
def abortLoop
    (answers : Nat → Bool × NtStatus)
    (pipeOpen : List Bool)
    (i : Nat) : (remaining : Nat) → Routine (NtStatus × List Bool)
  | 0 => return (statusSuccess, pipeOpen)
  | remaining + 1 =>
      match pipeOpen[i]? with
      | none => failure
      | some false => abortLoop answers pipeOpen (i + 1) remaining
      | some true => do
          match ← acquire (answers i).1 with
          | none => return (statusInsufficientResources, pipeOpen)
          | some urb =>
              touch urb
              free urb
              let pipeOpen :=
                if NtSuccess (answers i).2 then pipeOpen.set i false
                else pipeOpen
              abortLoop answers pipeOpen (i + 1) remaining

/-- `FreeBT_AbortPipes`. -/
def abortPipes
    (answers : Nat → Bool × NtStatus)
    (pointers : DevicePointers) : Routine (NtStatus × DevicePointers) := do
  match pointers.usbInterface, pointers.pipeContext with
  | some interface, some context =>
      touchAll [interface.block, context.block]
      let (ntStatus, pipeOpen) ←
        abortLoop answers context.pipeOpen 0 interface.numberOfPipes
      return (ntStatus, {
        pointers with pipeContext := some { context with pipeOpen } })
  | _, _ => return (statusSuccess, pointers)

/-! ## What starting does -/

/-- The interface has been saved, or not, and nothing else is left. -/
structure Selected
    (held : List Nat)
    (pointers : DevicePointers)
    (result : NtStatus × DevicePointers)
    (kept : List Nat) : Prop where
  /-- The descriptor stays. -/
  descriptor : result.2.usbConfigurationDescriptor =
    pointers.usbConfigurationDescriptor
  /-- The contexts are those of the pipes. -/
  sound : result.2.Sound
  /-- A success has contexts. -/
  complete : NtSuccess result.1 → result.2.pipeContext.isSome
  /-- The blocks of the interface are new. -/
  kept : kept.Perm (result.2.interfaceBlocks ++ held)

/-- There is no interface yet. -/
structure Unselected (pointers : DevicePointers) : Prop where
  usbInterface : pointers.usbInterface = none
  pipeContext : pointers.pipeContext = none

theorem Unselected.selected
    {pointers : DevicePointers}
    (unselected : Unselected pointers)
    (failed : ¬ NtSuccess status)
    (perm : kept.Perm held) :
    Selected held pointers (status, pointers) kept where
  descriptor := rfl
  sound := by
    constructor
    · rw [unselected.pipeContext]
      nofun
    · rw [unselected.usbInterface]
      nofun
  complete succeeded := absurd succeeded failed
  kept := by
    rw [DevicePointers.interfaceBlocks, unselected.usbInterface,
      unselected.pipeContext]
    exact perm

theorem not_ntSuccess_insufficientResources :
    ¬ NtSuccess statusInsufficientResources := by
  decide

theorem owns_saveInterface
    {held : List Nat}
    (answers : SelectAnswers)
    (pointers : DevicePointers)
    (member : urb ∈ held) :
    Owns held (saveInterface answers pointers urb)
      (Selected held pointers) := by
  refine (owns_acquire held answers.usbInterface).bind ?_
  rintro usbInterface _ ⟨-, rfl⟩
  refine (owns_acquire _ answers.pipeContext).bind ?_
  rintro pipeContext _ ⟨-, rfl⟩
  refine (owns_touchAll ?_).bind ?_
  · intro block touched
    rw [List.mem_cons, List.mem_append] at touched
    rw [List.mem_append, List.mem_append]
    rcases touched with rfl | new | new
    · exact .inr (.inr member)
    · exact .inr (.inl new)
    · exact .inl new
  rintro _ _ rfl
  refine owns_pure ⟨rfl, ⟨?_, ?_⟩, ?_, ?_⟩
  · intro context found each among
    obtain ⟨block, -, rfl⟩ := Option.map_eq_some_iff.mp found
    exact List.eq_of_mem_replicate among
  · intro interface foundInterface context foundContext
    obtain ⟨block, -, rfl⟩ := Option.map_eq_some_iff.mp foundInterface
    obtain ⟨other, -, rfl⟩ := Option.map_eq_some_iff.mp foundContext
    exact List.length_replicate
  · intro succeeded
    dsimp only at succeeded
    split at succeeded
    · rename_i both
      rw [Option.isSome_map]
      exact both.2
    · exact absurd succeeded not_ntSuccess_insufficientResources
  · have same : ({
        pointers with
        usbInterface := usbInterface.map fun block => {
          block
          numberOfPipes := answers.numberOfPipes }
        pipeContext := pipeContext.map fun block => {
          block
          pipeOpen := List.replicate answers.numberOfPipes false } :
          DevicePointers}).interfaceBlocks =
        usbInterface.toList ++ pipeContext.toList := by
      cases usbInterface <;> cases pipeContext <;> rfl
    rw [same, List.append_assoc]
    exact List.perm_append_comm_assoc _ _ _

theorem owns_selectConfiguration
    {held : List Nat}
    {pointers : DevicePointers}
    (answers : SelectAnswers)
    (unselected : Unselected pointers)
    (member : urb ∈ held) :
    Owns held (selectConfiguration answers pointers urb)
      (Selected held pointers) := by
  refine (owns_touch member).bind ?_
  rintro _ _ rfl
  by_cases succeeded : NtSuccess answers.status
  · rw [if_pos succeeded]
    exact owns_saveInterface answers pointers member
  · rw [if_neg succeeded]
    exact owns_pure (unselected.selected succeeded (List.Perm.refl _))

theorem owns_selectInterfaces
    {held : List Nat}
    {pointers : DevicePointers}
    (answers : SelectAnswers)
    (unselected : Unselected pointers)
    (member : configurationDescriptor ∈ held) :
    Owns held (selectInterfaces answers pointers configurationDescriptor)
      (Selected held pointers) := by
  refine (owns_acquire held answers.interfaceList).bind ?_
  rintro list _ ⟨-, rfl⟩
  cases list with
  | none =>
      exact owns_pure (unselected.selected
        not_ntSuccess_insufficientResources (List.Perm.refl _))
  | some tmp =>
      refine (owns_touchAll ?_).bind ?_
      · intro block touched
        rw [List.mem_pair] at touched
        rcases touched with rfl | rfl
        · exact List.mem_cons_of_mem _ member
        · exact List.mem_cons_self
      rintro _ _ rfl
      refine (owns_acquire _ answers.createRequest).bind ?_
      rintro request _ ⟨-, rfl⟩
      cases request with
      | none =>
          refine (owns_free (List.Perm.refl _)).bind ?_
          rintro _ _ rfl
          exact owns_pure (unselected.selected
            not_ntSuccess_insufficientResources (List.Perm.refl _))
      | some urb =>
          refine (owns_selectConfiguration answers unselected
            List.mem_cons_self).bind ?_
          rintro result kept selected
          have freeList : kept.Perm
              (tmp :: (urb :: (result.2.interfaceBlocks ++ held))) := by
            refine selected.kept.trans ?_
            refine List.perm_middle.trans ?_
            exact (List.perm_middle.cons urb).trans (List.Perm.swap _ _ _)
          refine (owns_free freeList).bind ?_
          rintro _ _ rfl
          refine (owns_free (List.Perm.refl _)).bind ?_
          rintro _ _ rfl
          exact owns_pure ⟨selected.descriptor, selected.sound,
            selected.complete, List.Perm.refl _⟩

/-- A configuration descriptor is allocated and cannot be read. -/
def ConfigureAnswers.LosesDescriptor (answers : ConfigureAnswers) : Prop :=
  answers.urb ∧ answers.fixedDescriptor ∧
    (NtSuccess answers.fixedStatus →
      answers.wholeDescriptor ∧ ¬ NtSuccess answers.wholeStatus)

instance (answers : ConfigureAnswers) : Decidable answers.LosesDescriptor :=
  inferInstanceAs (Decidable (_ ∧ _ ∧ (_ → _ ∧ ¬ _)))

/-- `ConfigureDevice` is called and loses a descriptor. -/
def ReadAnswers.LosesDescriptor (answers : ReadAnswers) : Prop :=
  answers.urb ∧ answers.deviceDescriptor ∧ NtSuccess answers.status ∧
    answers.configure.LosesDescriptor

instance (answers : ReadAnswers) : Decidable answers.LosesDescriptor :=
  inferInstanceAs (Decidable (_ ∧ _ ∧ _ ∧ _))

/-- What is left of starting a device: the blocks pointed to, and a block that
was lost if there was one. -/
structure Configured
    (loses : Prop)
    (held : List Nat)
    (result : NtStatus × DevicePointers)
    (kept : List Nat) : Prop where
  /-- The contexts are those of the pipes. -/
  sound : result.2.Sound
  /-- A success has contexts. -/
  complete : NtSuccess result.1 → result.2.pipeContext.isSome
  /-- Nothing else is left. -/
  kept : (¬ loses ∧ kept.Perm (result.2.blocks ++ held)) ∨
    (loses ∧ ∃ block, kept.Perm (block :: (result.2.blocks ++ held)))

/-- A failure before anything was saved. -/
theorem configured_failure
    {held kept : List Nat}
    (failed : ¬ NtSuccess status)
    (keeps : ¬ loses)
    (perm : kept.Perm held) : Configured loses held (status, .null) kept where
  sound := DevicePointers.sound_null
  complete succeeded := absurd succeeded failed
  kept := .inl ⟨keeps, perm⟩

/-- A failure that leaves a block behind. -/
theorem configured_lost
    {held : List Nat}
    (failed : ¬ NtSuccess status)
    (loses : lost)
    (block : Nat) :
    Configured lost held (status, .null) (block :: held) where
  sound := DevicePointers.sound_null
  complete succeeded := absurd succeeded failed
  kept := .inr ⟨loses, block, List.Perm.refl _⟩

theorem Configured.congr
    {held kept : List Nat}
    (configured : Configured loses held result kept)
    (same : loses ↔ others) : Configured others held result kept where
  sound := configured.sound
  complete := configured.complete
  kept := by
    rw [← same]
    exact configured.kept

/-- Scratch memory is freed at the end. -/
theorem Configured.free
    {held kept : List Nat}
    (configured : Configured loses (block :: held) result kept) :
    ∃ left, kept.Perm (block :: left) ∧
      Configured loses held result left := by
  rcases configured.kept with ⟨keeps, perm⟩ | ⟨lost, other, perm⟩
  · refine ⟨result.2.blocks ++ held, perm.trans List.perm_middle, ?_⟩
    exact ⟨configured.sound, configured.complete,
      .inl ⟨keeps, List.Perm.refl _⟩⟩
  · refine ⟨other :: (result.2.blocks ++ held), ?_, ?_⟩
    · refine perm.trans ?_
      exact (List.perm_middle.cons other).trans (List.Perm.swap _ _ _)
    · exact ⟨configured.sound, configured.complete,
        .inr ⟨lost, other, List.Perm.refl _⟩⟩

theorem owns_readWholeDescriptor
    {held : List Nat}
    (answers : ConfigureAnswers)
    (member : urb ∈ held) :
    Owns held (readWholeDescriptor answers .null urb)
      (Configured (answers.wholeDescriptor ∧ ¬ NtSuccess answers.wholeStatus)
        held) := by
  refine (owns_acquire held answers.wholeDescriptor).bind ?_
  rintro descriptor _ ⟨granted, rfl⟩
  cases descriptor with
  | none =>
      apply owns_pure
      apply configured_failure not_ntSuccess_insufficientResources
      · rw [← granted]
        exact fun both => Bool.false_ne_true both.1
      · exact List.Perm.refl _
  | some configurationDescriptor =>
      refine (owns_touchAll ?_).bind ?_
      · intro block touched
        rw [List.mem_pair] at touched
        rcases touched with rfl | rfl
        · exact List.mem_cons_of_mem _ member
        · exact List.mem_cons_self
      rintro _ _ rfl
      by_cases succeeded : NtSuccess answers.wholeStatus
      · rw [if_pos succeeded]
        refine (owns_selectInterfaces answers.select
          ⟨rfl, rfl⟩ List.mem_cons_self).mono ?_
        intro result kept selected
        refine ⟨selected.sound, selected.complete, .inl ⟨?_, ?_⟩⟩
        · exact fun both => both.2 succeeded
        · rw [DevicePointers.blocks, selected.descriptor]
          exact selected.kept.trans List.perm_middle
      · rw [if_neg succeeded]
        exact owns_pure (configured_lost succeeded
          ⟨granted.symm, succeeded⟩ configurationDescriptor)

theorem owns_readConfiguration
    {held : List Nat}
    (answers : ConfigureAnswers)
    (member : urb ∈ held) :
    Owns held (readConfiguration answers .null urb)
      (Configured (answers.fixedDescriptor ∧
        (NtSuccess answers.fixedStatus →
          answers.wholeDescriptor ∧ ¬ NtSuccess answers.wholeStatus))
        held) := by
  refine (owns_acquire held answers.fixedDescriptor).bind ?_
  rintro descriptor _ ⟨granted, rfl⟩
  cases descriptor with
  | none =>
      apply owns_pure
      apply configured_failure not_ntSuccess_insufficientResources
      · rw [← granted]
        exact fun both => Bool.false_ne_true both.1
      · exact List.Perm.refl _
  | some configurationDescriptor =>
      refine (owns_touchAll ?_).bind ?_
      · intro block touched
        rw [List.mem_pair] at touched
        rcases touched with rfl | rfl
        · exact List.mem_cons_of_mem _ member
        · exact List.mem_cons_self
      rintro _ _ rfl
      by_cases succeeded : NtSuccess answers.fixedStatus
      · rw [if_pos succeeded]
        refine (owns_free (List.Perm.refl _)).bind ?_
        rintro _ _ rfl
        refine (owns_readWholeDescriptor answers member).mono ?_
        intro result kept configured
        apply configured.congr
        exact ⟨fun lost => ⟨granted.symm, fun _ => lost⟩,
          fun lost => lost.2 succeeded⟩
      · rw [if_neg succeeded]
        exact owns_pure (configured_lost succeeded
          ⟨granted.symm, fun read => absurd read succeeded⟩
          configurationDescriptor)

theorem owns_configureDevice
    (held : List Nat)
    (answers : ConfigureAnswers) :
    Owns held (configureDevice answers .null)
      (Configured answers.LosesDescriptor held) := by
  refine (owns_acquire held answers.urb).bind ?_
  rintro urb _ ⟨granted, rfl⟩
  cases urb with
  | none =>
      apply owns_pure
      apply configured_failure not_ntSuccess_insufficientResources
      · rw [ConfigureAnswers.LosesDescriptor, ← granted]
        exact fun loses => Bool.false_ne_true loses.1
      · exact List.Perm.refl _
  | some urb =>
      refine (owns_readConfiguration answers List.mem_cons_self).bind ?_
      intro result kept configured
      obtain ⟨left, perm, configured⟩ := configured.free
      refine (owns_free perm).bind ?_
      rintro _ _ rfl
      apply owns_pure
      apply configured.congr
      exact ⟨fun lost => ⟨granted.symm, lost⟩, fun lost => lost.2⟩

theorem owns_readDeviceDescriptor
    {held : List Nat}
    (answers : ReadAnswers)
    (urbMember : urb ∈ held)
    (descriptorMember : deviceDescriptor ∈ held) :
    Owns held (readDeviceDescriptor answers .null urb deviceDescriptor)
      (Configured (NtSuccess answers.status ∧
        answers.configure.LosesDescriptor) held) := by
  refine (owns_touchAll ?_).bind ?_
  · intro block touched
    rw [List.mem_pair] at touched
    rcases touched with rfl | rfl
    · exact urbMember
    · exact descriptorMember
  rintro _ _ rfl
  by_cases succeeded : NtSuccess answers.status
  · rw [if_pos succeeded]
    refine (owns_configureDevice _ answers.configure).mono ?_
    intro result kept configured
    apply configured.congr
    exact ⟨fun lost => ⟨succeeded, lost⟩, fun lost => lost.2⟩
  · rw [if_neg succeeded]
    apply owns_pure
    exact configured_failure succeeded (fun loses => succeeded loses.1)
      (List.Perm.refl _)

/-- A device that starts has the blocks that its pointers point to, and has
lost one only where a configuration descriptor could not be read. -/
theorem owns_readandSelectDescriptors
    (held : List Nat)
    (answers : ReadAnswers) :
    Owns held (readandSelectDescriptors answers .null)
      (Configured answers.LosesDescriptor held) := by
  refine (owns_acquire held answers.urb).bind ?_
  rintro urb _ ⟨grantedUrb, rfl⟩
  cases urb with
  | none =>
      apply owns_pure
      apply configured_failure not_ntSuccess_insufficientResources
      · rw [ReadAnswers.LosesDescriptor, ← grantedUrb]
        exact fun loses => Bool.false_ne_true loses.1
      · exact List.Perm.refl _
  | some urb =>
      refine (owns_acquire _ answers.deviceDescriptor).bind ?_
      rintro descriptor _ ⟨granted, rfl⟩
      cases descriptor with
      | none =>
          refine (owns_free (List.Perm.refl _)).bind ?_
          rintro _ _ rfl
          apply owns_pure
          apply configured_failure not_ntSuccess_insufficientResources
          · rw [ReadAnswers.LosesDescriptor, ← granted]
            exact fun loses => Bool.false_ne_true loses.2.1
          · exact List.Perm.refl _
      | some deviceDescriptor =>
          have reads : Owns (deviceDescriptor :: urb :: held) _ _ :=
            owns_readDeviceDescriptor answers
              (List.mem_cons_of_mem _ List.mem_cons_self) List.mem_cons_self
          refine reads.bind ?_
          intro result kept configured
          obtain ⟨left, perm, configured⟩ := configured.free
          obtain ⟨rest, permRest, configured⟩ := configured.free
          have freeUrb : kept.Perm (urb :: (deviceDescriptor :: rest)) :=
            perm.trans ((permRest.cons _).trans (List.Perm.swap _ _ _))
          refine (owns_free freeUrb).bind ?_
          rintro _ _ rfl
          refine (owns_free (List.Perm.refl _)).bind ?_
          rintro _ _ rfl
          apply owns_pure
          apply configured.congr
          exact ⟨fun lost => ⟨grantedUrb.symm, granted.symm, lost⟩,
            fun lost => lost.2.2⟩

/-! ## What stopping does -/

/-- The blocks pointed to are freed. -/
theorem owns_freePointers
    {held : List Nat}
    (pointers : DevicePointers)
    (perm : held.Perm (pointers.blocks ++ kept)) :
    Owns held (freePointers pointers) fun result left =>
      result = .null ∧ left.Perm kept := by
  rw [DevicePointers.blocks, DevicePointers.interfaceBlocks,
    List.append_assoc, List.append_assoc] at perm
  refine (owns_freeAll perm).bind ?_
  intro _ first permFirst
  refine (owns_freeAll permFirst).bind ?_
  intro _ second permSecond
  refine (owns_freeAll permSecond).bind ?_
  intro _ third permThird
  exact owns_pure ⟨rfl, permThird⟩

/-- Nothing is left of `DeconfigureDevice`. -/
theorem owns_deconfigureDevice
    (held : List Nat)
    (urb : Bool)
    (status : NtStatus) :
    Owns held (deconfigureDevice urb status) fun _ kept => kept = held := by
  refine (owns_acquire held urb).bind ?_
  rintro block _ ⟨-, rfl⟩
  cases block with
  | none => exact owns_pure rfl
  | some block =>
      refine (owns_touch List.mem_cons_self).bind ?_
      rintro _ _ rfl
      refine (owns_free (List.Perm.refl _)).bind ?_
      rintro _ _ rfl
      exact owns_pure rfl

/-- Where no pipe is open, the loop does nothing. -/
theorem abortLoop_of_closed
    (answers : Nat → Bool × NtStatus)
    (closed : ∀ each ∈ pipeOpen, each = false)
    (inside : i + remaining ≤ pipeOpen.length) :
    abortLoop answers pipeOpen i remaining =
      pure (statusSuccess, pipeOpen) := by
  induction remaining generalizing i with
  | zero => rfl
  | succ remaining inductionHypothesis =>
      have present : i < pipeOpen.length := by omega
      have isClosed : pipeOpen[i]? = some false := by
        rw [List.getElem?_eq_getElem present]
        exact congrArg some (closed _ (List.getElem_mem present))
      rw [abortLoop, isClosed]
      exact inductionHypothesis (by omega)

/-- `FreeBT_AbortPipes` aborts no pipe, and leaves everything as it is. -/
theorem owns_abortPipes
    {held : List Nat}
    {pointers : DevicePointers}
    (answers : Nat → Bool × NtStatus)
    (sound : pointers.Sound)
    (subset : pointers.blocks ⊆ held) :
    Owns held (abortPipes answers pointers) fun result kept =>
      result = (statusSuccess, pointers) ∧ kept = held := by
  obtain ⟨descriptor, interface, context⟩ := pointers
  cases interface with
  | none => exact owns_pure ⟨rfl, rfl⟩
  | some interface =>
      cases context with
      | none => exact owns_pure ⟨rfl, rfl⟩
      | some context =>
          have sized : 0 + interface.numberOfPipes ≤
              context.pipeOpen.length := by
            rw [Nat.zero_add]
            exact (sound.sized interface rfl context rfl).ge
          have loop := abortLoop_of_closed answers
            (sound.closed context rfl) sized
          refine (owns_touchAll ?_).bind ?_
          · intro block touched
            apply subset
            exact List.mem_append_right _ touched
          rintro _ _ rfl
          rw [loop]
          exact owns_pure ⟨rfl, rfl⟩

end Lifetime
end Usb
end BthEmul
