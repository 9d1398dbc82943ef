import BthEmul.Runtime.ProcessLifetime

/-!
# What the runtime points to and loses

The process points to the objects in its tables, to those of a call in
progress, and to the memory of its handlers. Each call and each step of a
handler leaves the process with what it points to, and loses a number of
resources that depends on what it is answered.
-/

namespace BthEmul

open Foundation Routine Hci

namespace Runtime
namespace Lifetime

/-! ## What an action runs -/

/-- The function an action runs, and where it does. -/
inductive RuntimeAction.Runs (process : Process) :
    RuntimeAction → Routine (RuntimeAnswer × Process) → Prop
  | openDevice
      (answers : OpenAnswers)
      (idle : process.call = .idle) :
      Runs process (.openDevice answers)
        (Lifetime.openDevice process answers)
  | askDevice
      {opening : Opening}
      (answers : AskAnswers)
      (asking : process.call = .asking opening) :
      Runs process (.askDevice answers)
        (Lifetime.askDevice process opening answers)
  | abandonDevice
      {bthHw : HwObject}
      {bthHci : EmulHciObject}
      (failing : process.call = .failing bthHw bthHci) :
      Runs process .abandonDevice
        (Lifetime.abandonDevice process bthHw bthHci)
  | closeDevice
      (devId : Int)
      (inTime : Bool)
      (idle : process.call = .idle) :
      Runs process (.closeDevice devId inTime)
        (Lifetime.closeDevice process devId inTime)
  | deleteDevice
      {index : Slot}
      {bthHw : HwObject}
      {bthHci : EmulHciObject}
      (closing : process.call = .closing index)
      (hardware : process.gBthHw index = some bthHw)
      (object : process.gBthHci index = some bthHci) :
      Runs process .deleteDevice
        (Lifetime.deleteDevice process index bthHw bthHci)
  | sendHCICommand
      (devId : Int)
      (driver : Driver)
      (event : Bool)
      (pCmdBuffer : Option CArray)
      (idle : process.call = .idle) :
      Runs process (.sendHCICommand devId driver event pCmdBuffer)
        (Lifetime.sendHCICommand process devId driver event pCmdBuffer)
  | getDeviceInfo
      (devId : Int)
      (writable : Bool) :
      Runs process (.getDeviceInfo devId writable)
        (Lifetime.getDeviceInfo process devId writable)
  | spawn
      {place : Source}
      {source : SourceThread}
      (looks : Nat)
      (thread : Bool)
      (found : process.sourceThread place = some source) :
      Runs process (.spawn place looks thread)
        (spawnHandler process source looks thread)
  | handle
      {index : Nat}
      {handler : Handler}
      {others : List Handler}
      (picked : pick process.handlers index = some (handler, others)) :
      Runs process (.handle index) (runHandler process handler others)

theorem RuntimeAction.runs_of_routine
    {process : Process}
    {action : RuntimeAction}
    {routine : Routine (RuntimeAnswer × Process)}
    (runs : action.routine process = some routine) :
    action.Runs process routine := by
  cases action with
  | openDevice answers =>
      cases call : process.call <;>
        simp only [RuntimeAction.routine, call, reduceCtorEq,
          Option.some.injEq] at runs
      exact runs ▸ .openDevice answers call
  | askDevice answers =>
      cases call : process.call <;>
        simp only [RuntimeAction.routine, call, reduceCtorEq,
          Option.some.injEq] at runs
      exact runs ▸ .askDevice answers call
  | abandonDevice =>
      cases call : process.call <;>
        simp only [RuntimeAction.routine, call, reduceCtorEq,
          Option.some.injEq] at runs
      exact runs ▸ .abandonDevice call
  | closeDevice devId inTime =>
      cases call : process.call <;>
        simp only [RuntimeAction.routine, call, reduceCtorEq,
          Option.some.injEq] at runs
      exact runs ▸ .closeDevice devId inTime call
  | deleteDevice =>
      cases call : process.call <;>
        simp only [RuntimeAction.routine, call, reduceCtorEq] at runs
      split at runs
      · rename_i hardware object
        cases runs
        exact .deleteDevice call hardware object
      · cases runs
  | sendHCICommand devId driver event pCmdBuffer =>
      cases call : process.call <;>
        simp only [RuntimeAction.routine, call, reduceCtorEq,
          Option.some.injEq] at runs
      exact runs ▸ .sendHCICommand devId driver event pCmdBuffer call
  | getDeviceInfo devId writable =>
      cases runs
      exact .getDeviceInfo devId writable
  | spawn source looks thread =>
      simp only [RuntimeAction.routine, Option.bind_eq_bind,
        Option.bind_eq_some_iff, Option.some.injEq] at runs
      obtain ⟨found, begins, rfl⟩ := runs
      exact .spawn looks thread begins
  | handle index =>
      simp only [RuntimeAction.routine, Option.bind_eq_bind,
        Option.bind_eq_some_iff, Prod.exists, Option.some.injEq] at runs
      obtain ⟨handler, others, picked, rfl⟩ := runs
      exact .handle picked

/-! ## What the process points to -/

/-- What an entry of the tables points to. -/
def slotResources
    (bthHw : Option HwObject)
    (bthHci : Option EmulHciObject)
    (devInfo : Option InfoBlock) : List Nat :=
  bthHw.elim [] HwObject.resources ++
    bthHci.elim [] EmulHciObject.resources ++
    (devInfo.map InfoBlock.block).toList

/-- What the tables point to. -/
def tableResources
    (gBthHw : Slot → Option HwObject)
    (gBthHci : Slot → Option EmulHciObject)
    (gBthDevInfo : Slot → Option InfoBlock) : List Nat :=
  (List.finRange maxDevices).flatMap fun index =>
    slotResources (gBthHw index) (gBthHci index) (gBthDevInfo index)

/-- What an opening points to. -/
def Opening.resources (opening : Opening) : List Nat :=
  opening.hciLocal.resources ++ (opening.devInfo ::
    (opening.bthHci.resources ++ opening.bthHw.resources))

/-- What a call in progress points to. -/
def ClientCall.resources : ClientCall → List Nat
  | .idle | .closing _ => []
  | .asking opening => opening.resources
  | .failing bthHw bthHci => bthHci.resources ++ bthHw.resources

/-- What the runtime and its handlers point to. -/
def Process.resources (process : Process) : List Nat :=
  process.call.resources ++
    (tableResources process.gBthHw process.gBthHci process.gBthDevInfo ++
      process.handlers.flatMap Handler.blocks)

/-- Hardware and objects come in pairs, and an object refers to its hardware. -/
structure Process.Paired (process : Process) : Prop where
  both : ∀ index, (process.gBthHw index).isSome = (process.gBthHci index).isSome
  refers : ∀ index bthHw bthHci, process.gBthHw index = some bthHw →
    process.gBthHci index = some bthHci → bthHci.btHw = bthHw.object

/-- No object stands at a slot without hardware. -/
theorem Process.Paired.object_eq_none
    {process : Process}
    {index : Slot}
    (paired : process.Paired)
    (free : process.gBthHw index = none) : process.gBthHci index = none := by
  have both := paired.both index
  rw [free] at both
  exact Option.isNone_iff_eq_none.mp (by simpa using both)

/-- Hardware stands where an object does. -/
theorem Process.Paired.exists_hardware
    {process : Process}
    {index : Slot}
    {bthHci : EmulHciObject}
    (paired : process.Paired)
    (object : process.gBthHci index = some bthHci) :
    ∃ bthHw, process.gBthHw index = some bthHw := by
  have both := paired.both index
  rw [object] at both
  exact Option.isSome_iff_exists.mp both

/-- What a call in progress relies on. -/
def ClientCall.Sound (process : Process) : ClientCall → Prop
  | .idle => True
  | .asking opening =>
      process.gBthHw opening.index = none ∧
        opening.bthHci.btHw = opening.bthHw.object ∧
        opening.hciLocal.btHw = opening.bthHw.object ∧
        opening.bthHci.overlappeds = []
  | .failing bthHw bthHci => bthHci.btHw = bthHw.object
  | .closing index => (process.gBthHw index).isSome

/-- The pointers of the runtime fit together. -/
structure Process.Sound (process : Process) : Prop where
  paired : process.Paired
  call : process.call.Sound process

/-- The object of a handler is there. -/
def Process.Lives (process : Process) (object : Nat) : Prop :=
  (∃ index bthHci,
      process.gBthHci index = some bthHci ∧ bthHci.object = object) ∨
    match process.call with
    | .idle | .closing _ => False
    | .asking opening => opening.hciLocal.object = object
    | .failing _ bthHci => bthHci.object = object

/-- What a call leaves that may delete an object. -/
structure Leads
    (process : Process)
    (deleted : Option Nat)
    (next : Process) : Prop where
  sound : next.Sound
  handlers : next.handlers = process.handlers
  lives : ∀ object, process.Lives object → deleted ≠ some object →
    next.Lives object

/-- Nothing changes. -/
theorem Process.Sound.leads
    {process : Process}
    (sound : process.Sound) : Leads process none process where
  sound := sound
  handlers := rfl
  lives _ lives _ := lives

/-- What stands at one slot can be set apart. -/
theorem exists_perm_tableResources
    (gBthHw : Slot → Option HwObject)
    (gBthHci : Slot → Option EmulHciObject)
    (gBthDevInfo : Slot → Option InfoBlock)
    (index : Slot) :
    ∃ rest,
      (tableResources gBthHw gBthHci gBthDevInfo).Perm
          (slotResources (gBthHw index) (gBthHci index) (gBthDevInfo index) ++
            rest) ∧
        ∀ bthHw bthHci devInfo,
          (tableResources (Function.update gBthHw index bthHw)
              (Function.update gBthHci index bthHci)
              (Function.update gBthDevInfo index devInfo)).Perm
            (slotResources bthHw bthHci devInfo ++ rest) := by
  obtain ⟨rest, perm⟩ := exists_perm_flatMap
    (List.nodup_finRange maxDevices) (List.mem_finRange index)
    fun place =>
      slotResources (gBthHw place) (gBthHci place) (gBthDevInfo place)
  refine ⟨rest, perm _ fun _ _ => rfl, ?_⟩
  intro bthHw bthHci devInfo
  have updated := perm (fun place => slotResources
    (Function.update gBthHw index bthHw place)
    (Function.update gBthHci index bthHci place)
    (Function.update gBthDevInfo index devInfo place)) ?_
  · rwa [Function.update_self, Function.update_self, Function.update_self]
      at updated
  · intro place other
    rw [Function.update_of_ne other, Function.update_of_ne other,
      Function.update_of_ne other]

/-! ## What an action loses -/

/-- How many objects the loop of `Export_OpenDevice` does not delete. -/
def abandoned (process : Process) (present : Slot → Nat → Bool) : List Slot → Nat
  | [] => 0
  | index :: rest =>
      if (process.gBthHw index).isSome then abandoned process present rest
      else
        match attachHardware process.busy (present index) with
        | none => abandoned process present rest + 1
        | some _ => 0

/-- The block of the information that is lost: the one before, or the new one if
there is no information. -/
def AskAnswers.infoLoses
    (answers : AskAnswers)
    (process : Process)
    (opening : Opening) : Nat :=
  match answers.devInfo with
  | some _ => (process.gBthDevInfo opening.index).toList.length
  | none => 1

/-- What `Export_OpenDevice` loses from the commands on. -/
def AskAnswers.loses
    (answers : AskAnswers)
    (process : Process)
    (opening : Opening) : Nat :=
  opening.bthHw.sendLoses answers.driver answers.bdAddrEvent
      (requestOf CHci.sendReadBDADDR) +
    opening.bthHw.sendLoses answers.driver answers.versionEvent
      (requestOf CHci.sendReadLocalVersionInformation) +
    opening.bthHw.sendLoses answers.driver answers.bufferSizeEvent
      (requestOf CHci.sendReadBufferSize) +
    opening.hciLocal.overlappeds.length + answers.infoLoses process opening

/-- What is lost with the objects of a device. -/
def deleteLoses (bthHw : HwObject) (bthHci : EmulHciObject) : Nat :=
  bthHci.overlappeds.length + bthHci.readerResources.length +
    bthHw.hDriver.toList.length

/-- The objects behind a device id. -/
def Process.device
    (process : Process)
    (devId : Int) : Option (HwObject × EmulHciObject) := do
  let index ← slot devId
  let bthHw ← process.gBthHw index
  let bthHci ← process.gBthHci index
  return (bthHw, bthHci)

/-- How many resources an action loses. -/
def RuntimeAction.losses (process : Process) : RuntimeAction → Nat
  | .openDevice answers =>
      abandoned process answers.present (List.finRange maxDevices)
  | .askDevice answers =>
      match process.call with
      | .asking opening => answers.loses process opening
      | .idle | .failing _ _ | .closing _ => 0
  | .abandonDevice =>
      match process.call with
      | .failing bthHw bthHci => deleteLoses bthHw bthHci
      | .idle | .asking _ | .closing _ => 0
  | .closeDevice devId inTime =>
      (process.device devId).elim 0 fun device =>
        if device.1.hDriver.isSome then device.2.stopLoses inTime else 0
  | .deleteDevice =>
      match process.call with
      | .closing index => (process.device index).elim 0 fun device =>
          deleteLoses device.1 device.2
      | .idle | .asking _ | .failing _ _ => 0
  | .sendHCICommand devId driver event pCmdBuffer =>
      (process.device devId).elim 0 fun device =>
        EmulHciObject.sendLoses device.1 driver event pCmdBuffer
  | .getDeviceInfo _ _ => 0
  | .spawn _ _ thread => if thread then 0 else 2
  | .handle _ => 0

/-! ## Opening a device -/

theorem spends_tryOpen
    (process : Process)
    (present : Slot → Nat → Bool)
    (held : List Nat)
    (slots : List Slot) :
    Spends held (tryOpen process present slots) fun found own loses =>
      own = found.elim [] (fun each => each.2.resources) ++ held ∧
        loses = abandoned process present slots ∧
        ∀ each ∈ found, process.gBthHw each.1 = none := by
  induction slots generalizing held with
  | nil => exact (owns_pure ⟨rfl, rfl, nofun⟩).spends
  | cons index rest inductionHypothesis =>
      rw [tryOpen, abandoned]
      split
      · exact inductionHypothesis held
      · rename_i free
        refine Spends.bind_of_keeps (owns_allocate held) ?_
        rintro object _ rfl
        cases found : attachHardware process.busy (present index) with
        | none =>
            have perm : (object :: held).Perm (held ++ [object]) :=
              (List.perm_append_singleton object held).symm
            refine ((inductionHypothesis held).lose perm).mono ?_
            rintro found own _ ⟨_, ⟨rfl, rfl, free⟩, rfl⟩
            exact ⟨rfl, rfl, free⟩
        | some device =>
            refine Spends.bind_of_keeps (owns_allocate _) ?_
            rintro handle _ rfl
            refine Spends.of_perm (Owns.spends (owns_pure ⟨rfl, rfl, ?_⟩)) ?_
            · intro each same
              cases same
              simpa using free
            · exact List.Perm.swap _ _ _

theorem spends_openDevice
    {process : Process}
    (answers : OpenAnswers)
    (sound : process.Sound)
    (idle : process.call = .idle) :
    Spends process.resources (openDevice process answers)
      fun result own loses =>
        Leads process none result.2 ∧ own = result.2.resources ∧
          loses = abandoned process answers.present
            (List.finRange maxDevices) := by
  rw [openDevice]
  refine (spends_tryOpen process answers.present _ _).bind ?_
  rintro (_ | ⟨index, bthHw⟩) _ _ ⟨rfl, rfl, free⟩
  · exact (owns_pure ⟨sound.leads, rfl, rfl⟩).spends
  change Spends (bthHw.resources ++ process.resources) _ _
  refine Spends.bind_of_keeps (owns_allocate _) ?_
  rintro object _ rfl
  refine (EmulHciObject.spends_construct _ _ _ _).bind ?_
  rintro bthHci _ _ ⟨made, reading, rfl, rfl⟩
  refine Spends.bind_of_keeps (owns_allocate _) ?_
  rintro devInfo _ rfl
  refine Spends.bind_of_keeps (owns_touch List.mem_cons_self) ?_
  rintro _ _ rfl
  refine Spends.bind_of_keeps (owns_allocate _) ?_
  rintro stack _ rfl
  refine (HciLocalObject.spends_construct _ _ _ _).bind ?_
  rintro hciLocal _ _ ⟨asks, rfl, rfl⟩
  refine (hciLocal.spends_startEventListener bthHw answers.listener ?_
    asks.overlappeds).bind ?_
  · intro resource member
    apply List.mem_cons_of_mem
    apply List.mem_append_right
    exact List.mem_append_left _ member
  rintro listening _ _ ⟨-, btHw, rfl, rfl⟩
  refine Spends.of_perm (Owns.spends
    (owns_pure ⟨⟨⟨?_, ?_⟩, rfl, ?_⟩, rfl, rfl⟩)) ?_
  · exact ⟨sound.paired.both, sound.paired.refers⟩
  · exact ⟨free _ rfl, made.btHw, btHw.trans asks.btHw, made.overlappeds⟩
  · rintro each (there | there) -
    · exact .inl there
    · rw [idle] at there
      exact there.elim
  · refine List.perm_iff_count.mpr fun each => ?_
    simp only [Process.resources, ClientCall.resources, idle,
      Opening.resources, List.count_append, List.count_cons, List.count_nil]
    omega

/-- Behind `GetDeviceInfo` either the block of before or the new one is lost. -/
theorem AskAnswers.perm_record
    {process : Process}
    {opening : Opening}
    (answers : AskAnswers)
    (hardware : process.gBthHw opening.index = none)
    (object : process.gBthHci opening.index = none) :
    ∃ lost rest,
      lost.length = answers.infoLoses process opening ∧
        (opening.devInfo :: tableResources process.gBthHw process.gBthHci
          process.gBthDevInfo).Perm (rest ++ lost) ∧
        ∀ bthHw bthHci,
          (tableResources
              (Function.update process.gBthHw opening.index bthHw)
              (Function.update process.gBthHci opening.index bthHci)
              (answers.record process opening)).Perm
            (slotResources bthHw bthHci none ++ rest) := by
  obtain ⟨others, before, after⟩ := exists_perm_tableResources process.gBthHw
    process.gBthHci process.gBthDevInfo opening.index
  rw [hardware, object] at before
  rw [AskAnswers.infoLoses]
  cases told : answers.devInfo with
  | none =>
      refine ⟨[opening.devInfo],
        ((process.gBthDevInfo opening.index).map InfoBlock.block).toList ++
          others, rfl, ?_, ?_⟩
      · exact (before.cons _).trans
          (List.perm_append_singleton opening.devInfo _).symm
      · intro bthHw bthHci
        have same := after bthHw bthHci (process.gBthDevInfo opening.index)
        rw [Function.update_eq_self] at same
        simp only [AskAnswers.record, told]
        refine same.trans (List.Perm.of_eq ?_)
        simp [slotResources]
  | some devInfo =>
      refine ⟨((process.gBthDevInfo opening.index).map InfoBlock.block).toList,
        opening.devInfo :: others, ?_, ?_, ?_⟩
      · cases process.gBthDevInfo opening.index <;> rfl
      · refine (before.cons _).trans (List.Perm.cons _ ?_)
        exact List.perm_append_comm
      · intro bthHw bthHci
        simp only [AskAnswers.record, told]
        refine (after bthHw bthHci _).trans (List.Perm.of_eq ?_)
        simp [slotResources]

/-- A pair is put into a slot. -/
theorem Process.Paired.install
    {process : Process}
    {bthHw : HwObject}
    {bthHci : EmulHciObject}
    (paired : process.Paired)
    (index : Slot)
    (refers : bthHci.btHw = bthHw.object) :
    ({ process with
      gBthHw := Function.update process.gBthHw index (some bthHw)
      gBthHci := Function.update process.gBthHci index (some bthHci) } :
      Process).Paired where
  both place := by
    by_cases here : place = index
    · subst here
      simp
    · simp [here, paired.both]
  refers place hardware object foundHw foundHci := by
    by_cases here : place = index
    · subst here
      simp only [Function.update_self, Option.some.injEq] at foundHw foundHci
      rw [← foundHw, ← foundHci, refers]
    · simp only [Function.update_of_ne here] at foundHw foundHci
      exact paired.refers place hardware object foundHw foundHci

/-- While a device is asked, an object other than that of the answers stands in
the table. -/
theorem Process.Lives.exists_slot
    {process : Process}
    {opening : Opening}
    {object : Nat}
    (lives : process.Lives object)
    (asking : process.call = .asking opening)
    (other : some opening.hciLocal.object ≠ some object) :
    ∃ index bthHci, process.gBthHci index = some bthHci ∧
      bthHci.object = object := by
  rcases lives with there | there
  · exact there
  · rw [asking] at there
    exact absurd (congrArg some there) other

/-- The opened device is put into its slot. -/
theorem Process.Sound.leads_opened
    {process : Process}
    {opening : Opening}
    {bthHci : EmulHciObject}
    (gBthDevInfo : Slot → Option InfoBlock)
    (sound : process.Sound)
    (asking : process.call = .asking opening)
    (absent : process.gBthHci opening.index = none)
    (refers : bthHci.btHw = opening.bthHw.object) :
    Leads process (some opening.hciLocal.object) {
      process with
      gBthHw := Function.update process.gBthHw opening.index
        (some opening.bthHw)
      gBthHci := Function.update process.gBthHci opening.index (some bthHci)
      gBthDevInfo
      call := .idle } where
  sound := by
    have installed := sound.paired.install opening.index refers
    exact ⟨⟨installed.both, installed.refers⟩, trivial⟩
  handlers := rfl
  lives object lives other := by
    obtain ⟨index, stored, found, same⟩ := lives.exists_slot asking other
    have elsewhere : index ≠ opening.index := by
      rintro rfl
      rw [absent] at found
      cases found
    exact .inl ⟨index, stored,
      (Function.update_of_ne elsewhere _ _).trans found, same⟩

/-- The listener or the reader does not start. -/
theorem Process.Sound.leads_failing
    {process : Process}
    {opening : Opening}
    {bthHci : EmulHciObject}
    (gBthDevInfo : Slot → Option InfoBlock)
    (sound : process.Sound)
    (asking : process.call = .asking opening)
    (refers : bthHci.btHw = opening.bthHw.object) :
    Leads process (some opening.hciLocal.object) {
      process with
      gBthDevInfo
      call := .failing opening.bthHw bthHci } where
  sound := ⟨⟨sound.paired.both, sound.paired.refers⟩, refers⟩
  handlers := rfl
  lives _ lives other := .inl (lives.exists_slot asking other)

theorem spends_askDevice
    {process : Process}
    {opening : Opening}
    (answers : AskAnswers)
    (sound : process.Sound)
    (asking : process.call = .asking opening) :
    Spends process.resources (askDevice process opening answers)
      fun result own loses =>
        Leads process (some opening.hciLocal.object) result.2 ∧
          own = result.2.resources ∧
          loses = answers.loses process opening := by
  have relies : (ClientCall.asking opening).Sound process :=
    asking ▸ sound.call
  obtain ⟨free, refers, asks, fresh⟩ := relies
  have absent := sound.paired.object_eq_none free
  let tables := tableResources process.gBthHw process.gBthHci
    process.gBthDevInfo
  let others := tables ++ process.handlers.flatMap Handler.blocks
  have held : process.resources = opening.resources ++ others := by
    rw [Process.resources, asking, ClientCall.resources]
  rw [held, askDevice]
  have belongs : ∀ resource ∈ opening.bthHw.resources,
      resource ∈ opening.resources ++ others := by
    intro resource member
    apply List.mem_append_left
    apply List.mem_append_right
    apply List.mem_cons_of_mem
    exact List.mem_append_right _ member
  refine (HwObject.spends_send _ _ _ belongs).bind ?_
  rintro _ _ _ ⟨rfl, rfl, -⟩
  refine (HwObject.spends_send _ _ _ belongs).bind ?_
  rintro _ _ _ ⟨rfl, rfl, -⟩
  refine (HwObject.spends_send _ _ _ belongs).bind ?_
  rintro _ _ _ ⟨rfl, rfl, -⟩
  rw [Opening.resources, List.append_assoc]
  refine (opening.hciLocal.spends_stopEventListener _).bind ?_
  rintro stopped _ _ ⟨same, rfl, rfl⟩
  refine (stopped.spends_destroy _).bind ?_
  rintro _ _ _ ⟨rfl, rfl⟩
  refine Spends.bind_of_keeps (owns_touchAll ?_) ?_
  · intro resource member
    apply List.mem_append_left
    rcases List.mem_cons.mp member with rfl | member
    · apply List.mem_cons_of_mem
      apply List.mem_append_left
      exact List.mem_append_right _ List.mem_cons_self
    · rw [List.mem_singleton.mp member]
      exact List.mem_cons_self
  rintro _ _ rfl
  have order : ((opening.devInfo :: (opening.bthHci.resources ++
      opening.bthHw.resources)) ++ others).Perm
      (opening.bthHci.resources ++ (opening.bthHw.resources ++
        opening.devInfo :: others)) := by
    refine List.perm_iff_count.mpr fun each => ?_
    simp only [List.count_append, List.count_cons]
    omega
  refine ((opening.bthHci.spends_startEventListener opening.bthHw answers.start
    (fun _ member => List.mem_append_left _ member) fresh).of_perm order).bind ?_
  rintro ⟨started, bthHci⟩ _ _ ⟨starting, rfl, rfl⟩
  obtain ⟨lost, rest, length, info, table⟩ :=
    answers.perm_record free absent
  have total : opening.bthHw.sendLoses answers.driver answers.bdAddrEvent
      (requestOf CHci.sendReadBDADDR) +
        (opening.bthHw.sendLoses answers.driver answers.versionEvent
          (requestOf CHci.sendReadLocalVersionInformation) +
        (opening.bthHw.sendLoses answers.driver answers.bufferSizeEvent
          (requestOf CHci.sendReadBufferSize) +
        (0 + (stopped.overlappeds.length + (0 + lost.length))))) =
      answers.loses process opening := by
    rw [AskAnswers.loses, same, length]
    omega
  cases started with
  | true =>
      refine spends_pure (List.perm_iff_count.mpr fun each => ?_)
        ⟨sound.leads_opened _ asking absent (starting.btHw.trans refers), rfl,
          total⟩
      have infoCount := info.count_eq each
      have tableCount :=
        (table (some opening.bthHw) (some bthHci)).count_eq each
      simp only [Process.resources, ClientCall.resources, slotResources,
        others, tables, List.count_append, List.count_cons, List.count_nil,
        Option.elim_some, Option.map_none, Option.toList_none]
        at infoCount tableCount ⊢
      omega
  | false =>
      refine spends_pure (List.perm_iff_count.mpr fun each => ?_)
        ⟨sound.leads_failing _ asking (starting.btHw.trans refers), rfl, total⟩
      have infoCount := info.count_eq each
      have hardware := Function.update_eq_self opening.index process.gBthHw
      have object := Function.update_eq_self opening.index process.gBthHci
      rw [free] at hardware
      rw [absent] at object
      have tableCount := (table none none).count_eq each
      rw [hardware, object] at tableCount
      simp only [Process.resources, ClientCall.resources, slotResources,
        others, tables, List.count_append, List.count_cons, List.count_nil,
        Option.elim_none, Option.map_none, Option.toList_none]
        at infoCount tableCount ⊢
      omega

/-! ## Deleting the objects of a device -/

/-- Deleting the objects of a device loses the events of its listener and the
handle of its hardware. -/
theorem spends_deleteObjects
    (bthHw : HwObject)
    (bthHci : EmulHciObject)
    (others : List Nat) :
    Spends (bthHci.resources ++ (bthHw.resources ++ others))
      (deleteObjects bthHw bthHci) fun _ own loses =>
        own = others ∧ loses = deleteLoses bthHw bthHci := by
  refine (bthHci.spends_destroy _).bind ?_
  rintro _ _ _ ⟨rfl, rfl⟩
  refine Owns.mono (owns_free (List.Perm.refl _)) ?_
  rintro _ _ rfl
  refine ⟨others, (bthHw.hDriver.map DriverHandle.handle).toList,
    ⟨rfl, ?_⟩, List.perm_append_comm⟩
  rw [deleteLoses]
  cases bthHw.hDriver <;> rfl

theorem spends_abandonDevice
    {process : Process}
    {bthHw : HwObject}
    {bthHci : EmulHciObject}
    (sound : process.Sound)
    (failing : process.call = .failing bthHw bthHci) :
    Spends process.resources (abandonDevice process bthHw bthHci)
      fun result own loses =>
        Leads process (some bthHci.object) result.2 ∧
          own = result.2.resources ∧
          loses = deleteLoses bthHw bthHci := by
  rw [Process.resources, failing, ClientCall.resources, abandonDevice,
    List.append_assoc]
  refine (spends_deleteObjects bthHw bthHci _).bind ?_
  rintro _ _ _ ⟨rfl, rfl⟩
  refine Owns.spends (owns_pure ⟨⟨⟨?_, trivial⟩, rfl, ?_⟩, rfl, rfl⟩)
  · exact ⟨sound.paired.both, sound.paired.refers⟩
  · rintro each (there | there) other
    · exact .inl there
    · rw [failing] at there
      exact absurd (congrArg some there) other

/-- A pair is taken out of a slot. -/
theorem Process.Paired.remove
    {process : Process}
    (paired : process.Paired)
    (index : Slot) :
    ({ process with
      gBthHw := Function.update process.gBthHw index none
      gBthHci := Function.update process.gBthHci index none } :
      Process).Paired where
  both place := by
    by_cases here : place = index
    · subst here
      simp
    · simp [here, paired.both]
  refers place hardware object foundHw foundHci := by
    by_cases here : place = index
    · subst here
      simp at foundHw
    · simp only [Function.update_of_ne here] at foundHw foundHci
      exact paired.refers place hardware object foundHw foundHci

/-- The objects in a slot can be set apart, whatever is put there instead. -/
theorem Process.exists_perm_device
    {process : Process}
    {index : Slot}
    (hardware : process.gBthHw index = some bthHw)
    (object : process.gBthHci index = some bthHci) :
    ∃ rest,
      (tableResources process.gBthHw process.gBthHci
          process.gBthDevInfo).Perm
        (bthHci.resources ++ (bthHw.resources ++ rest)) ∧
      ∀ nextHw nextHci,
        (tableResources (Function.update process.gBthHw index nextHw)
            (Function.update process.gBthHci index nextHci)
            process.gBthDevInfo).Perm
          (nextHci.elim [] EmulHciObject.resources ++
            (nextHw.elim [] HwObject.resources ++ rest)) := by
  obtain ⟨rest, before, after⟩ := exists_perm_tableResources process.gBthHw
    process.gBthHci process.gBthDevInfo index
  rw [hardware, object] at before
  refine ⟨((process.gBthDevInfo index).map InfoBlock.block).toList ++ rest,
    before.trans (List.perm_iff_count.mpr fun each => ?_), ?_⟩
  · simp only [slotResources, List.count_append, Option.elim_some]
    omega
  · intro nextHw nextHci
    have same := after nextHw nextHci (process.gBthDevInfo index)
    rw [Function.update_eq_self] at same
    refine same.trans (List.perm_iff_count.mpr fun each => ?_)
    simp only [slotResources, List.count_append]
    omega

theorem spends_deleteDevice
    {process : Process}
    {index : Slot}
    {bthHw : HwObject}
    {bthHci : EmulHciObject}
    (sound : process.Sound)
    (closing : process.call = .closing index)
    (hardware : process.gBthHw index = some bthHw)
    (object : process.gBthHci index = some bthHci) :
    Spends process.resources (deleteDevice process index bthHw bthHci)
      fun result own loses =>
        Leads process (some bthHci.object) result.2 ∧
          own = result.2.resources ∧
          loses = deleteLoses bthHw bthHci := by
  obtain ⟨rest, before, after⟩ := Process.exists_perm_device hardware object
  have order : process.resources.Perm (bthHci.resources ++
      (bthHw.resources ++
        (rest ++ process.handlers.flatMap Handler.blocks))) := by
    rw [Process.resources, closing, ClientCall.resources, List.nil_append]
    refine (before.append_right _).trans (List.Perm.of_eq ?_)
    simp only [List.append_assoc]
  rw [deleteDevice]
  refine ((spends_deleteObjects bthHw bthHci _).of_perm order).bind ?_
  rintro _ _ _ ⟨rfl, rfl⟩
  refine Spends.of_perm (Owns.spends
    (owns_pure ⟨⟨⟨?_, trivial⟩, rfl, ?_⟩, rfl, rfl⟩)) ?_
  · have removed := sound.paired.remove index
    exact ⟨removed.both, removed.refers⟩
  · rintro each (⟨place, other, found, same⟩ | there) differs
    · refine .inl ⟨place, other, ?_, same⟩
      have elsewhere : place ≠ index := by
        rintro rfl
        rw [object, Option.some.injEq] at found
        rw [found, same] at differs
        exact differs rfl
      exact (Function.update_of_ne elsewhere _ _).trans found
    · rw [closing] at there
      exact there.elim
  · exact ((after none none).append_right _).symm

/-! ## Closing and using a device -/

/-- The objects in a slot belong to the process. -/
theorem Process.mem_resources_of_device
    {process : Process}
    {index : Slot}
    {bthHw : HwObject}
    {bthHci : EmulHciObject}
    (hardware : process.gBthHw index = some bthHw)
    (object : process.gBthHci index = some bthHci) :
    ∀ resource, resource ∈ bthHci.resources ∨ resource ∈ bthHw.resources →
      resource ∈ process.resources := by
  obtain ⟨rest, before, -⟩ := Process.exists_perm_device hardware object
  intro resource either
  apply List.mem_append_right
  apply List.mem_append_left
  apply before.mem_iff.mpr
  rcases either with member | member
  · exact List.mem_append_left _ member
  · exact List.mem_append_right _ (List.mem_append_left _ member)

theorem EmulHciObject.object_mem_resources (bthHci : EmulHciObject) :
    bthHci.object ∈ bthHci.resources :=
  List.mem_append_right _ List.mem_cons_self

/-- Closing a device that is open, until its objects are deleted. -/
theorem spends_stopDevice
    {process : Process}
    {index : Slot}
    {bthHw : HwObject}
    {bthHci : EmulHciObject}
    (inTime : Bool)
    (sound : process.Sound)
    (idle : process.call = .idle)
    (hardware : process.gBthHw index = some bthHw)
    (object : process.gBthHci index = some bthHci) :
    Spends process.resources
      (do
        let bthHci ← bthHci.stopEventListener inTime
        let detached ← bthHw.detach
        return (RuntimeAnswer.goesOn, {
          process with
          gBthHw := Function.update process.gBthHw index (some detached)
          gBthHci := Function.update process.gBthHci index (some bthHci)
          busy := process.busy.filter (· ∉ bthHw.devices)
          call := .closing index }))
      fun result own loses =>
        Leads process none result.2 ∧ own = result.2.resources ∧
          loses = bthHci.stopLoses inTime := by
  obtain ⟨rest, before, after⟩ := Process.exists_perm_device hardware object
  have order : process.resources.Perm (bthHci.resources ++
      (bthHw.resources ++
        (rest ++ process.handlers.flatMap Handler.blocks))) := by
    rw [Process.resources, idle, ClientCall.resources, List.nil_append]
    refine (before.append_right _).trans (List.Perm.of_eq ?_)
    simp only [List.append_assoc]
  refine ((bthHci.spends_stopEventListener inTime _).of_perm order).bind ?_
  rintro stopped _ _ ⟨same, rfl, rfl⟩
  refine ((bthHw.spends_detach _).of_perm
    (List.perm_append_comm_assoc _ _ _)).bind ?_
  rintro detached _ _ ⟨free, rfl, rfl⟩
  have refers : stopped.btHw = detached.object := by
    rw [same, free]
    exact sound.paired.refers index bthHw bthHci hardware object
  refine Spends.of_perm (Owns.spends
    (owns_pure ⟨⟨⟨?_, ?_⟩, rfl, ?_⟩, rfl, rfl⟩)) ?_
  · have installed := sound.paired.install index refers
    exact ⟨installed.both, installed.refers⟩
  · simp [ClientCall.Sound]
  · rintro each (⟨place, other, found, here⟩ | there) -
    · by_cases elsewhere : place = index
      · subst elsewhere
        rw [object, Option.some.injEq] at found
        refine .inl ⟨place, stopped, Function.update_self _ _ _, ?_⟩
        rw [same, ← here, ← found]
      · refine .inl ⟨place, other, ?_, here⟩
        exact (Function.update_of_ne elsewhere _ _).trans found
    · rw [idle] at there
      exact there.elim
  · refine (List.perm_append_comm_assoc _ _ _).trans ?_
    have table := (after (some detached) (some stopped)).append_right
      (process.handlers.flatMap Handler.blocks)
    refine List.Perm.trans (List.Perm.of_eq ?_) table.symm
    simp only [List.append_assoc, Option.elim_some]

theorem spends_closeDevice
    {process : Process}
    (devId : Int)
    (inTime : Bool)
    (sound : process.Sound)
    (idle : process.call = .idle) :
    Spends process.resources (closeDevice process devId inTime)
      fun result own loses =>
        Leads process none result.2 ∧ own = result.2.resources ∧
          loses = (RuntimeAction.closeDevice devId inTime).losses process := by
  simp only [closeDevice, RuntimeAction.losses, Process.device]
  cases found : slot devId with
  | none => exact Owns.spends (owns_pure ⟨sound.leads, rfl, rfl⟩)
  | some index =>
      cases hardware : process.gBthHw index with
      | none =>
          simp only [hardware, Option.bind_eq_bind, Option.bind_some,
            Option.bind_none, Option.elim_none]
          exact Owns.spends (owns_pure ⟨sound.leads, rfl, rfl⟩)
      | some bthHw =>
          cases object : process.gBthHci index with
          | none =>
              simp only [hardware, object, Option.bind_eq_bind,
                Option.bind_some, Option.bind_none, Option.elim_none]
              exact Owns.spends (owns_pure ⟨sound.leads, rfl, rfl⟩)
          | some bthHci =>
              simp only [hardware, object, Option.bind_eq_bind,
                Option.bind_some, Option.pure_def, Option.elim_some]
              have belongs :=
                Process.mem_resources_of_device hardware object
              have refers :=
                sound.paired.refers index bthHw bthHci hardware object
              refine Spends.bind_of_keeps (owns_touchAll ?_) ?_
              · intro resource member
                rcases List.mem_cons.mp member with rfl | member
                · exact belongs _ (.inl bthHci.object_mem_resources)
                · rw [List.mem_singleton.mp member, refers]
                  exact belongs _ (.inr List.mem_cons_self)
              rintro _ _ rfl
              split
              · exact spends_stopDevice inTime sound idle hardware object
              · exact Owns.spends (owns_pure ⟨sound.leads, rfl, rfl⟩)

theorem spends_sendHCICommand
    {process : Process}
    (devId : Int)
    (driver : Driver)
    (event : Bool)
    (pCmdBuffer : Option CArray)
    (sound : process.Sound) :
    Spends process.resources
      (sendHCICommand process devId driver event pCmdBuffer)
      fun result own loses =>
        Leads process none result.2 ∧ own = result.2.resources ∧
          loses = (RuntimeAction.sendHCICommand devId driver event
            pCmdBuffer).losses process := by
  simp only [sendHCICommand, RuntimeAction.losses, Process.device]
  cases found : slot devId with
  | none => exact Owns.spends (owns_pure ⟨sound.leads, rfl, rfl⟩)
  | some index =>
      cases hardware : process.gBthHw index with
      | none =>
          simp only [hardware, Option.bind_eq_bind, Option.bind_some,
            Option.bind_none, Option.elim_none]
          exact Owns.spends (owns_pure ⟨sound.leads, rfl, rfl⟩)
      | some bthHw =>
          cases object : process.gBthHci index with
          | none =>
              simp only [hardware, object, Option.bind_eq_bind,
                Option.bind_some, Option.bind_none, Option.elim_none]
              exact Owns.spends (owns_pure ⟨sound.leads, rfl, rfl⟩)
          | some bthHci =>
              simp only [hardware, object, Option.bind_eq_bind,
                Option.bind_some, Option.pure_def, Option.elim_some]
              have belongs :=
                Process.mem_resources_of_device hardware object
              refine (EmulHciObject.spends_sendHCICommand driver event
                pCmdBuffer (belongs _ (.inl bthHci.object_mem_resources))
                fun _ member => belongs _ (.inr member)).bind ?_
              rintro result _ _ ⟨rfl, rfl, -⟩
              exact Owns.spends (owns_pure ⟨sound.leads, rfl, rfl⟩)

theorem spends_getDeviceInfo
    {process : Process}
    (devId : Int)
    (writable : Bool)
    (sound : process.Sound) :
    Spends process.resources (getDeviceInfo process devId writable)
      fun result own loses =>
        Leads process none result.2 ∧ own = result.2.resources ∧ loses = 0 := by
  rw [getDeviceInfo]
  cases found : slot devId with
  | none => exact Owns.spends (owns_pure ⟨sound.leads, rfl, rfl⟩)
  | some index =>
      cases recorded : process.gBthDevInfo index with
      | none =>
          simp only [recorded]
          exact Owns.spends (owns_pure ⟨sound.leads, rfl, rfl⟩)
      | some bthDevInfo =>
          simp only [recorded]
          refine Spends.bind_of_keeps (owns_touch ?_) ?_
          · apply List.mem_append_right
            apply List.mem_append_left
            apply List.mem_flatMap.mpr
            refine ⟨index, List.mem_finRange index, ?_⟩
            apply List.mem_append_right
            rw [recorded]
            exact List.mem_singleton_self _
          rintro _ _ rfl
          split
          · exact Owns.spends (owns_pure ⟨sound.leads, rfl, rfl⟩)
          · exact Owns.spends (owns_pure ⟨sound.leads, rfl, rfl⟩)

/-! ## Handlers -/

/-- A listener works with what its object and its hardware hold. -/
theorem HciObject.listener_belongs
    {hci : HciObject}
    {bthHw : HwObject}
    (found : hci.listener bthHw = some source) :
    source.object = hci.object ∧ ∀ resource ∈ source.resources,
      resource ∈ hci.resources ∨ resource ∈ bthHw.resources := by
  simp only [HciObject.listener, Option.ite_none_right_eq_some,
    Option.some.injEq] at found
  obtain ⟨-, rfl⟩ := found
  refine ⟨rfl, ?_⟩
  intro resource member
  rcases List.mem_cons.mp member with rfl | member
  · exact .inl List.mem_cons_self
  rcases List.mem_append.mp member with hardware | waits
  · exact .inr hardware
  · apply Or.inl
    apply List.mem_cons_of_mem
    rcases List.mem_append.mp waits with stops | requests
    · exact List.mem_append_left _ (List.mem_append_left _ stops)
    · exact List.mem_append_right _ requests

/-- So does a reader. -/
theorem EmulHciObject.dataReader_belongs
    {bthHci : EmulHciObject}
    {bthHw : HwObject}
    (found : bthHci.dataReader bthHw = some source) :
    source.object = bthHci.object ∧ ∀ resource ∈ source.resources,
      resource ∈ bthHci.resources ∨ resource ∈ bthHw.resources := by
  obtain ⟨reader, reading, rfl⟩ := Option.map_eq_some_iff.mp found
  refine ⟨rfl, ?_⟩
  intro resource member
  rcases List.mem_cons.mp member with rfl | member
  · exact .inl bthHci.object_mem_resources
  rcases List.mem_append.mp member with hardware | waits
  · exact .inr hardware
  · apply Or.inl
    apply List.mem_append_left
    rcases List.mem_append.mp waits with stops | requests
    · exact List.mem_append_left _ stops
    · apply List.mem_append_right
      rw [EmulHciObject.readerResources, reading]
      exact List.mem_cons_of_mem _ requests

/-- The object of a thread that begins handlers is there, and the process holds
what the thread works with. -/
theorem Process.lives_of_sourceThread
    {process : Process}
    {place : Source}
    {source : SourceThread}
    (found : process.sourceThread place = some source) :
    process.Lives source.object ∧
      ∀ resource ∈ source.resources, resource ∈ process.resources := by
  cases place with
  | listener index =>
      simp only [Process.sourceThread, Option.bind_eq_bind,
        Option.bind_eq_some_iff] at found
      obtain ⟨bthHw, hardware, bthHci, object, listens⟩ := found
      obtain ⟨same, belongs⟩ := HciObject.listener_belongs listens
      refine ⟨.inl ⟨index, bthHci, object, same.symm⟩, ?_⟩
      intro resource member
      apply Process.mem_resources_of_device hardware object
      exact (belongs resource member).imp_left fun own =>
        List.mem_append_right _ own
  | dataReader index =>
      simp only [Process.sourceThread, Option.bind_eq_bind,
        Option.bind_eq_some_iff] at found
      obtain ⟨bthHw, hardware, bthHci, object, reads⟩ := found
      obtain ⟨same, belongs⟩ := EmulHciObject.dataReader_belongs reads
      refine ⟨.inl ⟨index, bthHci, object, same.symm⟩, ?_⟩
      intro resource member
      exact Process.mem_resources_of_device hardware object resource
        (belongs resource member)
  | opening =>
      rw [Process.sourceThread] at found
      cases call : process.call with
      | idle =>
          rw [call] at found
          cases found
      | closing index =>
          rw [call] at found
          cases found
      | asking opening =>
          rw [call] at found
          obtain ⟨same, belongs⟩ := HciObject.listener_belongs found
          refine ⟨.inr (by rw [call]; exact same.symm), ?_⟩
          intro resource member
          apply List.mem_append_left
          rw [call]
          rcases belongs resource member with own | hardware
          · apply List.mem_append_left
            exact List.mem_append_right _ own
          · apply List.mem_append_right
            apply List.mem_cons_of_mem
            exact List.mem_append_right _ hardware
      | failing bthHw bthHci =>
          rw [call] at found
          obtain ⟨same, belongs⟩ := HciObject.listener_belongs found
          refine ⟨.inr (by rw [call]; exact same.symm), ?_⟩
          intro resource member
          apply List.mem_append_left
          rw [call]
          rcases belongs resource member with own | hardware
          · exact List.mem_append_left _ (List.mem_append_right _ own)
          · exact List.mem_append_right _ hardware

/-- An object that is there belongs to the process. -/
theorem Process.Sound.mem_resources_of_lives
    {process : Process}
    (sound : process.Sound)
    (lives : process.Lives object) : object ∈ process.resources := by
  rcases lives with ⟨index, bthHci, found, rfl⟩ | there
  · obtain ⟨bthHw, hardware⟩ := sound.paired.exists_hardware found
    exact Process.mem_resources_of_device hardware found _
      (.inl bthHci.object_mem_resources)
  · apply List.mem_append_left
    cases call : process.call with
    | idle =>
        rw [call] at there
        exact there.elim
    | closing index =>
        rw [call] at there
        exact there.elim
    | asking opening =>
        rw [call] at there
        rw [← there]
        apply List.mem_append_left
        exact List.mem_append_right _ List.mem_cons_self
    | failing bthHw bthHci =>
        rw [call] at there
        rw [← there]
        exact List.mem_append_left _ bthHci.object_mem_resources

/-- Only the handlers change. -/
structure OnlyHandlers (process next : Process) : Prop where
  gBthHw : next.gBthHw = process.gBthHw
  gBthHci : next.gBthHci = process.gBthHci
  call : next.call = process.call

theorem OnlyHandlers.sound
    {process next : Process}
    (only : OnlyHandlers process next)
    (sound : process.Sound) : next.Sound := by
  obtain ⟨gBthHw, gBthHci, gBthDevInfo, busy, call, handlers⟩ := next
  obtain ⟨rfl, rfl, rfl⟩ := only
  refine ⟨⟨sound.paired.both, sound.paired.refers⟩, ?_⟩
  have relies := sound.call
  revert relies
  cases process.call <;> exact id

theorem OnlyHandlers.lives
    {process next : Process}
    (only : OnlyHandlers process next)
    (lives : process.Lives object) : next.Lives object := by
  rw [Process.Lives, only.gBthHci, only.call]
  exact lives

/-- A handler begins with what its thread needs, or its memory is lost. -/
theorem spends_spawnHandler
    {process : Process}
    {source : SourceThread}
    (looks : Nat)
    (thread : Bool)
    (belongs : ∀ resource ∈ source.resources, resource ∈ process.resources) :
    Spends process.resources (spawnHandler process source looks thread)
      fun result own loses =>
        OnlyHandlers process result.2 ∧
          (∀ handler ∈ result.2.handlers, handler ∈ process.handlers ∨
            handler.object = source.object) ∧
          own = result.2.resources ∧ loses = if thread then 0 else 2 := by
  rw [spawnHandler]
  refine Spends.bind_of_keeps (owns_touchAll belongs) ?_
  rintro _ _ rfl
  refine Spends.bind_of_keeps (owns_allocate _) ?_
  rintro parameters _ rfl
  refine Spends.bind_of_keeps (owns_allocate _) ?_
  rintro event _ rfl
  refine Spends.bind_of_keeps (owns_acquire _ thread) ?_
  rintro hThread _ ⟨given, rfl⟩
  subst given
  cases hThread with
  | none =>
      have perm : ([event, parameters] ++ process.resources).Perm
          (process.resources ++ [event, parameters]) := List.perm_append_comm
      refine spends_pure perm ⟨⟨rfl, rfl, rfl⟩, ?_, rfl, rfl⟩
      exact fun handler => .inl
  | some hThread =>
      have perm : ((some hThread).toList ++
          event :: parameters :: process.resources).Perm
          (hThread :: event :: parameters :: process.resources) :=
        List.Perm.refl _
      refine Spends.bind_of_keeps (owns_free perm) ?_
      rintro _ _ rfl
      refine Spends.bind_of_keeps (owns_touchAll fun resource member =>
        List.mem_cons_of_mem _ (List.mem_cons_of_mem _
          (belongs resource member))) ?_
      rintro _ _ rfl
      refine Spends.of_perm (Owns.spends (owns_pure
        ⟨⟨rfl, rfl, rfl⟩, ?_, rfl, rfl⟩)) ?_
      · intro handler member
        rcases List.mem_append.mp member with earlier | new
        · exact .inl earlier
        · rw [List.mem_singleton.mp new]
          exact .inr rfl
      · refine List.perm_iff_count.mpr fun each => ?_
        simp only [Process.resources, List.flatMap_append,
          List.flatMap_singleton, Handler.blocks, List.count_append,
          List.count_cons, List.count_nil]
        omega

/-- A handler looks at its object, which is there, or frees its memory. -/
theorem spends_runHandler
    {process : Process}
    {handler : Handler}
    {others : List Handler}
    (picked : pick process.handlers index = some (handler, others))
    (there : handler.looks ≠ 0 → handler.object ∈ process.resources) :
    Spends process.resources (runHandler process handler others)
      fun result own loses =>
        OnlyHandlers process result.2 ∧
          (∀ each ∈ result.2.handlers, each.looks ≠ 0 →
            ∃ before ∈ process.handlers, before.looks ≠ 0 ∧
              before.object = each.object) ∧
          own = result.2.resources ∧ loses = 0 := by
  have order := (perm_of_pick picked).flatMap_right Handler.blocks
  have member : handler ∈ process.handlers :=
    (perm_of_pick picked).mem_iff.mpr List.mem_cons_self
  have stays : ∀ each ∈ others, each ∈ process.handlers := fun each remains =>
    (perm_of_pick picked).mem_iff.mpr (List.mem_cons_of_mem _ remains)
  rw [List.flatMap_cons] at order
  rw [runHandler]
  cases left : handler.looks with
  | zero =>
      have perm : process.resources.Perm (handler.blocks ++
          ({ process with handlers := others } : Process).resources) := by
        refine List.perm_iff_count.mpr fun each => ?_
        have counted := order.count_eq each
        simp only [Process.resources, List.count_append] at counted ⊢
        omega
      refine Spends.bind_of_keeps (owns_touchAll ?_) ?_
      · intro resource among
        exact perm.mem_iff.mpr (List.mem_append_left _ among)
      rintro _ _ rfl
      refine (spends_freeAll perm).bind ?_
      rintro _ _ _ ⟨rfl, rfl⟩
      refine Owns.spends (owns_pure ⟨⟨rfl, rfl, rfl⟩, ?_, rfl, rfl⟩)
      intro each remains looks
      exact ⟨each, stays each remains, looks, rfl⟩
  | succ looks =>
      have more : handler.looks ≠ 0 := by
        rw [left]
        exact Nat.succ_ne_zero looks
      refine Spends.bind_of_keeps (owns_touch (there more)) ?_
      rintro _ _ rfl
      refine Spends.of_perm (Owns.spends (owns_pure
        ⟨⟨rfl, rfl, rfl⟩, ?_, rfl, rfl⟩)) ?_
      · intro each among looking
        rcases List.mem_append.mp among with remains | new
        · exact ⟨each, stays each remains, looking, rfl⟩
        · rw [List.mem_singleton.mp new]
          exact ⟨handler, member, more, rfl⟩
      · refine List.perm_iff_count.mpr fun each => ?_
        have counted := order.count_eq each
        simp only [Process.resources, Handler.blocks, List.flatMap_append,
          List.flatMap_singleton, List.count_append, List.count_cons,
          List.count_nil] at counted ⊢
        omega

end Lifetime
end Runtime
end BthEmul
