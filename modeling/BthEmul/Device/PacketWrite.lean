import BthEmul.Device.PortTransfer
import BthEmul.Device.Transport

/-!
# Writing a packet

The type of a packet goes into the byte before it, and both are given to the
port together. The loop takes them from the buffer in order, however little the
port takes at a time.
-/

namespace BthEmul

open Foundation

namespace Transport

/-- `PACKET_SIZE_W`. -/
def packetSizeW : Nat := 4096

/-- What writing a packet returns and leaves behind. -/
structure WritePacketResult (cSize : Nat) where
  /-- Whether the call returns `TRUE`. -/
  returned : Bool
  /-- The buffer. -/
  pBuff : BdBuffer cSize
  /-- The bytes that the port took. -/
  written : List UInt8

/-- The result of a call that does not write. -/
def WritePacketResult.refused
    (pBuff : BdBuffer cSize) : WritePacketResult cSize where
  returned := false
  pBuff := pBuff
  written := []

/-- The packet is too big, or there is no byte for its type. -/
def BdBuffer.Unsuitable (pBuff : BdBuffer cSize) : Prop :=
  packetSizeW < pBuff.bufferTotal ∨ pBuff.cStart < 1

instance (pBuff : BdBuffer cSize) : Decidable pBuff.Unsuitable :=
  inferInstanceAs (Decidable (_ ∨ _))

/-- The type goes into the byte before the packet. -/
def BdBuffer.putType
    (pBuff : BdBuffer cSize)
    (eType : HciType) : Option (BdBuffer cSize) := do
  let pBuffer ← pBuff.pBuffer.store (pBuff.cStart - 1) [eType.code]
  some { pBuff with pBuffer := pBuffer, cStart := pBuff.cStart - 1 }

/-- `WriteCommPort` for the whole packet. -/
def BdBuffer.writeLoop
    (pBuff : BdBuffer cSize) : TransferLoop (List UInt8) Outcome :=
  writeCommPortLoop pBuff.pBuffer pBuff.cStart (.ofNat pBuff.bufferTotal)

/-- `HCI_WritePacket`, where the port reports the outcomes and `active` says
whether `g_hFile` is valid. There is no result where an access leaves the
buffer, or where the outcomes are not all. -/
def hciWritePacket
    (active : Bool)
    (eType : HciType)
    (pBuff : BdBuffer cSize)
    (outcomes : List Outcome) : Option (WritePacketResult cSize) :=
  if pBuff.Unsuitable then some (.refused pBuff)
  else if ¬ active then some (.refused pBuff)
  else do
    let pBuff ← pBuff.putType eType
    let (_, progress) ←
      pBuff.writeLoop.machine.run (pBuff.writeLoop.enter 0 []) outcomes
    let returned ← progress.returned
    some { returned, pBuff, written := progress.state }

/-! ## The property -/

/-- The buffer holds a packet. -/
structure BdBuffer.Holds
    (pBuff : BdBuffer cSize)
    (content : List UInt8) : Prop where
  /-- The packet is inside the buffer. -/
  inside : pBuff.cStart ≤ pBuff.cEnd ∧ pBuff.cEnd ≤ cSize
  /-- Its bytes. -/
  loaded : pBuff.pBuffer.load pBuff.cStart pBuff.bufferTotal = some content

/-- A call is true only where the port took the type and the packet, each byte
once and in order. It leaves both in the buffer, unless it is refused. -/
structure WritesPacket
    (active : Bool)
    (eType : HciType)
    (pBuff : BdBuffer cSize)
    (content : List UInt8)
    (result : WritePacketResult cSize) : Prop where
  /-- All of it, where the call is true. -/
  whole : result.returned = true → result.written = eType.code :: content
  /-- Nothing else. -/
  front : result.written <+: eType.code :: content
  /-- A call that is refused leaves the buffer as it is. -/
  refused : active = false ∨ pBuff.Unsuitable → result = .refused pBuff
  /-- Any other leaves the packet in the buffer, behind its type. -/
  kept : active = true → ¬ pBuff.Unsuitable →
    result.pBuff.Holds (eType.code :: content)

/-! ## The type -/

theorem BdBuffer.Holds.length
    {pBuff : BdBuffer cSize}
    (holds : pBuff.Holds content) : content.length = pBuff.bufferTotal :=
  Buffer.length_of_load holds.loaded

/-- Behind its type the packet is one byte longer. -/
theorem BdBuffer.Holds.putType
    {pBuff : BdBuffer cSize}
    (holds : pBuff.Holds content)
    (suitable : ¬ pBuff.Unsuitable)
    (eType : HciType) :
    ∃ typed, pBuff.putType eType = some typed ∧
      typed.Holds (eType.code :: content) ∧
      typed.bufferTotal = content.length + 1 := by
  obtain ⟨small, room⟩ := not_or.mp suitable
  obtain ⟨start_le, end_le⟩ := holds.inside
  have length := holds.length
  rw [BdBuffer.bufferTotal] at length
  obtain ⟨pBuffer, stored⟩ := pBuff.pBuffer.exists_store (pBuff.cStart - 1)
    [eType.code] (by rw [List.length_singleton]; omega)
  have back : pBuff.cStart - 1 + 1 = pBuff.cStart := by omega
  refine ⟨{ pBuff with pBuffer := pBuffer, cStart := pBuff.cStart - 1 },
    ?_, ⟨?_, ?_⟩, ?_⟩
  · rw [BdBuffer.putType, stored]
    rfl
  · exact ⟨by dsimp only; omega, end_le⟩
  · have type := Buffer.load_of_store stored
    have behind := Buffer.load_behind_of_store stored pBuff.bufferTotal
    rw [List.length_singleton, back, holds.loaded] at behind
    rw [← back] at behind
    have both := Buffer.load_append type behind
    have total : pBuff.cEnd - (pBuff.cStart - 1) =
        [eType.code].length + pBuff.bufferTotal := by
      rw [List.length_singleton, BdBuffer.bufferTotal]
      omega
    rw [BdBuffer.bufferTotal]
    dsimp only
    rw [total]
    exact both
  · rw [BdBuffer.bufferTotal]
    dsimp only
    omega

/-- A suitable packet is short. -/
theorem BdBuffer.Holds.small
    {pBuff : BdBuffer cSize}
    (holds : pBuff.Holds content)
    (suitable : ¬ pBuff.Unsuitable)
    (eType : HciType) : (eType.code :: content).length < 2 ^ 32 := by
  have fits := (not_or.mp suitable).1
  rw [packetSizeW, ← holds.length] at fits
  rw [List.length_cons]
  omega

/-! ## The loop -/

/-- The loop asks for the whole packet. -/
theorem BdBuffer.Holds.wanted
    {pBuff : BdBuffer cSize}
    (holds : pBuff.Holds content)
    (small : content.length < 2 ^ 32) :
    pBuff.writeLoop.wanted = content.length := by
  change (UInt32.ofNat pBuff.bufferTotal).toNat = content.length
  rw [← holds.length]
  exact UInt32.toNat_ofNat_of_lt' small

/-- The first bytes of a packet are the first of its content. -/
theorem BdBuffer.Holds.eq_take_of_load
    {pBuff : BdBuffer cSize}
    (holds : pBuff.Holds content)
    (short : count ≤ content.length)
    (loaded : pBuff.pBuffer.load pBuff.cStart count = some bytes) :
    bytes = content.take count := by
  have all := holds.loaded
  rw [← holds.length] at all
  unfold Buffer.load at loaded all
  split at all
  · rename_i inside
    rw [if_pos (by omega), Option.some.injEq] at loaded
    rw [Option.some.injEq] at all
    rw [← loaded, ← all, List.take_take, Nat.min_eq_left short]
  · contradiction

/-- However the port takes the bytes, the loop runs, and the port has the first
ones of the packet, all of them where the loop returns true. -/
theorem BdBuffer.Holds.exists_run
    {pBuff : BdBuffer cSize}
    (holds : pBuff.Holds content)
    (small : content.length < 2 ^ 32)
    (outcomes : List Outcome) :
    ∃ made progress,
      pBuff.writeLoop.machine.run (pBuff.writeLoop.enter 0 []) outcomes =
          some (made, progress) ∧
        progress.state = content.take progress.filled ∧
        (progress.returned = some true →
          progress.filled = content.length) := by
  obtain ⟨start_le, end_le⟩ := holds.inside
  have wanted := holds.wanted small
  have length := holds.length
  rw [BdBuffer.bufferTotal] at length
  have fits : pBuff.cStart + (UInt32.ofNat pBuff.bufferTotal).toNat ≤ cSize := by
    change (UInt32.ofNat pBuff.bufferTotal).toNat = content.length at wanted
    omega
  obtain ⟨made, progress, ran, sound⟩ := TransferLoop.exists_run
    (total_writeCommPortLoop fits)
    (pBuff.writeLoop.sound_enter [] (Nat.zero_le _)) outcomes
  refine ⟨made, progress, ran, ?_, ?_⟩
  · have none : TakenFrom pBuff.pBuffer pBuff.cStart []
        (pBuff.writeLoop.enter 0 []).filled
        (pBuff.writeLoop.enter 0 []).state :=
      takenFrom_zero pBuff.pBuffer [] (Nat.le_trans start_le end_le)
    obtain ⟨bytes, loaded, taken⟩ := TransferLoop.moved_of_run
      (fun _ _ _ _ _ _ => TakenFrom.request) none ran
    rw [taken, List.nil_append]
    apply holds.eq_take_of_load ?_ loaded
    rw [← wanted]
    exact sound.filled_le
  · intro returned
    rw [← wanted]
    exact sound.complete returned

/-! ## Packets -/

/-- `HCI_WritePacket` of a suitable packet with a valid handle. -/
theorem hciWritePacket_eq
    {pBuff typed : BdBuffer cSize}
    (suitable : ¬ pBuff.Unsuitable)
    (put : pBuff.putType eType = some typed)
    (ran : typed.writeLoop.machine.run (typed.writeLoop.enter 0 []) outcomes =
      some (made, progress)) :
    hciWritePacket true eType pBuff outcomes =
      progress.returned.map fun returned =>
        { returned, pBuff := typed, written := progress.state } := by
  rw [hciWritePacket, if_neg suitable, if_neg (by decide), put]
  simp only [Option.bind_eq_bind, Option.bind_some, ran]
  cases progress.returned with
  | none => rfl
  | some value => rfl

/-- Whatever the port does, `HCI_WritePacket` stays inside the buffer, has the
port take the type and the packet in order, and returns true only where it took
them all. It leaves them in the buffer, and the buffer as it is where it is
refused; it has no result only while it waits for the port. -/
theorem hciWritePacket_faithful
    (active : Bool)
    (eType : HciType)
    (pBuff : BdBuffer cSize)
    (holds : pBuff.Holds content)
    (outcomes : List Outcome) :
    (hciWritePacket active eType pBuff outcomes = none →
      active = true ∧ ∃ typed made progress,
        pBuff.putType eType = some typed ∧
          typed.writeLoop.machine.run (typed.writeLoop.enter 0 []) outcomes =
            some (made, progress) ∧ progress.returned = none) ∧
      ∀ result, hciWritePacket active eType pBuff outcomes = some result →
        WritesPacket active eType pBuff content result := by
  by_cases unsuitable : pBuff.Unsuitable
  · rw [hciWritePacket, if_pos unsuitable]
    refine ⟨nofun, ?_⟩
    rintro result ⟨⟩
    exact ⟨nofun, List.nil_prefix, fun _ => rfl,
      fun _ suitable => absurd unsuitable suitable⟩
  cases active with
  | false =>
      rw [hciWritePacket, if_neg unsuitable, if_pos (by decide)]
      refine ⟨nofun, ?_⟩
      rintro result ⟨⟩
      exact ⟨nofun, List.nil_prefix, fun _ => rfl, nofun⟩
  | true =>
      obtain ⟨typed, put, typedHolds, -⟩ := holds.putType unsuitable eType
      have small := holds.small unsuitable eType
      obtain ⟨made, progress, ran, taken, complete⟩ :=
        typedHolds.exists_run small outcomes
      rw [hciWritePacket_eq unsuitable put ran]
      constructor
      · intro waits
        exact ⟨rfl, typed, made, progress, put, ran,
          Option.map_eq_none_iff.mp waits⟩
      · intro result wrote
        obtain ⟨returned, here, rfl⟩ := Option.map_eq_some_iff.mp wrote
        refine ⟨?_, ?_, ?_, fun _ _ => typedHolds⟩
        · rintro rfl
          change progress.state = _
          rw [taken, complete here, List.take_length]
        · change progress.state <+: _
          rw [taken]
          exact List.take_prefix _ _
        · rintro (idle | unsuited)
          · cases idle
          · exact absurd unsuited unsuitable

/-- A buffer with the command `HCI_Reset` behind one free byte. -/
def resetBuffer : BdBuffer 4 where
  pBuffer := ⟨[0, 0x03, 0x0c, 0], rfl⟩
  cStart := 1
  cEnd := 4

theorem resetBuffer_holds : resetBuffer.Holds [0x03, 0x0c, 0] where
  inside := by decide
  loaded := by decide

/-- The port takes two bytes, and fails once it is asked for the others. -/
theorem hciWritePacket_resetBuffer :
    ∃ result,
      hciWritePacket true .commandPacket resetBuffer
          [{ succeeds := true, size := 2 }, { succeeds := false, size := 0 }] =
        some result ∧
      WritesPacket true .commandPacket resetBuffer [0x03, 0x0c, 0] result := by
  obtain ⟨result, wrote⟩ := Option.isSome_iff_exists.mp
    (show (hciWritePacket true .commandPacket resetBuffer
      [{ succeeds := true, size := 2 },
        { succeeds := false, size := 0 }]).isSome by decide +kernel)
  exact ⟨result, wrote,
    (hciWritePacket_faithful true .commandPacket resetBuffer
      resetBuffer_holds _).2 result wrote⟩

/-! ## One call of the port -/

/-- The first call asks for the whole packet. -/
theorem BdBuffer.Holds.run_single
    {pBuff : BdBuffer cSize}
    (holds : pBuff.Holds content)
    (small : content.length < 2 ^ 32)
    (nonempty : content ≠ [])
    (outcome : Outcome) :
    ∃ made bytes,
      pBuff.writeLoop.machine.run (pBuff.writeLoop.enter 0 []) [outcome] =
        some (made, pBuff.writeLoop.resume (pBuff.writeLoop.enter 0 []) outcome
          (min outcome.size content.length) bytes) := by
  have wanted := holds.wanted small
  obtain ⟨start_le, end_le⟩ := holds.inside
  have length := holds.length
  rw [BdBuffer.bufferTotal] at length
  have more : pBuff.writeLoop.more 0 = true := by
    apply (pBuff.writeLoop.more_iff 0 (Nat.zero_le _)).mpr
    rw [wanted]
    exact List.length_pos_iff.mpr nonempty
  have inside : pBuff.cStart + 0 + content.length ≤ cSize := by omega
  have loaded := pBuff.pBuffer.load_eq_some
    (Nat.le_trans (Nat.add_le_add_left (Nat.min_le_right outcome.size
      content.length) (pBuff.cStart + 0)) inside)
  obtain ⟨bytes, requested⟩ : ∃ bytes,
      pBuff.writeLoop.request outcome 0 (pBuff.writeLoop.wanted - 0) [] =
        some (min outcome.size content.length, bytes) := by
    rw [wanted]
    change ∃ bytes, writeRequest pBuff.pBuffer pBuff.cStart outcome 0
      content.length [] = some (min outcome.size content.length, bytes)
    simp only [writeRequest, if_pos inside, loaded]
    exact ⟨_, rfl⟩
  rw [TransferLoop.enter_of_more [] more]
  exact ⟨_, _, Machine.run_cons_eq_some_iff.mpr
    ⟨_, _, _, TransferLoop.step_of_request requested, rfl, rfl⟩⟩

/-- A port that takes all at once makes the call true. -/
theorem exists_hciWritePacket_of_whole
    {pBuff : BdBuffer cSize}
    (holds : pBuff.Holds content)
    (suitable : ¬ pBuff.Unsuitable)
    (eType : HciType)
    {outcome : Outcome}
    (takes : content.length < outcome.size) :
    ∃ result, hciWritePacket true eType pBuff [outcome] = some result ∧
      result.returned = true := by
  obtain ⟨typed, put, typedHolds, -⟩ := holds.putType suitable eType
  have small := holds.small suitable eType
  obtain ⟨made, bytes, ran⟩ := typedHolds.run_single small
    (List.cons_ne_nil _ _) outcome
  have all : min outcome.size (eType.code :: content).length =
      (eType.code :: content).length := Nat.min_eq_right takes
  have ends : ¬ typed.writeLoop.more (eType.code :: content).length = true := by
    rw [← typedHolds.wanted small]
    rw [typed.writeLoop.more_iff _ (Nat.le_refl _)]
    exact Nat.lt_irrefl _
  have some : ¬ ((typed.writeLoop.succeeds outcome = false) ∧
      (eType.code :: content).length = 0) := fun both => by cases both.2
  rw [all, TransferLoop.resume, if_neg some] at ran
  have filled : (typed.writeLoop.enter 0 []).filled +
      (eType.code :: content).length = (eType.code :: content).length :=
    Nat.zero_add _
  rw [filled, TransferLoop.enter_of_not_more _ ends] at ran
  rw [hciWritePacket_eq suitable put ran]
  exact ⟨_, rfl, rfl⟩

/-- A port that fails and takes nothing makes the call false. -/
theorem exists_hciWritePacket_of_refusal
    {pBuff : BdBuffer cSize}
    (holds : pBuff.Holds content)
    (suitable : ¬ pBuff.Unsuitable)
    (eType : HciType) :
    ∃ result,
      hciWritePacket true eType pBuff [{ succeeds := false, size := 0 }] =
          some result ∧
        result.returned = false := by
  obtain ⟨typed, put, typedHolds, -⟩ := holds.putType suitable eType
  have small := holds.small suitable eType
  obtain ⟨made, bytes, ran⟩ := typedHolds.run_single small
    (List.cons_ne_nil _ _) { succeeds := false, size := 0 }
  rw [Nat.zero_min, TransferLoop.resume, if_pos ⟨rfl, rfl⟩] at ran
  rw [hciWritePacket_eq suitable put ran]
  exact ⟨_, rfl, rfl⟩

end Transport
end BthEmul
