import BthEmul.Runtime.DataReader

/-!
# Dead states of the data reader

A read that leaves the position behind the size of its packet, or begins a
packet larger than the read buffer, brings the loop into a state from which it
never dispatches again. Every other read leaves a state in which some further
read completes a packet.
-/

namespace BthEmul

open Foundation

namespace Runtime
namespace DataReader

/-- The driver returns at most as many bytes as the loop has room for. -/
def Fits (reader : DataReader) (chunk : List UInt8) : Prop :=
  reader.nBufferPos + chunk.length ≤ dataMaxSize

instance (reader : DataReader) (chunk : List UInt8) :
    Decidable (reader.Fits chunk) :=
  inferInstanceAs (Decidable (_ ≤ _))

/-- Some further reads lead to a packet being dispatched. -/
def CanDispatch (reader : DataReader) : Prop :=
  ∃ chunks outputs final packet,
    dataReaderMachine.run reader chunks = some (outputs, final) ∧
      some packet ∈ outputs

/-- The position stays within the buffer, no packet larger than the buffer was
dispatched, and another packet can be. -/
structure Resilient
    (outputs : List (Option (List UInt8)))
    (reader : DataReader) : Prop where
  /-- The position stays within the buffer. -/
  pos_le : reader.nBufferPos ≤ dataMaxSize
  /-- No packet larger than the buffer was dispatched. -/
  dispatched_le : ∀ packet, some packet ∈ outputs →
    packet.length ≤ dataMaxSize
  /-- Another packet can be dispatched. -/
  canDispatch : reader.CanDispatch

/-- A read between packets is empty, or it stays within the packet it begins
and that packet fits the buffer; any other read stays within the packet. -/
def Conforms (reader : DataReader) (chunk : List UInt8) : Prop :=
  if reader.nBufferPos = 0 then
    chunk = [] ∨
      (chunk.length ≤ announcedSize chunk ∧ announcedSize chunk ≤ dataMaxSize)
  else reader.nBufferPos + chunk.length ≤ reader.nPacketSize

instance (reader : DataReader) (chunk : List UInt8) :
    Decidable (reader.Conforms chunk) :=
  inferInstanceAs (Decidable (ite _ _ _))

/-- Between packets, or within a packet that fits the buffer. -/
def Live (reader : DataReader) : Prop :=
  reader.nBufferPos = 0 ∨
    (reader.nBufferPos < reader.nPacketSize ∧
      reader.nPacketSize ≤ dataMaxSize)

/-- Behind the end of the packet, or within one that does not fit. -/
def Dead (reader : DataReader) : Prop :=
  0 < reader.nBufferPos ∧
    (reader.nPacketSize < reader.nBufferPos ∨
      dataMaxSize < reader.nPacketSize)

theorem live_start : start.Live := Or.inl rfl

/-- A sound state is live or dead. -/
theorem Sound.not_live_iff
    {reader : DataReader}
    (sound : reader.Sound) :
    ¬ reader.Live ↔ reader.Dead := by
  have incomplete := sound.pos_ne
  unfold Live Dead
  omega

/-! ## Live states -/

/-- A live state dispatches on one further read: an empty packet between
packets, or the missing bytes of the current one. -/
theorem Live.canDispatch
    {reader : DataReader}
    (live : reader.Live)
    (sound : reader.Sound) :
    reader.CanDispatch := by
  have completes : ∃ chunk,
      reader.nBufferPos + chunk.length ≤ dataMaxSize ∧
        reader.sizeAfter chunk = reader.nBufferPos + chunk.length := by
    by_cases between : reader.nBufferPos = 0
    · refine ⟨[0, 0, 0, 0], ?_, ?_⟩
      · rw [between]
        decide
      · rw [sizeAfter, if_pos between, between]
        decide
    · obtain ⟨within, fits⟩ := live.resolve_left between
      refine ⟨List.replicate (reader.nPacketSize - reader.nBufferPos) 0,
        ?_, ?_⟩
      · rw [List.length_replicate]
        omega
      · rw [sizeAfter, if_neg between, List.length_replicate]
        omega
  obtain ⟨chunk, fits, complete⟩ := completes
  rcases sound.exists_step fits with ⟨-, stepped⟩ | ⟨incomplete, -⟩
  · refine ⟨[chunk], [some (reader.pending ++ chunk)], start, _, ?_,
      List.mem_singleton_self _⟩
    rw [Machine.run_cons_eq_some_iff]
    exact ⟨_, _, [], stepped, rfl, rfl⟩
  · exact absurd complete incomplete

/-! ## Dead states -/

/-- A read in a dead state dispatches nothing and leads to a dead state. -/
theorem Dead.step
    {reader next : DataReader}
    (dead : reader.Dead)
    (sound : reader.Sound)
    (stepped : reader.step chunk = some (output, next)) :
    output = none ∧ next.Dead ∧ next.Sound := by
  obtain ⟨positive, stuck⟩ := dead
  have fits : reader.nBufferPos + chunk.length ≤ dataMaxSize := by
    unfold DataReader.step at stepped
    cases stored : reader.readBuffer.store reader.nBufferPos chunk with
    | none => simp [stored] at stepped
    | some block => exact Buffer.fits_of_store stored
  have size : reader.sizeAfter chunk = reader.nPacketSize :=
    if_neg (Nat.ne_of_gt positive)
  rcases sound.exists_step fits with ⟨complete, -⟩ |
    ⟨-, next', stepped', nextSound, -, pos, packetSize⟩
  · omega
  · obtain ⟨rfl, rfl⟩ : none = output ∧ next' = next := by
      simpa using stepped'.symm.trans stepped
    exact ⟨rfl, ⟨by omega, by omega⟩, nextSound⟩

/-- A dead state never dispatches again. -/
theorem Dead.not_canDispatch
    {reader : DataReader}
    (dead : reader.Dead)
    (sound : reader.Sound) :
    ¬ reader.CanDispatch := by
  rintro ⟨chunks, outputs, final, packet, ran, dispatched⟩
  have silent := Machine.holds_of_run
    (fun history state =>
      state.Dead ∧ state.Sound ∧ ∀ entry ∈ history, entry.2 = none)
    (fun history state chunk output next ⟨dead, sound, quiet⟩ _ stepped => by
      obtain ⟨nothing, nextDead, nextSound⟩ := dead.step sound stepped
      refine ⟨nextDead, nextSound, ?_⟩
      intro entry member
      rcases List.mem_append.mp member with earlier | last
      · exact quiet entry earlier
      · rw [List.mem_singleton.mp last]
        exact nothing)
    [] ⟨dead, sound, by simp⟩
    (Machine.admits_of_forall (fun _ _ => trivial) _ _) ran
  have answers : (chunks.zip outputs).map Prod.snd = outputs :=
    List.map_snd_zip (Nat.le_of_eq (Machine.length_of_run ran))
  rw [← answers] at dispatched
  obtain ⟨entry, member, same⟩ := List.mem_map.mp dispatched
  have nothing := silent.2.2 entry member
  rw [same] at nothing
  contradiction

/-- Exactly the live states dispatch again. -/
theorem Sound.canDispatch_iff_live
    {reader : DataReader}
    (sound : reader.Sound) :
    reader.CanDispatch ↔ reader.Live := by
  constructor
  · intro canDispatch
    by_contra notLive
    exact (sound.not_live_iff.mp notLive).not_canDispatch sound canDispatch
  · intro live
    exact live.canDispatch sound

/-! ## One read -/

/-- A read of a live state keeps it live exactly when it conforms, and
dispatches no packet larger than the buffer. -/
theorem Live.step
    {reader : DataReader}
    (live : reader.Live)
    (sound : reader.Sound)
    (fits : reader.Fits chunk) :
    ∃ output next,
      reader.step chunk = some (output, next) ∧
        next.Sound ∧
        (next.Live ↔ reader.Conforms chunk) ∧
        ∀ packet, output = some packet → packet.length ≤ dataMaxSize := by
  have pendingLength : reader.pending.length = reader.nBufferPos := by
    rw [pending, List.length_take, reader.readBuffer.length_eq]
    exact Nat.min_eq_left sound.pos_le
  rcases sound.exists_step fits with ⟨complete, stepped⟩ |
    ⟨incomplete, next, stepped, nextSound, -, pos, packetSize⟩
  · refine ⟨_, _, stepped, sound_start, iff_of_true live_start ?_, ?_⟩
    · unfold Conforms
      unfold sizeAfter at complete
      unfold Fits at fits
      split
      · rename_i between
        rw [if_pos between] at complete
        right
        omega
      · rename_i within
        rw [if_neg within] at complete
        omega
    · rintro packet ⟨⟩
      rw [List.length_append, pendingLength]
      exact fits
  · refine ⟨none, next, stepped, nextSound, ?_, by simp⟩
    rw [Live, Conforms, pos, packetSize]
    unfold sizeAfter at incomplete ⊢
    split
    · rename_i between
      rw [if_pos between] at incomplete
      rw [between, Nat.zero_add, ← List.length_eq_zero_iff]
      omega
    · rename_i within
      rw [if_neg within] at incomplete
      have fitsBuffer : reader.nPacketSize ≤ dataMaxSize := by
        rcases live with between | ⟨-, fitsBuffer⟩
        · exact absurd between within
        · exact fitsBuffer
      omega

/-! ## Runs -/

/-- After any of the reads the loop is resilient. -/
def ResilientRun (reader : DataReader) (chunks : List (List UInt8)) : Prop :=
  ∀ early, early <+: chunks →
    ∃ outputs state,
      dataReaderMachine.run reader early = some (outputs, state) ∧
        state.Resilient outputs

/-- A run that begins with a step is resilient when the state it begins in is,
and the run after the step is. -/
theorem resilientRun_cons_iff
    {reader next : DataReader}
    (live : reader.Live)
    (sound : reader.Sound)
    (stepped : reader.step chunk = some (output, next))
    (bounded : ∀ packet, output = some packet →
      packet.length ≤ dataMaxSize) :
    reader.ResilientRun (chunk :: chunks) ↔ next.ResilientRun chunks := by
  constructor
  · intro resilient early isPrefix
    obtain ⟨outputs, state, ran, pos_le, dispatched_le, canDispatch⟩ :=
      resilient (chunk :: early) (List.cons_prefix_cons.mpr ⟨rfl, isPrefix⟩)
    obtain ⟨output', next', later, stepped', ranRest, rfl⟩ :=
      Machine.run_cons_eq_some_iff.mp ran
    obtain ⟨rfl, rfl⟩ : output = output' ∧ next = next' := by
      simpa using stepped.symm.trans stepped'
    exact ⟨later, state, ranRest, pos_le,
      fun packet member =>
        dispatched_le packet (List.mem_cons_of_mem _ member), canDispatch⟩
  · intro resilient early isPrefix
    cases early with
    | nil =>
        exact ⟨[], reader, rfl, sound.pos_le, by simp,
          live.canDispatch sound⟩
    | cons first early =>
        obtain ⟨rfl, restPrefix⟩ := List.cons_prefix_cons.mp isPrefix
        obtain ⟨outputs, state, ran, pos_le, dispatched_le, canDispatch⟩ :=
          resilient early restPrefix
        refine ⟨output :: outputs, state,
          Machine.run_cons_eq_some_iff.mpr ⟨_, _, _, stepped, ran, rfl⟩,
          pos_le, ?_, canDispatch⟩
        intro packet member
        rcases List.mem_cons.mp member with same | later
        · exact bounded packet same.symm
        · exact dispatched_le packet later

/-- From a live state, the loop stays resilient exactly when every read
conforms. -/
theorem Live.resilientRun_iff
    {reader : DataReader}
    (live : reader.Live)
    (sound : reader.Sound)
    (fits : dataReaderMachine.Admits Fits reader chunks) :
    reader.ResilientRun chunks ↔
      dataReaderMachine.Admits Conforms reader chunks := by
  induction chunks generalizing reader with
  | nil =>
      refine iff_of_true ?_ trivial
      intro early isPrefix
      rw [List.prefix_nil.mp isPrefix]
      exact ⟨[], reader, rfl, sound.pos_le, by simp, live.canDispatch sound⟩
  | cons chunk chunks inductionHypothesis =>
      obtain ⟨chunkFits, laterFits⟩ := fits
      obtain ⟨output, next, stepped, nextSound, nextLive, bounded⟩ :=
        live.step sound chunkFits
      have restFits := laterFits output next stepped
      rw [resilientRun_cons_iff live sound stepped bounded]
      constructor
      · intro resilient
        obtain ⟨outputs, state, ran, -, -, canDispatch⟩ :=
          resilient [] List.nil_prefix
        cases ran
        have stillLive := nextSound.canDispatch_iff_live.mp canDispatch
        refine ⟨nextLive.mp stillLive, ?_⟩
        intro output' next' stepped'
        obtain ⟨-, rfl⟩ : output = output' ∧ next = next' := by
          simpa using stepped.symm.trans stepped'
        exact (inductionHypothesis stillLive nextSound restFits).mp resilient
      · rintro ⟨conforms, later⟩
        exact (inductionHypothesis (nextLive.mpr conforms) nextSound
          restFits).mpr (later output next stepped)

/-- Whatever the reads, the loop stays resilient exactly when each of them
conforms: no read goes beyond the packet it belongs to or begins a packet
larger than the buffer. -/
theorem resilientRun_iff_admits_conforms
    (chunks : List (List UInt8))
    (fits : dataReaderMachine.Admits Fits start chunks) :
    start.ResilientRun chunks ↔
      dataReaderMachine.Admits Conforms start chunks :=
  live_start.resilientRun_iff sound_start fits

theorem resilientRun_five_bytes :
    start.ResilientRun [[1, 0, 1, 0], [], [7]] :=
  (resilientRun_iff_admits_conforms _ (by decide +kernel)).mpr
    (by decide +kernel)

/-- The header of a packet with 1021 bytes of payload is a dead end. -/
theorem not_canDispatch_1021_bytes :
    start.Fits [1, 0, 253, 3] ∧
      ∃ outputs state,
        dataReaderMachine.run start [[1, 0, 253, 3]] =
            some (outputs, state) ∧
          ¬ state.CanDispatch := by
  have fits : start.Fits [1, 0, 253, 3] := by
    decide
  have size : start.sizeAfter [1, 0, 253, 3] = 1025 := by
    decide
  refine ⟨fits, ?_⟩
  rcases sound_start.exists_step fits with ⟨complete, -⟩ |
    ⟨-, next, stepped, nextSound, -, pos, packetSize⟩
  · rw [size] at complete
    contradiction
  · have dead : next.Dead := by
      rw [Dead, pos, packetSize, size]
      decide
    exact ⟨[none], next,
      Machine.run_cons_eq_some_iff.mpr ⟨_, _, [], stepped, rfl, rfl⟩,
      dead.not_canDispatch nextSound⟩

end DataReader
end Runtime
end BthEmul
