import BthEmul.Agent.Forwarding
import BthEmul.Foundation.Machine

/-!
# The shared command object

All threads of the agent send their commands with one command object. A message
id replaces what it holds. Data replace it too, but no data leave it as it is,
so that a call without data sends again what an earlier call sent.
-/

namespace BthEmul

open Foundation

namespace Agent

/-- A call of `SendCommand`. -/
inductive SendCall
  | message (dwCmd dwMsgId : UInt32) (accepted : Bool)
  | data (dwCmd : UInt32) (pData : List UInt8) (accepted : Bool)
  deriving DecidableEq

namespace SendCall

/-- The command id of a call. -/
def dwCmd : SendCall → UInt32
  | .message dwCmd _ _ => dwCmd
  | .data dwCmd _ _ => dwCmd

/-- The parameters of a call. -/
def parameters : SendCall → CommandPacket
  | .message _ dwMsgId _ => [.dword dwMsgId]
  | .data _ pData _ => if pData = [] then [] else [.bytes pData]

/-- What a call does with the command object. -/
def perform : SendCall → Option CommandPacket → SendOutcome
  | .message dwCmd dwMsgId accepted, pCmd =>
      sendCommandMessage dwCmd dwMsgId accepted pCmd
  | .data dwCmd pData accepted, pCmd =>
      sendCommandData dwCmd pData accepted pCmd

/-- A call pushes a command with exactly its own parameters. -/
def CarriesOwn (call : SendCall) (outcome : SendOutcome) : Prop :=
  outcome.pushed = some { id := call.dwCmd, parameters := call.parameters }

end SendCall

/-- The command object under the calls, in the order in which they enter the
critical section. -/
def commandMachine :
    Machine (Option CommandPacket) SendCall SendOutcome where
  step pCmd call := some (call.perform pCmd, (call.perform pCmd).command)

namespace SendCall

/-- Whether a call has parameters decides what it sends and leaves. -/
theorem perform_eq
    (call : SendCall)
    (command : CommandPacket) :
    ∃ returned,
      call.perform (some command) = {
        returned
        pushed := some {
          id := call.dwCmd
          parameters :=
            if call.parameters = [] then command else call.parameters }
        command := some
          (if call.parameters = [] then command else call.parameters) } := by
  cases call with
  | message dwCmd dwMsgId accepted => exact ⟨accepted, rfl⟩
  | data dwCmd pData accepted =>
      refine ⟨accepted, ?_⟩
      by_cases noData : pData = []
      · subst noData
        rfl
      · simp [perform, sendCommandData, pushCommand, parameters, noData,
          SendCall.dwCmd]

/-- A call with parameters carries them; a call without carries what the
command object holds. -/
theorem carriesOwn_perform_iff
    (call : SendCall)
    (command : CommandPacket) :
    call.CarriesOwn (call.perform (some command)) ↔
      (call.parameters = [] → command = []) := by
  obtain ⟨returned, performed⟩ := call.perform_eq command
  rw [CarriesOwn, performed]
  by_cases none_ : call.parameters = [] <;> simp [none_]

/-- From a command object on, every call carries its own parameters exactly
when those without parameters find the object empty and stand before those with
parameters. -/
theorem always_carriesOwn_iff
    (command : CommandPacket)
    (calls : List SendCall) :
    commandMachine.Always (fun _ call outcome _ => call.CarriesOwn outcome)
        (some command) calls ↔
      (∀ call ∈ calls, call.parameters = [] → command = []) ∧
        calls.Pairwise fun earlier later =>
          later.parameters = [] → earlier.parameters = [] := by
  induction calls generalizing command with
  | nil => simp [Machine.Always]
  | cons call rest inductionHypothesis =>
      obtain ⟨returned, performed⟩ := call.perform_eq command
      have unfolded :
          commandMachine.Always
              (fun _ call outcome _ => call.CarriesOwn outcome)
              (some command) (call :: rest) ↔
            call.CarriesOwn (call.perform (some command)) ∧
              commandMachine.Always
                (fun _ call outcome _ => call.CarriesOwn outcome)
                (some (if call.parameters = [] then command
                  else call.parameters)) rest := by
        simp [Machine.Always, commandMachine, performed]
      rw [unfolded, carriesOwn_perform_iff, inductionHypothesis,
        List.pairwise_cons, List.forall_mem_cons]
      by_cases none_ : call.parameters = []
      · simp only [none_, if_true, forall_const, implies_true, true_and]
        tauto
      · simp only [none_, if_false, false_implies, true_and]
        constructor
        · rintro ⟨before, ordered⟩
          refine ⟨?_, before, ordered⟩
          intro later member empty
          exact (before later member empty).elim
        · rintro ⟨-, before, ordered⟩
          exact ⟨before, ordered⟩

/-- Every call pushes exactly its own parameters when and only when no call
without data comes behind one with parameters. -/
theorem carriesOwn_iff_pairwise (calls : List SendCall) :
    commandMachine.Always (fun _ call outcome _ => call.CarriesOwn outcome)
        (some []) calls ↔
      calls.Pairwise fun earlier later =>
        later.parameters = [] → earlier.parameters = [] := by
  rw [always_carriesOwn_iff]
  simp

/-- A call without data behind a message id. -/
def emptyAfterMessage : List SendCall :=
  [.message 2 1 true, .data 0 [] true]

/-- The call without data sends the message id again. -/
theorem not_carriesOwn_emptyAfterMessage :
    ¬ commandMachine.Always (fun _ call outcome _ => call.CarriesOwn outcome)
      (some []) emptyAfterMessage := by
  rw [always_carriesOwn_iff]
  decide

end SendCall
end Agent
end BthEmul
