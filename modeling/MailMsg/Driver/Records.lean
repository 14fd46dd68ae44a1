/-
Module: MailMsg.Driver.Records
Purpose: The records that cross the user boundary: what an accepted write puts into the ring, and
  what one iteration of a read answers for each thing that it can find.
Source: LZAMP/linux/drivers/lzamp_amp_mailmsg.c (r1_amp_mailmsg_user_read,
  r1_amp_mailmsg_user_write)
Trusted boundary: none
Main exports: SameRecord, userWrite_congr, WriteEffect, userWrite_effect, readAnswer, closedErrno,
  userRead_active, userRead_gated, userRead_found
-/
import MailMsg.Driver.Safety

namespace MailMsg

/-! ### Writes -/

/-- Two records that agree up to their length: the sequence field and the payload behind the length
may differ. -/
structure SameRecord (left right : UserFrame) : Prop where
  priority : left.priority = right.priority
  type : left.type = right.type
  length : left.length = right.length
  payload : ∀ index, index < left.length.toNat → left.payloadAt index = right.payloadAt index

/-- The message of a send depends on the payload below the length only. -/
theorem sendMessage_congr {generation type sequence length : U32} {left right : Nat → U8}
    (same : ∀ index, index < length.toNat → left index = right index) :
    sendMessage generation type sequence length (some left) =
      sendMessage generation type sequence length (some right) := by
  simp only [sendMessage, Message.mk.injEq, true_and, and_true]
  funext index
  split
  · rename_i below
    simp only [Option.map_some, Option.getD_some]
    exact same index.val below
  · rfl

theorem linuxSend_congr (system : System) (priority : Priority) (type : U32) {length : U32}
    {left right : Nat → U8} (same : ∀ index, index < length.toNat → left index = right index) :
    linuxSend system priority type (some left) length =
      linuxSend system priority type (some right) length := by
  have queued : endpointEnqueue system.driver.endpoint system.hardware.shared priority
    type (some left)
      length .zero = endpointEnqueue system.driver.endpoint system.hardware.shared priority type
        (some right) length .zero := by
    simp only [endpointEnqueue, endpointPush, sendArgumentsValid, Option.isSome_some,
      sendMessage_congr same]
  simp only [linuxSend, endpointSend, queued]

/-- A write does not read the sequence field or the payload behind the length. -/
theorem userWrite_congr (system : System) (file : UserFile) (count : Nat) (copied : Bool)
    {left right : UserFrame} (same : SameRecord left right) :
    userWrite system file count copied left = userWrite system file count copied right := by
  have sent := linuxSend_congr system file.priority left.type same.payload
  simp only [userWrite, ← same.priority, ← same.type, ← same.length, sent]

/-- The committed frame of a user's record. -/
def recordFrame (generation sequence : U32) (record : UserFrame) : Frame :=
  (sendMessage generation record.type sequence record.length (some record.payloadAt)).frame

/-- Everything that a write can do to the region, with what it returns. -/
inductive WriteEffect (system : System) (file : UserFile) (count : Nat) (copied : Bool)
    (record : UserFrame) (written : Int × System) : Prop where
  /-- No byte of the region changes. -/
  | refused (value : written.1 ≠ userFrameBytes)
      (same : written.2.hardware.shared = system.hardware.shared)
  /-- The record is one committed frame at the end of its ring. -/
  | accepted (value : written.1 = userFrameBytes) (complete : count = userFrameBytes)
      (readable : copied = true) (own : record.priority = BitVec.ofNat 32 file.priority.val)
      (fits : record.length.toNat ≤ payloadBytes) (active : system.driver.mailmsgState = .active)
      (session : endpointSessionValid system.driver.endpoint system.hardware.shared = .ok)
      (space : ringNext (system.hardware.shared.linuxToCpu3 file.priority).producer ≠
        (system.hardware.shared.linuxToCpu3 file.priority).consumer)
      (published : written.2.hardware.shared = system.hardware.shared.setRing .linux file.priority
        ((system.hardware.shared.linuxToCpu3 file.priority).publish
          (recordFrame system.driver.endpoint.generation (endpointNextSequence system.driver.endpoint)
            record).committed))

/-- A send on the driver's endpoint, with the frame that it commits. -/
theorem linuxSend_published (system : System) (priority : Priority) (type : U32)
    (payload : Option (Nat → U8)) (length : U32) (bound : system.driver.endpoint.BoundBy .linux) :
    (linuxSend system priority type payload length).1.ret ≠ .ok ∨
      (endpointSessionValid system.driver.endpoint system.hardware.shared = .ok ∧
        ringNext (system.hardware.shared.linuxToCpu3 priority).producer ≠
          (system.hardware.shared.linuxToCpu3 priority).consumer ∧
        (linuxSend system priority type payload length).2.hardware.shared =
          system.hardware.shared.setRing .linux priority
            ((system.hardware.shared.linuxToCpu3 priority).publish
              (sendMessage system.driver.endpoint.generation type
                (endpointNextSequence system.driver.endpoint)
                  length payload).frame.committed)) := by
  have queueing := endpointSend_sameQueueing (fun priority system => notifyLocked system priority)
    system system.driver.endpoint system.hardware.shared priority type payload length .zero
  simp only [linuxSend, System.store]
  rw [queueing.ret, queueing.shared]
  cases endpointEnqueue_spec system.driver.endpoint system.hardware.shared priority type
    payload length
      .zero with
  | refused ret notFull sameEndpoint sameShared cause => exact .inl ret
  | pushed role hasRole session arguments push =>
      obtain rfl := bound role hasRole
      cases push with
      | full noSpace ret queueResult sameShared counted =>
          left
          rw [ret]
          decide
      | queued space ret sequence pushed published sameRole sameGeneration drawn =>
          right
          refine ⟨session, space, ?_⟩
          rw [published, (ringPush_ok pushed).2]
          rfl

/-- No ring or endpoint code becomes a positive errno. -/
theorem ringResultToErrno_le (result : Int) : ringResultToErrno result ≤ 0 := by
  unfold ringResultToErrno
  repeat' split
  all_goals decide

theorem userWrite_effect (system : System) (file : UserFile) (count : Nat) (copied : Bool)
    (record : UserFrame) (bound : system.driver.endpoint.BoundBy .linux) :
    WriteEffect system file count copied record (userWrite system file count copied record) := by
  have refused {value : Int} (low : value ≤ 0) {after : System}
      (same : after.hardware.shared = system.hardware.shared) :
      WriteEffect system file count copied record (value, after) := by
    refine .refused ?_ same
    intro accepted
    have bytes : value = 48 := accepted
    omega
  simp only [userWrite]
  split
  · exact refused (by decide) rfl
  · rename_i complete
    split
    · exact refused (by decide) rfl
    · rename_i readable
      split
      · exact refused (by decide) rfl
      · rename_i checks
        rw [not_or] at checks
        split
        · -- The gate is closed.
          apply refused _ rfl
          split
          · rename_i codes
            rcases codes with code | code | code <;> rw [code] <;> decide
          · split <;> exact ringResultToErrno_le _
        · rename_i gate
          have effect := linuxSend_effect system file.priority record.type (some record.payloadAt)
            record.length bound
          by_cases ok : (linuxSend system file.priority record.type (some record.payloadAt)
              record.length).1.ret = .ok
          · rcases linuxSend_published system file.priority record.type (some record.payloadAt)
              record.length bound with failed | ⟨session, space, published⟩
            · exact absurd ok failed
            · refine .accepted ?_ (not_not.mp complete) (not_not.mp readable) (not_not.mp checks.1)
                (Nat.le_of_not_lt checks.2)
                ((dataGateLocked_eq_zero_iff _).mp (not_not.mp gate)) session space published
              rw [if_pos ((EndpointResult.code_eq_zero_iff _).mpr ok)]
          · rw [if_neg (mt (EndpointResult.code_eq_zero_iff _).mp ok)]
            apply refused _ (effect.refused ok)
            split <;> exact ringResultToErrno_le _

/-- The step of a write is the one of its file. -/
theorem driverStep_write {system next : System} {id count : Nat} {copied : Bool}
    {record : UserFrame} {file : UserFile} (opened : system.file? id = some file)
    (stepped : driverStep system (.write id count copied record) = some next) :
    next = (userWrite system file count copied record).2 := by
  cases driverStep_kind stepped with
  | locked free locked =>
      obtain ⟨found, opened', rfl⟩ := Option.map_eq_some_iff.mp locked
      cases opened.symm.trans opened'
      rfl

/-! ### Reads -/

/-- The step of an iteration is the one of its file. -/
theorem driverStep_read {system next : System} {id : Nat} {copied : Bool} {file : UserFile}
    (opened : system.file? id = some file)
    (stepped : driverStep system (.read id copied) = some next) :
    next = (userRead system file copied).2 := by
  cases driverStep_kind stepped with
  | locked free locked =>
      obtain ⟨found, filtered, rfl⟩ := Option.map_eq_some_iff.mp locked
      obtain ⟨opened', -⟩ := Option.filter_eq_some_iff.mp filtered
      cases opened.symm.trans opened'
      rfl

/-- What an iteration of a read answers for a result of its receive. -/
def readAnswer (file : UserFile) (copied : Bool) (ret : EndpointResult) (message : Option Message) :
    ReadOutcome :=
  match ret with
  | .ring .ok =>
      if copied then .delivered (userFrameOf file.priority (message.getD .zero))
      else .returned (-Errno.fault)
  | .ring .empty => if file.nonblock then .returned (-Errno.again) else .sleeps
  | ret => .returned (ringResultToErrno ret.code)

/-- What an iteration of a read returns while the gate is closed. -/
def closedErrno : SessionState → Int
  | .active => 0
  | .starting => -Errno.again
  | .stopping => -Errno.shutdown
  | .startTimeout | .stopTimeout => -Errno.io
  | .offline | .unarmed => -Errno.nolink

/-- An iteration with the gate open answers what its receive found. -/
theorem userRead_active {system : System} (active : system.driver.mailmsgState = .active)
    (file : UserFile) (copied : Bool) :
    userRead system file copied =
      (readAnswer file copied (linuxReceive system file.priority).1.ret
          (linuxReceive system file.priority).1.message,
        (linuxReceive system file.priority).2) := by
  have gate := (dataGateLocked_eq_zero_iff system.driver).mpr active
  simp only [userRead, gate, ne_eq, not_true_eq_false, if_false]
  generalize linuxReceive system file.priority = received
  obtain ⟨⟨ret, endpoint, shared, message⟩, after⟩ := received
  -- The ring's codes, the endpoint's codes and the gate's codes do not overlap.
  cases ret with
  | ring result =>
      cases result with
      | ok =>
          cases copied with
          | false => rfl
          | true => rfl
      | empty =>
          cases blocking : file.nonblock with
          | false => simp [readAnswer, EndpointResult.code, RingResult.code,
              Errno.again, Errno.nolink, Errno.shutdown, blocking]
          | true => simp [readAnswer, EndpointResult.code, RingResult.code,
              Errno.again, Errno.nolink, Errno.shutdown, blocking]
      | full | incomplete | badCrc | invalid => rfl
  | invalid | protocolMismatch | staleSession | staleFrame => rfl

/-- An iteration with the gate closed returns at once and takes nothing. -/
theorem userRead_gated {system : System} (closed : system.driver.mailmsgState ≠ .active)
    (file : UserFile) (copied : Bool) :
    userRead system file copied =
      (.returned (closedErrno system.driver.mailmsgState), system) := by
  have gate : dataGateLocked system.driver ≠ 0 := mt (dataGateLocked_eq_zero_iff _).mp closed
  simp only [userRead, gate, ne_eq, not_false_eq_true, if_true, if_false]
  cases state : system.driver.mailmsgState with
  | active => exact absurd state closed
  | _ => simp [dataGateLocked, state, closedErrno, Errno.again, Errno.nolink, Errno.shutdown,
      Errno.timedout, RingResult.code, ringResultToErrno, EndpointResult.code]

/-- An iteration of an open session, by what it finds in the reverse ring. -/
theorem userRead_found {system : System} (active : system.driver.mailmsgState = .active)
    (session : OpenSession system) (file : UserFile) (copied : Bool) :
    ∃ ret ring message,
      Found system.driver.sessionGeneration (system.hardware.shared.cpu3ToLinux file.priority) ret ring
        message ∧
      (userRead system file copied).1 = readAnswer file copied ret message ∧
      (userRead system file copied).2.hardware.shared =
        system.hardware.shared.setRing .cpu3 file.priority ring := by
  obtain ⟨ret, ring, message, found, received⟩ :=
    linuxReceive_found file.priority session.role session.valid
  rw [session.generation] at found
  refine ⟨ret, ring, message, found, ?_, ?_⟩
  · rw [userRead_active active, received]
  · rw [userRead_active active, received]
    rfl

end MailMsg
