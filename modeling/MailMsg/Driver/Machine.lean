/-
Module: MailMsg.Driver.Machine
Purpose: Every entry point of the Linux driver as one labelled machine, with the clock and CPU3's
  writes as further steps.
Source: LZAMP/linux/drivers/lzamp_amp_mailmsg.c
Trusted boundary: one critical section is one step, except for the loops of control_work and
  mailmsg_response_show, whose iterations are steps; work items may run at any time
Main exports: PeerWrite, DriverLabel, driverStep, driverMachine
-/
import MailMsg.Driver.User
import MailMsg.Lib.Transition

namespace MailMsg

/-! ### The machine -/

/-- What CPU3 can write: slots and producer indices of the reverse rings, consumer indices of the
forward rings, and the doorbell registers.  Any value is possible. -/
inductive PeerWrite where
  | slot (priority : Priority) (index : U32) (message : Message)
  | producer (priority : Priority) (value : U32)
  | consumer (priority : Priority) (value : U32)
  | acknowledge (channel : Priority)
  | doorbell (channel : Priority) (command data : U32)

/-- Replace a ring of one direction by what `change` makes of it. -/
def Shared.updateRing (shared : Shared) (sender : Role) (priority : Priority)
    (change : Ring → Ring) : Shared :=
  shared.setRing sender priority (change (shared.ring sender priority))

/-- The shared hardware after a write by CPU3. -/
def PeerWrite.apply (write : PeerWrite) (hardware : Hardware) : Hardware :=
  match write with
  | .slot priority index message =>
      { hardware with
        shared := hardware.shared.updateRing .cpu3 priority fun ring =>
          { ring with slot := Function.update ring.slot index message } }
  | .producer priority value =>
      { hardware with
        shared := hardware.shared.updateRing .cpu3 priority fun ring =>
          { ring with producer := value } }
  | .consumer priority value =>
      { hardware with
        shared := hardware.shared.updateRing .linux priority fun ring =>
          { ring with consumer := value } }
  | .acknowledge channel => { hardware with a2b := hardware.a2b.acknowledge channel }
  | .doorbell channel command data =>
      { hardware with b2a := hardware.b2a.write channel command data }

/-- The slot that a write leaves in a reverse ring. -/
def PeerWrite.frames : PeerWrite → List (Priority × Message)
  | .slot priority _ message => [(priority, message)]
  | _ => []

/-- The work items of the driver. -/
inductive WorkItem where
  | affinity
  | control
  | lifecycleTimeout
deriving DecidableEq

/-- One step.  The arguments carry what the environment decides: PSCI answers, user data, accepted
texts, the numbers in a text, and whether user memory can be accessed. -/
inductive DriverLabel where
  | tick (elapsed : Nat)
  | peer (write : PeerWrite)
  | b2aAcknowledge (channel : Priority)
  | rxCallback (channel : Priority) (message : Option (U32 × U32))
  | dequeue (item : WorkItem)
  | affinityWork (affinity : Int)
  | lifecycleTimeoutWork (affinity : Int)
  | controlEnter
  | controlIterate
  | affinityState (affinity : Int)
  | imageWrite (offset count : Nat) (bytes : Nat → U8)
  | start (accepted : Bool) (count : Nat) (affinity cpuOn : Int)
  | rearm (accepted : Bool) (count : Nat) (affinity : Int)
  | stop (accepted : Bool) (count : Nat)
  | openFile (priority : Priority) (nonblock : Bool)
  | release (id : Nat)
  /-- The claim that a read and a poll begin with. -/
  | claim (id : Nat)
  /-- One iteration of a read whose claim succeeded. -/
  | read (id : Nat) (copied : Bool)
  | write (id : Nat) (count : Nat) (copied : Bool) (frame : UserFrame)
  | mailmsgPing (numbers : Option (U32 × U32)) (count : Nat) (corrupt : Bool)
  | queuePush (numbers : Option (U32 × U32)) (count : Nat)
  | notifyInject (text : InjectText) (count : Nat)
  | doorbell (numbers : Option (U32 × U32)) (count : Nat)
  | ping (value : U32) (count : Nat)
  | responseEnter
  | responseIterate
  /-- A poll whose claim succeeded. -/
  | poll (id : Nat)
  | mailmsgStats
  | status

/-- A write of CPU3; every other step is one of Linux. -/
def DriverLabel.isPeer : DriverLabel → Bool
  | .peer _ => true
  | _ => false

/-- A work item leaves the queue; it runs at some later time. -/
def dequeue (driver : Driver) : WorkItem → Driver
  | .affinity => { driver with affinityQueued := false }
  | .control => { driver with controlQueued := false }
  | .lifecycleTimeout => { driver with lifecycleTimeoutQueued := false }

/-- The operations that take the mutex, from a state in which it is free. -/
def lockedStep (system : System) : DriverLabel → Option System
  | .affinityWork affinity => some (affinityWork system affinity)
  | .lifecycleTimeoutWork affinity => some (lifecycleTimeoutWork system affinity)
  | .controlEnter => some (controlEnter system)
  | .affinityState affinity => some (affinityStateShow system affinity).2
  | .imageWrite offset count bytes => some (imageWrite system offset count bytes).2
  | .start accepted count affinity cpuOn => some (startStore system accepted count affinity cpuOn).2
  | .rearm accepted count affinity => some (rearmStore system accepted count affinity).2
  | .stop accepted count => some (stopStore system accepted count).2
  | .openFile priority nonblock => some (userOpen system priority nonblock).2
  | .release id => (system.file? id).map fun file => userRelease system file
  | .claim id => (system.file? id).map fun file => (userClaimReader system file).2
  | .read id copied =>
      ((system.file? id).filter fun file => file.readerClaimed).map fun file =>
        (userRead system file copied).2
  | .write id count copied frame =>
      (system.file? id).map fun file => (userWrite system file count copied frame).2
  | .mailmsgPing numbers count corrupt => some (sendPing system numbers count corrupt).2
  | .queuePush numbers count => some (queuePushStore system numbers count).2
  | .notifyInject text count => some (notifyInjectStore system text count).2
  | .doorbell numbers count => some (doorbellStore system numbers count).2
  | .ping value count => some (pingStore system value count).2
  | .responseEnter => some (responseEnter system)
  | .poll id =>
      -- The mask is `userPoll system file`; nothing is written.
      ((system.file? id).filter fun file => file.readerClaimed).map fun _ => system
  | .mailmsgStats => some (mailmsgStatsShow system).2
  | .status => some (statusShow system).2
  | _ => none

/-- The driver's transition function. -/
def driverStep (system : System) : DriverLabel → Option System
  | .tick elapsed => some { system with jiffies := system.jiffies + elapsed }
  | .peer write =>
      some
        { system with
          hardware := write.apply system.hardware
          peerWrites := system.peerWrites ++ write.frames }
  | .b2aAcknowledge channel =>
      some
        { system with
          hardware := { system.hardware with b2a := system.hardware.b2a.acknowledge channel } }
  | .rxCallback channel message => some (rxCallback system channel message)
  | .dequeue item => some { system with driver := dequeue system.driver item }
  | .controlIterate => if system.lock = .control then some (controlIterate system) else none
  | .responseIterate =>
      match system.lock with
      | .response priority lines => some (responseIterate system priority lines)
      | _ => none
  | label => if system.lock = .free then lockedStep system label else none

/-- How a step relates to the mutex: it does not take it, it continues the loop that holds it, or it
takes and releases it. -/
inductive StepKind (system : System) : DriverLabel → System → Prop where
  | tick (elapsed : Nat) :
      StepKind system (.tick elapsed) { system with jiffies := system.jiffies + elapsed }
  | peer (write : PeerWrite) :
      StepKind system (.peer write)
        { system with
          hardware := write.apply system.hardware
          peerWrites := system.peerWrites ++ write.frames }
  | b2aAcknowledge (channel : Priority) :
      StepKind system (.b2aAcknowledge channel)
        { system with
          hardware := { system.hardware with b2a := system.hardware.b2a.acknowledge channel } }
  | rxCallback (channel : Priority) (message : Option (U32 × U32)) :
      StepKind system (.rxCallback channel message) (rxCallback system channel message)
  | dequeue (item : WorkItem) :
      StepKind system (.dequeue item) { system with driver := dequeue system.driver item }
  | control (held : system.lock = .control) :
      StepKind system .controlIterate (controlIterate system)
  | response (priority : Priority) (lines : List ResponseLine)
      (held : system.lock = .response priority lines) :
      StepKind system .responseIterate (responseIterate system priority lines)
  | locked {label : DriverLabel} {next : System} (free : system.lock = .free)
      (taken : lockedStep system label = some next) : StepKind system label next

theorem driverStep_kind {system next : System} {label : DriverLabel}
    (taken : driverStep system label = some next) : StepKind system label next := by
  cases label with
  | tick elapsed =>
      cases taken
      exact .tick elapsed
  | peer write =>
      cases taken
      exact .peer write
  | b2aAcknowledge channel =>
      cases taken
      exact .b2aAcknowledge channel
  | rxCallback channel message =>
      cases taken
      exact .rxCallback channel message
  | dequeue item =>
      cases taken
      exact .dequeue item
  | controlIterate =>
      simp only [driverStep] at taken
      split at taken
      · rename_i held
        cases taken
        exact .control held
      · cases taken
  | responseIterate =>
      simp only [driverStep] at taken
      split at taken
      · rename_i held
        cases taken
        exact .response _ _ held
      · cases taken
  | _ =>
      simp only [driverStep] at taken
      split at taken
      · rename_i free
        exact .locked free taken
      · cases taken

/-- The system after probe, over arbitrary memory and mailbox registers. -/
def System.probed (config : Config) (image : Nat → U8) (hardware : Hardware) (jiffies : Nat) :
    System where
  config := config
  driver := .probed image
  hardware := hardware
  jiffies := jiffies
  lock := .free
  files := []
  nextFile := 0
  epoch := 0
  peerWrites := []

/-- Every run of the driver since probe. -/
def driverMachine : Machine System DriverLabel where
  init system := ∃ config image hardware jiffies, system = .probed config image hardware jiffies
  step := driverStep

end MailMsg
