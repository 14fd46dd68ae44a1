/-
Module: MailMsg.Amp.Machine
Purpose: The Linux driver and the CPU3 firmware on one board, with the power state that PSCI keeps
  between them.
Source: LZAMP/linux/drivers/lzamp_amp_mailmsg.c, LZAMP/firmware/zephyr/app/src/main.c
Trusted boundary: PSCI does not answer OFF for a running core and accepts CPU_ON only for one that
  is off
Main exports: Power, Amp, AmpLabel, ampStep, ampMachine
-/
import MailMsg.Driver.Regions
import MailMsg.Firmware.Effects

namespace MailMsg

/-- The power state of CPU3.  After CPU_ON it is pending until the image runs. -/
inductive Power where
  | off
  | pending
  | on
deriving DecidableEq, Repr

/-- Linux, CPU3 and the hardware between them, which the system record carries. -/
structure Amp where
  system : System
  firmware : Firmware
  power : Power

/-- CPU3 with the shared hardware. -/
def Amp.board (amp : Amp) : Board := ⟨amp.firmware, amp.system.hardware⟩

/-- One step of Linux, the first instruction of the image, or one step of CPU3. -/
inductive AmpLabel where
  | linux (label : DriverLabel)
  | boot
  | cpu3 (label : FirmwareLabel)

/-- The PSCI CPU_ON answer that a step carries, if it may ask for one. -/
def DriverLabel.cpuOnAnswer : DriverLabel → Option Int
  | .start _ _ _ cpuOn => some cpuOn
  | _ => none

/-- The answers that PSCI can give in a power state: CPU_ON succeeds only for a core that is off,
and a running core is never reported OFF.  Between CPU_ON and the first instruction any affinity is
possible. -/
def Power.answers (power : Power) (label : DriverLabel) : Bool :=
  match power with
  | .off => true
  | .pending => label.cpuOnAnswer ≠ some 0
  | .on => label.cpuOnAnswer ≠ some 0 && label.affinityAnswer ≠ some affinityOff

/-- CPU_ON was called in this step and succeeded. -/
def System.poweredOn (before after : System) : Bool :=
  !before.driver.cpuOnAttempted && after.driver.cpuOnAttempted && after.driver.cpuOnRet == 0

/-- CPU_OFF did not return. -/
def Worker.isOff : Worker → Bool
  | .off => true
  | _ => false

/-- The transition function of the board. -/
def ampStep (amp : Amp) : AmpLabel → Option Amp
  | .linux label =>
      if label.isPeer = false ∧ amp.power.answers label then
        (driverStep amp.system label).map fun next =>
          { amp with
            system := next
            power := if amp.system.poweredOn next then .pending else amp.power }
      else none
  | .boot =>
      if amp.power = .pending then
        some { amp with firmware := .boot amp.firmware.build, power := .on }
      else none
  | .cpu3 label =>
      if amp.power = .on then
        (firmwareStep amp.board label).map fun board =>
          { system := { amp.system with hardware := board.hardware }
            firmware := board.firmware
            power := if board.firmware.worker.isOff then .off else .on }
      else none

/-- Every run since probe, with one image and over arbitrary memory and registers. -/
def ampMachine (build : Build) : Machine Amp AmpLabel where
  init amp := ∃ config image hardware jiffies,
    amp = ⟨.probed config image hardware jiffies, .boot build, .off⟩
  step := ampStep

/-- What a step of Linux is made of. -/
theorem ampStep_linux {amp next : Amp} {label : DriverLabel}
    (taken : ampStep amp (.linux label) = some next) :
    label.isPeer = false ∧ amp.power.answers label = true ∧
      ∃ system, driverStep amp.system label = some system ∧
        next =
          { amp with
            system := system
            power := if amp.system.poweredOn system then .pending else amp.power } := by
  simp only [ampStep] at taken
  split at taken
  · rename_i allowed
    obtain ⟨system, stepped, rfl⟩ := Option.map_eq_some_iff.mp taken
    exact ⟨allowed.1, allowed.2, system, stepped, rfl⟩
  · cases taken

/-- What a step of CPU3 is made of. -/
theorem ampStep_cpu3 {amp next : Amp} {label : FirmwareLabel}
    (taken : ampStep amp (.cpu3 label) = some next) :
    amp.power = .on ∧ ∃ board, firmwareStep amp.board label = some board ∧
      next =
        { system := { amp.system with hardware := board.hardware }
          firmware := board.firmware
          power := if board.firmware.worker.isOff then .off else .on } := by
  simp only [ampStep] at taken
  split at taken
  · rename_i running
    obtain ⟨board, stepped, rfl⟩ := Option.map_eq_some_iff.mp taken
    exact ⟨running, board, stepped, rfl⟩
  · cases taken

end MailMsg
