import Rckam.Tracker.Program
import Rckam.Tracker.Requests

/-! The calls of pigpio that the tracker ever makes: every GPIO of its options in its own role, and
the motors at the duties that a run asks for. -/
namespace Rckam.Tracker
open Outcomes Lifetimes
open Tb6612fng (Motor)

namespace RckamTrackerOptions
variable (o : RckamTrackerOptions)

/-- The GPIOs of the encoder of a motor. -/
def channels : Motor → List ℕ
  | .a => [o.panA, o.panB]
  | .b => [o.tiltA, o.tiltB]

/-- The calls that agree with the options. -/
def Asks : Query → Prop
  | .gpioInitialise | .gpioTerminate | .spiClose _ => True
  | .gpioSetMode gpio .output => gpio ∈ o.bridge.outputs
  | .gpioSetMode gpio .input | .gpioSetPullUpDown gpio _ => ∃ encoder, gpio ∈ o.channels encoder
  | .gpioSetAlertFuncEx gpio _ encoder => gpio ∈ o.channels encoder
  | .spiOpen chipSelect baud flags => chipSelect = 0 ∧ baud = 100000 ∧ flags = 0
  | .request (.gpioWrite _ level) => level ≤ 1
  | .request (.gpioHardwarePWM _ freq dutycycle) =>
      freq = o.bridge.freq ∧ ∃ duty, RunDuty duty ∧ dutycycle = duty * 10000
  | .request (.spiXfer _ buffer) => ∃ channel < 8, buffer = channelBuffer channel

end RckamTrackerOptions

/-- All calls so far agree with the options. -/
def Process.Asked (o : RckamTrackerOptions) (s : Process) : Prop := ∀ m ∈ s.made, o.Asks m.query

section Parts
variable {lib : Pigpio} {o : RckamTrackerOptions} {s : Process} {q : Query}

theorem Process.Asked.ask (hs : s.Asked o) (hq : o.Asks q) : (s.ask lib q).Asked o := by
  intro m hm
  rcases List.mem_append.mp hm with hm | hm
  · exact hs m hm
  · obtain rfl := List.mem_singleton.mp hm
    exact hq

theorem asked_query (hq : o.Asks q) : Preserves (Process.Asked o) (query lib q) :=
  fun _ hs => hs.ask hq

/-- A computation with the motors whose requests agree with the options. -/
theorem asked_within {α : Type} {m : Machine} {action : Pigpio → Action α}
    (haction : ∀ lib, Preserves (Machine.Asked fun r => o.Asks (.request r)) (action lib)) :
    Preserves (Process.Asked o) (within lib m action) := by
  intro s hs
  have hmade {t : Machine} (ht : t.Asked fun r => o.Asks (.request r)) : Process.Asked o
      ⟨s.made ++ t.calls.reverse.map fun c => ⟨.request c.request, c.answer⟩⟩ := by
    intro made hmem
    rcases List.mem_append.mp hmem with hmem | hmem
    · exact hs made hmem
    · obtain ⟨c, hc, rfl⟩ := List.mem_map.mp hmem
      exact ht c (List.mem_reverse.mp hc)
  have hends := haction (fun k => lib (s.made.length + k)) { m with calls := [] } nofun
  unfold Ends EStateM.run at hends ⊢
  unfold within
  cases hrun : action (fun k => lib (s.made.length + k)) { m with calls := [] } with
  | ok v t =>
    rw [hrun] at hends
    simpa [EStateM.run, hrun] using hmade hends
  | error e t =>
    rw [hrun] at hends
    simpa [EStateM.run, hrun] using hmade hends

theorem asked_setMode {gpio : ℕ} {mode : Mode} (name : String)
    (hmode : o.Asks (.gpioSetMode gpio mode)) :
    Preserves (Process.Asked o) (setMode lib gpio mode name) := by
  apply (asked_query hmode).bind
  intro answer
  exact (preserves_throw _).ite (preserves_pure ())

theorem asked_disconnect {encoder : Motor} {gpios : List ℕ}
    (hgpios : ∀ gpio ∈ gpios, gpio ∈ o.channels encoder) (hs : s.Asked o) :
    (gpios.foldl (Encoder.disconnect lib encoder) s).Asked o := by
  induction gpios generalizing s with
  | nil => exact hs
  | cons gpio gpios ih =>
    have hchannel := hgpios gpio List.mem_cons_self
    have hpull : o.Asks (.gpioSetPullUpDown gpio .off) := ⟨encoder, hchannel⟩
    apply ih fun gpio' hgpio' => hgpios gpio' (List.mem_cons_of_mem gpio hgpio')
    exact (hs.ask (q := .gpioSetAlertFuncEx gpio false encoder) hchannel).ask hpull

variable {α : Type}

theorem asked_encoder {encoder : Motor} {gpios : List ℕ} {body : Unit → Part α}
    (hgpios : ∀ gpio ∈ gpios, gpio ∈ o.channels encoder)
    (hbody : ∀ u, Preserves (Process.Asked o) (body u)) : Preserves (Process.Asked o)
      ((Encoder.lifetime lib encoder gpios).scope Halt.unwinds body) := by
  apply Class.preserves_scope _ hbody fun _ _ => asked_disconnect hgpios
  apply preserves_forM
  intro gpio hgpio
  have hchannel := hgpios gpio hgpio
  have hmode : o.Asks (.gpioSetMode gpio .input) := ⟨encoder, hchannel⟩
  have hpull : o.Asks (.gpioSetPullUpDown gpio .up) := ⟨encoder, hchannel⟩
  apply (asked_setMode "INPUT" hmode).bind
  intro _
  apply (asked_query hpull).bind
  intro _
  apply (asked_query (q := .gpioSetAlertFuncEx gpio true encoder) hchannel).bind
  intro _
  exact preserves_pure _

theorem asked_bridge {body : Unit → Part α} (hbody : ∀ u, Preserves (Process.Asked o) (body u)) :
    Preserves (Process.Asked o) ((o.bridge.lifetime lib).scope Halt.unwinds body) := by
  apply Class.preserves_scope _ hbody fun _ _ ht => ht
  apply preserves_forM
  intro gpio hgpio
  exact asked_setMode "OUTPUT" hgpio

theorem asked_device {body : Mcp3008 → Part α}
    (hbody : ∀ adc, Preserves (Process.Asked o) (body adc)) : Preserves (Process.Asked o)
      ((Mcp3008.lifetime lib 0 100000 0).scope Halt.unwinds body) := by
  apply Class.preserves_scope _ hbody
  · intro adc t ht
    show (if 0 ≤ adc.spi then t.ask lib (.spiClose adc.spi) else t).Asked o
    split
    · exact ht.ask trivial
    · exact ht
  · have hopen : o.Asks (.spiOpen 0 100000 0) := ⟨rfl, rfl, rfl⟩
    have hthrow (format : String) (args : List String) :
        Preserves (Process.Asked o) (throwFormatted format args : Part Unit) := by
      unfold throwFormatted
      split
      · exact preserves_throw _
      · exact preserves_throw _
    apply (asked_query hopen).bind
    intro answer
    exact ((hthrow _ _).bind fun _ => preserves_pure _).ite (preserves_pure _)

theorem asked_reads (adc : Mcp3008) : Preserves (Process.Asked o) (o.joystick lib adc) := by
  apply Preserves.bind
  · apply preserves_forM
    intro channel _
    apply Preserves.bind (asked_within fun _ => asked_read adc channel fun hchannel =>
      ⟨channel, hchannel, rfl⟩)
    intro _
    exact preserves_pure _
  · intro _
    split
    · exact preserves_pure _
    · exact preserves_throw _

theorem asked_controller (joystick : Joystick) (n : ℕ) :
    Preserves (Process.Asked o) ((o.controller joystick).follow lib n) := by
  have hpermits : (o.controller joystick).Permits fun r => o.Asks (.request r) :=
    ⟨fun _ _ h => h, fun _ duty h => ⟨rfl, duty, h, rfl⟩, fun channel h => ⟨channel, h, rfl⟩⟩
  apply Preserves.bind (asked_within fun _ => asked_run hpermits n)
  intro returned
  exact (preserves_throw _).ite (preserves_pure _)

end Parts

/-- Whatever pigpio answers, the tracker sets the outputs of the H-bridge to output and no other
GPIO, uses those of an encoder only as that, reads the channels that the ADC has, and asks for PWM
at the frequency of its options and at the duties of a run. -/
theorem asks_in_role (lib : Pigpio) (o : RckamTrackerOptions) (n : ℕ) :
    (outcome (main lib o n) ⟨[]⟩).2.Asked o := by
  have hmain : Preserves (Process.Asked o) (main lib o n) := by
    apply (asked_query (q := .gpioInitialise) trivial).bind
    intro answer
    apply (preserves_pure _).ite
    apply Preserves.bind
    · apply preserves_catching
      simp only [Controller.lifetime, PanTiltMotors.lifetime, Joystick.lifetime,
        Class.scope_member]
      apply asked_bridge
      intro _
      apply asked_encoder (fun _ h => h)
      intro _
      apply asked_encoder (fun _ h => h)
      intro _
      apply asked_device
      intro adc
      apply Class.preserves_scope (asked_reads adc) _ fun _ _ ht => ht
      intro joystick
      exact asked_controller _ n
    · intro _
      apply (asked_query (q := .gpioTerminate) trivial).bind
      intro _
      exact preserves_pure _
  exact Ends.outcome (P := fun r => Process.Asked o r.2) (hmain ⟨[]⟩ nofun)

end Rckam.Tracker
