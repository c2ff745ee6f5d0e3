import Rckam.Library.Traces
import Rckam.Tracker.Program
import Rckam.Tracker.Requests

/-! The sessions of the tracker with pigpio: which calls are permitted after those made so far, and
what they leave when the program ends. -/
namespace Rckam.Tracker
open Outcomes Lifetimes Attempts
open Tb6612fng (Motor)

/-- What the calls so far have come to: the handle of the open SPI device, and the encoders that
`interrupt` is called with. -/
structure Session where
  initialised : Bool
  spi : Option ℤ
  alerts : ℕ → Option Motor

namespace Session

def outset : Session := ⟨false, none, fun _ => none⟩

/-- Right after `gpioInitialise`. -/
def fresh : Session := ⟨true, none, fun _ => none⟩

def setAlert (u : Session) (gpio : ℕ) (encoder : Option Motor) : Session :=
  { u with alerts := Function.update u.alerts gpio encoder }

/-- A session after one more call, if that is permitted. A device is open when it is used or
closed, and it has been closed when the session is terminated. A call of `gpioSetAlertFuncEx` that
is refused changes nothing. -/
def next (u : Session) (m : Made) : Option Session :=
  match m.query with
  | .gpioInitialise =>
      if ¬ u.initialised then some { u with initialised := m.answer.ret ≠ -1 } else none
  | .gpioTerminate =>
      if u.initialised ∧ u.spi = none then some { u with initialised := false } else none
  | .gpioSetMode _ _ | .gpioSetPullUpDown _ _ => if u.initialised then some u else none
  | .gpioSetAlertFuncEx gpio f encoder =>
      if u.initialised then
        some (if m.answer.ret = 0 then u.setAlert gpio (if f then some encoder else none) else u)
      else none
  | .spiOpen _ _ _ =>
      if u.initialised ∧ u.spi = none then
        some { u with spi := if 0 ≤ m.answer.ret then some m.answer.ret else none }
      else none
  | .spiClose spi =>
      if u.initialised ∧ u.spi = some spi then some { u with spi := none } else none
  | .request (.spiXfer spi _) => if u.initialised ∧ u.spi = some spi then some u else none
  | .request _ => if u.initialised then some u else none

/-- The session that a list of calls makes, if they are permitted. -/
def after (made : List Made) : Option Session := made.foldlM next outset

theorem after_append {made more : List Made} {u : Session} (h : after made = some u) :
    after (made ++ more) = more.foldlM next u := Traces.foldlM_append_some h

end Session

/-- The calls of a process make the session `u`. -/
def Process.In (s : Process) (u : Session) : Prop := Session.after s.made = some u

/-- The call is not one of `gpioSetAlertFuncEx` that is refused. -/
def Made.Accepted (m : Made) : Prop :=
  ∀ gpio f encoder, m.query = .gpioSetAlertFuncEx gpio f encoder → m.answer.ret = 0

/-- The call when it is not refused. -/
def Made.accepting (m : Made) : Made :=
  match m.query with
  | .gpioSetAlertFuncEx _ _ _ => { m with answer := { m.answer with ret := 0 } }
  | _ => m

/-- The calls of a process make the session `u`, except for what refused calls of
`gpioSetAlertFuncEx` have not changed. -/
def Process.Reaches (s : Process) (u : Session) : Prop :=
  ∃ v, s.In v ∧ v.initialised = u.initialised ∧ v.spi = u.spi ∧
    ((∀ m ∈ s.made, m.Accepted) → v.alerts = u.alerts)

/-- The process has made `k` calls, and they make the session `u`. -/
structure Process.At (s : Process) (k : ℕ) (u : Session) : Prop where
  length : s.made.length = k
  session : s.Reaches u

section Calls
variable {lib : Pigpio} {s : Process} {u v : Session} {k : ℕ} {q : Query}

/-- A call that changes no alerts. -/
theorem next_same {c : Prop} [Decidable c] {v' w : Session} (m : Made)
    (alerts : ℕ → Option Motor) (h : (if c then some v' else none) = some w) :
    ∃ u, (if c then some { v' with alerts := alerts } else none) = some u ∧
      u.initialised = w.initialised ∧ u.spi = w.spi ∧
        (m.Accepted → alerts = v'.alerts → u.alerts = w.alerts) := by
  obtain ⟨hc, hw⟩ := Option.ite_none_right_eq_some.mp h
  cases hw
  exact ⟨_, if_pos hc, rfl, rfl, fun _ halerts => halerts⟩

/-- Sessions that agree but for the alerts still do so after a call. -/
theorem Session.next_accepting {m : Made} {v' : Session}
    (hinitialised : v.initialised = u.initialised) (hspi : v.spi = u.spi)
    (hnext : u.next m.accepting = some v') :
    ∃ w, v.next m = some w ∧ w.initialised = v'.initialised ∧ w.spi = v'.spi ∧
      (m.Accepted → v.alerts = u.alerts → w.alerts = v'.alerts) := by
  obtain ⟨initialised, spi, alerts⟩ := u
  obtain ⟨_, _, alerts'⟩ := v
  obtain rfl : _ = initialised := hinitialised
  obtain rfl : _ = spi := hspi
  obtain ⟨q, answer⟩ := m
  cases q with
  | gpioSetAlertFuncEx gpio f encoder =>
    simp only [Session.next, Made.accepting] at hnext ⊢
    obtain ⟨hopen, hv⟩ := Option.ite_none_right_eq_some.mp hnext
    cases hv
    rw [if_pos hopen]
    refine ⟨_, rfl, ?_, ?_, ?_⟩
    · split <;> rfl
    · split <;> rfl
    · rintro haccepted rfl
      rw [if_pos (haccepted gpio f encoder rfl)]
      rfl
  | request r =>
    cases r with
    | spiXfer device buffer => exact next_same _ alerts' hnext
    | gpioWrite pin level => exact next_same _ alerts' hnext
    | gpioHardwarePWM motor freq dutycycle => exact next_same _ alerts' hnext
  | _ => exact next_same _ alerts' hnext

theorem Process.Reaches.ask (h : s.Reaches u)
    (hnext : u.next (Made.accepting ⟨q, lib s.made.length⟩) = some v) :
    (s.ask lib q).Reaches v := by
  obtain ⟨u', hin, hinitialised, hspi, halerts⟩ := h
  obtain ⟨w, hw, hinitialised', hspi', halerts'⟩ := Session.next_accepting hinitialised hspi hnext
  refine ⟨w, ?_, hinitialised', hspi', fun haccepted => ?_⟩
  · simp [In, Process.ask, Session.after_append hin, hw]
  · have hmade : ∀ m ∈ s.made ++ [⟨q, lib s.made.length⟩], m.Accepted := haccepted
    rw [List.forall_mem_append] at hmade
    exact halerts' (hmade.2 _ List.mem_cons_self) (halerts hmade.1)

theorem Process.At.ask (h : s.At k u) (hnext : u.next (Made.accepting ⟨q, lib k⟩) = some v) :
    (s.ask lib q).At (k + 1) v where
  length := by simp [Process.ask, h.length]
  session := h.session.ask (by rwa [h.length])

theorem ends_query {Q : Answer → Process → Prop} {E : Halt → Process → Prop}
    (hQ : Q (lib s.made.length) (s.ask lib q)) : Ends (query lib q) s Q E := hQ

theorem Process.At.query {E : Halt → Process → Prop} (h : s.At k u)
    (hnext : u.next (Made.accepting ⟨q, lib k⟩) = some v) :
    Ends (query lib q) s (fun answer t => answer = lib k ∧ t.At (k + 1) v) E :=
  ends_query ⟨congrArg lib h.length, h.ask hnext⟩

/-- Setting a mode: the session goes on as it is, whatever the answer. -/
theorem Process.At.setMode (h : s.At k u) (hopen : u.initialised = true) (gpio : ℕ) (mode : Mode)
    (name : String) :
    Ends (setMode lib gpio mode name) s (fun _ t => (lib k).ret = 0 ∧ t.At (k + 1) u) fun e t =>
      (lib k).ret ≠ 0 ∧ e.unwinds = true ∧ t.At (k + 1) u := by
  have hnext : u.next (Made.accepting ⟨.gpioSetMode gpio mode, lib k⟩) = some u := by
    simp [Session.next, Made.accepting, hopen]
  apply (h.query hnext).bind
  intro answer t ht
  obtain ⟨rfl, hat⟩ := ht
  by_cases hret : (lib k).ret = 0
  · rw [if_neg (by simp [hret])]
    exact ends_pure ⟨hret, hat⟩
  · rw [if_pos (Ne.symm hret)]
    exact ends_throw ⟨hret, rfl, hat⟩

theorem Process.At.connect (h : s.At k u) (hopen : u.initialised = true) (encoder : Motor)
    (gpio : ℕ) :
    Ends (Encoder.connect lib encoder gpio) s
      (fun _ t => (lib k).ret = 0 ∧ t.At (k + 3) (u.setAlert gpio (some encoder)))
      fun e t => (lib k).ret ≠ 0 ∧ e.unwinds = true ∧ t.At (k + 1) u := by
  apply (h.setMode hopen gpio .input "INPUT").bind
  intro _ t ht
  obtain ⟨hret, hat⟩ := ht
  have hpull : u.next (Made.accepting ⟨.gpioSetPullUpDown gpio .up, lib (k + 1)⟩) = some u := by
    simp [Session.next, Made.accepting, hopen]
  apply (hat.query hpull).bind
  intro _ t' ht'
  have halert : u.next (Made.accepting ⟨.gpioSetAlertFuncEx gpio true encoder, lib (k + 2)⟩) =
      some (u.setAlert gpio (some encoder)) := by simp [Session.next, Made.accepting, hopen]
  apply (ht'.2.query halert).bind
  intro _ t'' ht''
  exact ends_pure ⟨hret, ht''.2⟩

theorem Process.Reaches.disconnect (h : s.Reaches u) (hopen : u.initialised = true)
    (encoder : Motor)
    (gpio : ℕ) : (Encoder.disconnect lib encoder s gpio).Reaches (u.setAlert gpio none) := by
  apply (h.ask (v := u.setAlert gpio none) (by simp [Session.next, Made.accepting, hopen])).ask
  simp [Session.next, Made.accepting, Session.setAlert, hopen]

end Calls

/-! ### What a part of the program leaves -/

section Leaves
variable {α β : Type} {lib : Pigpio} {s : Process} {u : Session} {k : ℕ}
  {P Q : Session → Prop} {F : Halt → Prop}

/-- The calls of a process make a session of which `P` holds. -/
def Process.Left (s : Process) (P : Session → Prop) : Prop := ∃ u, s.Reaches u ∧ P u

/-- What is left by an exception, or when the program goes no further for a reason among `F`. -/
def Halted (P : Session → Prop) (F : Halt → Prop) (e : Halt) (t : Process) : Prop :=
  if e.unwinds then t.Left P else F e ∧ t.Left fun _ => True

theorem halted_thrown {e : Halt} {t : Process} (he : e.unwinds = true) (h : t.Left P) :
    Halted P F e t := by
  simpa [Halted, he] using h

theorem halted_stopped {e : Halt} {t : Process} (he : e.unwinds = false) (hF : F e)
    (h : t.Reaches u) :
    Halted P F e t := by
  simpa [Halted, he, hF] using ⟨u, h, trivial⟩

/-- A part of the program ends or throws with a session of which `P` holds, or it goes no
further. -/
def Leaves (x : Part α) (s : Process) (P : Session → Prop) (F : Halt → Prop) : Prop :=
  Ends x s (fun _ t => t.Left P) (Halted P F)

/-- What is destroyed turns a session of which `P` holds into one of which `Q` holds. -/
theorem Leaves.leaving {x : Part α} {destroy : Process → Process} (h : Leaves x s P F)
    (hdestroy : ∀ t, t.Left P → (destroy t).Left Q) :
    Leaves (leaving Halt.unwinds destroy x) s Q F := ends_leaving_of h hdestroy

/-- The modes of the H-bridge have been set, except for those of `rest`. -/
def Process.SetExcept (lib : Pigpio) (k : ℕ) (u : Session) (rest : List ℕ) (t : Process) : Prop :=
  ∃ i, rest.length + i = 6 ∧ (∀ j < i, (lib (k + j)).ret = 0) ∧ t.At (k + i) u

/-- The H-bridge, which leaves nothing. -/
theorem bridge_leaves {bridge : Tb6612fng} {body : Unit → Part α} (h : s.At k u)
    (hopen : u.initialised = true) (hfail : (∃ j < 6, (lib (k + j)).ret ≠ 0) → Q u)
    (hbody : ∀ t, (∀ j < 6, (lib (k + j)).ret = 0) → t.At (k + 6) u → Leaves (body ()) t Q F) :
    Leaves ((bridge.lifetime lib).scope Halt.unwinds body) s Q F := by
  have hconstruct : Ends (bridge.lifetime lib).construct s
      (fun _ t => Process.SetExcept lib k u [] t) (Halted Q F) := by
    refine ends_forM ?_ _ ⟨0, rfl, nofun, h⟩
    rintro gpio rest t ⟨i, hlength, hset, hat⟩
    apply (hat.setMode hopen gpio .output "OUTPUT").mono
    · rintro _ t' ⟨hret, hat'⟩
      refine ⟨i + 1, by rw [← hlength, List.length_cons]; omega, ?_, hat'⟩
      intro j hj
      by_cases hlt : j < i
      · exact hset j hlt
      · obtain rfl : j = i := by omega
        exact hret
    · rintro e t' ⟨hret, he, hat'⟩
      have hi : i < 6 := by
        rw [← hlength, List.length_cons]
        omega
      exact halted_thrown he ⟨u, hat'.session, hfail ⟨i, hi, hret⟩⟩
  apply Ends.bind hconstruct
  rintro _ t ⟨i, hi, hset, hat⟩
  obtain rfl : i = 6 := by simpa using hi
  exact (hbody t hset hat).leaving fun _ ht => ht

/-- An encoder. The first GPIO is left with its function when the second cannot be set. -/
theorem encoder_leaves {encoder : Motor} {a b : ℕ} {body : Unit → Part α} (h : s.At k u)
    (hopen : u.initialised = true) (hfirst : (lib k).ret ≠ 0 → Q u)
    (hsecond : (lib k).ret = 0 → (lib (k + 3)).ret ≠ 0 → Q (u.setAlert a (some encoder)))
    (hP : (lib k).ret = 0 → (lib (k + 3)).ret = 0 → ∀ v, P v →
      v.initialised = true ∧ Q ((v.setAlert a none).setAlert b none))
    (hbody : ∀ t, (lib k).ret = 0 → (lib (k + 3)).ret = 0 →
      t.At (k + 6) ((u.setAlert a (some encoder)).setAlert b (some encoder)) →
      Leaves (body ()) t P F) :
    Leaves ((Encoder.lifetime lib encoder [a, b]).scope Halt.unwinds body) s Q F := by
  have hconstruct : Ends (Encoder.lifetime lib encoder [a, b]).construct s
      (fun _ t => ((lib k).ret = 0 ∧ (lib (k + 3)).ret = 0) ∧
        t.At (k + 6) ((u.setAlert a (some encoder)).setAlert b (some encoder)))
      (fun e t => e.unwinds = true ∧ t.Left Q) := by
    have hstart : Ends (Encoder.connect lib encoder a) s _
        fun e t => e.unwinds = true ∧ t.Left Q :=
      (h.connect hopen encoder a).mono (fun _ _ ht => ht)
        fun e t ht => ⟨ht.2.1, u, ht.2.2.session, hfirst ht.1⟩
    apply hstart.bind
    intro _ t ht
    have hnext : Ends (Encoder.connect lib encoder b) t _
        fun e t => e.unwinds = true ∧ t.Left Q :=
      (ht.2.connect hopen encoder b).mono (fun _ _ ht' => ht')
        fun e t' ht' => ⟨ht'.2.1, _, ht'.2.2.session, hsecond ht.1 ht'.1⟩
    apply hnext.bind
    intro _ t' ht'
    exact ends_pure ⟨⟨ht.1, ht'.1⟩, ht'.2⟩
  apply Ends.bind (hconstruct.mono (fun _ _ ht => ht) fun e t ht => halted_thrown ht.1 ht.2)
  intro _ t ht
  apply (hbody t ht.1.1 ht.1.2 ht.2).leaving
  rintro t' ⟨v, hv, hPv⟩
  obtain ⟨hinitialised, hQ⟩ := hP ht.1.1 ht.1.2 v hPv
  exact ⟨_, (hv.disconnect hinitialised encoder a).disconnect hinitialised encoder b, hQ⟩

/-- The channels of the options are those of the ADC. -/
def RckamTrackerOptions.InRange (o : RckamTrackerOptions) : Prop :=
  o.switchChannel < 8 ∧ o.vrxChannel < 8 ∧ o.vryChannel < 8

/-- Why a run that does not end goes no further: it has been followed no further, or `read` has
been asked for a channel that the ADC does not have. -/
def RckamTrackerOptions.Stopped (o : RckamTrackerOptions) (e : Halt) : Prop :=
  e = .unfinished ∨ e = .assertionFailed ∧ ¬ o.InRange

/-- Requests leave a session as it is when the transfers are with its device. -/
theorem requests_session {calls : List Call} {spi : ℤ} (hopen : u.initialised = true)
    (hspi : u.spi = some spi)
    (h : ∀ c ∈ calls, ∀ device buffer, c.request = .spiXfer device buffer → device = spi) :
    (calls.map fun c => (⟨.request c.request, c.answer⟩ : Made)).foldlM Session.next u =
      some u := by
  induction calls with
  | nil => rfl
  | cons c calls ih =>
    have hnext : u.next ⟨.request c.request, c.answer⟩ = some u := by
      cases hc : c.request with
      | gpioWrite pin level => simp [Session.next, hopen]
      | gpioHardwarePWM motor freq dutycycle => simp [Session.next, hopen]
      | spiXfer device buffer =>
        have hdevice := h c List.mem_cons_self device buffer hc
        simp [Session.next, hopen, hspi, hdevice]
    have hrest := ih fun c' hc' => h c' (List.mem_cons_of_mem _ hc')
    simp [List.foldlM_cons, hnext, hrest]

/-- A request that does not transfer with another device than `spi`. -/
def Request.TransferWith (spi : ℤ) (r : Request) : Prop :=
  ∀ device buffer, r = .spiXfer device buffer → device = spi

theorem transferWith_self {spi : ℤ} {buffer : List Byte} :
    Request.TransferWith spi (.spiXfer spi buffer) := by
  rintro device buffer' ⟨⟩
  rfl

theorem permits_transferWith {c : Controller} :
    c.Permits (Request.TransferWith c.joystick.mcp3008.spi) where
  level _ _ _ := nofun
  duty _ _ _ := nofun
  transfer _ _ := transferWith_self

theorem within_run (m : Machine) (action : Pigpio → Action α) :
    (within lib m action).run s =
      match (action fun k => lib (s.made.length + k)).run { m with calls := [] } with
      | .ok v t => .ok v ⟨s.made ++ t.calls.reverse.map fun c => ⟨.request c.request, c.answer⟩⟩
      | .error e t => .error e.halt
          ⟨s.made ++ t.calls.reverse.map fun c => ⟨.request c.request, c.answer⟩⟩ := rfl

/-- A computation with the motors that uses the open device. -/
theorem ends_within {m : Machine} {action : Pigpio → Action α} {spi : ℤ} {G : α → Prop}
    {E : Thrown → Prop} (h : s.Reaches u) (hopen : u.initialised = true) (hspi : u.spi = some spi)
    (htransfers : ∀ lib, Preserves (Machine.Asked (Request.TransferWith spi)) (action lib))
    (hends : ∀ lib, Ends (action lib) { m with calls := [] } (fun v _ => G v) fun e _ => E e) :
    Ends (within lib m action) s (fun v t => t.Reaches u ∧ G v) fun e t =>
      t.Reaches u ∧ ∃ thrown, e = thrown.halt ∧ E thrown := by
  have hmade {t : Machine} (ht : t.Asked (Request.TransferWith spi)) :
      Process.Reaches
        ⟨s.made ++ t.calls.reverse.map fun c => ⟨.request c.request, c.answer⟩⟩ u := by
    obtain ⟨v, hin, hinitialised, hdevice, halerts⟩ := h
    have hrequests := requests_session (hinitialised.trans hopen) (hdevice.trans hspi)
      fun c hc => ht c (List.mem_reverse.mp hc)
    refine ⟨v, (Session.after_append hin).trans hrequests, hinitialised, hdevice, ?_⟩
    exact fun haccepted => halerts (List.forall_mem_append.mp haccepted).1
  have hkept := htransfers (fun k => lib (s.made.length + k)) { m with calls := [] } nofun
  have hresult := hends fun k => lib (s.made.length + k)
  unfold Ends at *
  rw [within_run]
  cases hrun : (action fun k => lib (s.made.length + k)).run { m with calls := [] } with
  | ok v t =>
    rw [hrun] at hkept hresult
    exact ⟨hmade hkept, hresult⟩
  | error e t =>
    rw [hrun] at hkept hresult
    exact ⟨hmade hkept, e, rfl, hresult⟩

theorem Thrown.IsGpio.unwinds {e : Thrown} (h : e.IsGpio) : e.halt.unwinds = true := by
  obtain ⟨message, rfl⟩ := h
  rfl

/-- Channels of the options are still to be read. -/
def Process.Reading (o : RckamTrackerOptions) (u : Session) (rest : List ℕ) (s : Process) : Prop :=
  (∀ channel ∈ rest, channel ∈ o.line) ∧ s.Reaches u

/-- The reads of the constructor of the joystick. -/
theorem joystick_reads {o : RckamTrackerOptions} {adc : Mcp3008} (h : s.Reaches u)
    (hopen : u.initialised = true) (hspi : u.spi = some adc.spi) :
    Ends ((List.replicate 12 o.line).flatten.forM fun channel => do
      let _ ← within lib o.motors fun lib => adc.read lib channel) s
      (fun _ t => t.Reading o u []) (Halted (fun v => v = u) o.Stopped) := by
  refine ends_forM ?_ _ ⟨?_, h⟩
  · rintro channel rest t ⟨hline, hin⟩
    have hread : Ends (within lib o.motors fun lib => adc.read lib channel) t _ _ :=
      ends_within hin hopen hspi (fun _ => asked_read adc channel fun _ => transferWith_self)
        fun _ => read_asserts adc channel
    apply Ends.bind (hread.mono (fun _ _ ht => ht) ?_)
    · rintro _ t' ⟨hin', -⟩
      exact ends_pure ⟨fun c hc => hline c (List.mem_cons_of_mem _ hc), hin'⟩
    · rintro e t' ⟨hin', thrown, rfl, hgpio | ⟨rfl, hchannel⟩⟩
      · exact halted_thrown hgpio.unwinds ⟨u, hin', rfl⟩
      · refine halted_stopped rfl (Or.inr ⟨rfl, ?_⟩) hin'
        rintro ⟨hswitch, hvrx, hvry⟩
        have hmem := hline channel List.mem_cons_self
        simp [RckamTrackerOptions.line] at hmem
        omega
  · intro channel hchannel
    obtain ⟨line, hline, hmem⟩ := List.mem_flatten.mp hchannel
    rwa [List.eq_of_mem_replicate hline] at hmem

theorem joystick_ends {o : RckamTrackerOptions} {adc : Mcp3008} (h : s.Reaches u)
    (hopen : u.initialised = true) (hspi : u.spi = some adc.spi) :
    Ends (o.joystick lib adc) s (fun joystick t => t.Reaches u ∧ joystick.mcp3008 = adc)
      (Halted (fun v => v = u) o.Stopped) := by
  apply (joystick_reads h hopen hspi).bind
  rintro _ t ⟨-, hin⟩
  by_cases hrange : o.switchChannel < 8 ∧ o.vrxChannel < 8 ∧ o.vryChannel < 8
  · rw [dif_pos hrange]
    exact ends_pure ⟨hin, rfl⟩
  · rw [dif_neg hrange]
    exact ends_throw (halted_stopped rfl (Or.inr ⟨rfl, hrange⟩) hin)

/-- A run of the controller leaves the session as it is. -/
theorem follow_leaves {o : RckamTrackerOptions} {c : Controller} {n : ℕ} (h : s.Reaches u)
    (hopen : u.initialised = true) (hspi : u.spi = some c.joystick.mcp3008.spi) :
    Leaves (c.follow lib n) s (fun v => v = u) o.Stopped := by
  have hrun : Ends (within lib c.initial fun lib => c.run lib n) s _ _ :=
    ends_within h hopen hspi (fun _ => asked_run permits_transferWith n) fun _ => run_asserts c n
  apply Ends.bind (hrun.mono (fun _ _ ht => ht) ?_)
  · rintro returned t ⟨hin, -⟩
    cases returned with
    | true => exact ends_pure ⟨u, hin, rfl⟩
    | false => exact ends_throw (halted_stopped rfl (Or.inl rfl) hin)
  · rintro e t ⟨hin, thrown, rfl, hgpio⟩
    exact halted_thrown hgpio.unwinds ⟨u, hin, rfl⟩

theorem ends_throwFormatted {format : String} {args : List String} {G : α → Process → Prop}
    {E : Halt → Process → Prop} (h : ∀ e : Halt, e.unwinds = true → E e s) :
    Ends (throwFormatted format args) s G E := by
  unfold throwFormatted
  split
  · exact ends_throw (h _ rfl)
  · exact ends_throw (h _ rfl)

/-- The device that is opened is closed. -/
theorem device_leaves {chipSelect baud flags : ℕ} {body : Mcp3008 → Part α} (h : s.Reaches u)
    (hopen : u.initialised = true) (hspi : u.spi = none)
    (hbody : ∀ adc t v, t.Reaches v → v = { u with spi := some adc.spi } →
      Leaves (body adc) t (fun w => w = v) F) :
    Leaves ((Mcp3008.lifetime lib chipSelect baud flags).scope Halt.unwinds body) s
      (fun v => v = u) F := by
  obtain ⟨initialised, spi, alerts⟩ := u
  obtain rfl : initialised = true := hopen
  obtain rfl : spi = none := hspi
  have hconstruct : Ends (Mcp3008.lifetime lib chipSelect baud flags).construct s
      (fun adc t => 0 ≤ adc.spi ∧ t.Reaches ⟨true, some adc.spi, alerts⟩)
      (Halted (fun v => v = ⟨true, none, alerts⟩) F) := by
    apply Ends.bind (Q := fun answer t => t.Reaches
      ⟨true, if 0 ≤ answer.ret then some answer.ret else none, alerts⟩)
    · exact ends_query (h.ask (by simp [Session.next, Made.accepting]; rfl))
    · intro answer t ht
      by_cases hret : 0 > answer.ret
      · rw [if_neg (by omega)] at ht
        rw [if_pos hret]
        apply Ends.bind (Q := fun _ _ => False)
        · exact ends_throwFormatted fun e he => halted_thrown he ⟨_, ht, rfl⟩
        · exact fun _ _ h => h.elim
      · rw [if_pos (by omega)] at ht
        rw [if_neg hret]
        exact ends_pure ⟨by simpa using hret, ht⟩
  apply Ends.bind hconstruct
  rintro adc t ⟨hadc, ht⟩
  apply (hbody adc t _ ht rfl).leaving
  rintro t' ⟨v, hv, rfl⟩
  show Process.Left (if 0 ≤ adc.spi then _ else _) _
  rw [if_pos hadc]
  exact ⟨_, hv.ask (by simp [Session.next, Made.accepting]), rfl⟩

end Leaves

/-! ### The program -/

namespace RckamTrackerOptions
variable (lib : Pigpio) (o : RckamTrackerOptions)

/-- The second GPIO of the encoder for panning cannot be set. -/
def PanHalf : Prop := (∀ k, 1 ≤ k → k ≤ 7 → (lib k).ret = 0) ∧ (lib 10).ret ≠ 0

/-- The second GPIO of the encoder for tilting cannot be set. -/
def TiltHalf : Prop :=
  (∀ k, 1 ≤ k → k ≤ 7 → (lib k).ret = 0) ∧ (lib 10).ret = 0 ∧ (lib 13).ret = 0 ∧ (lib 16).ret ≠ 0

/-- A GPIO that is left with its function for an encoder that is no more. -/
def Dangling (gpio : ℕ) (encoder : Motor) : Prop :=
  encoder = .a ∧ gpio = o.panA ∧ PanHalf lib ∨
    encoder = .b ∧ gpio = o.tiltA ∧ o.tiltA ≠ o.panA ∧ o.tiltA ≠ o.panB ∧ TiltHalf lib

/-- The session when the controller is no more. -/
structure Closed (u : Session) : Prop where
  initialised : u.initialised = true
  spi : u.spi = none
  alerts : ∀ gpio encoder, u.alerts gpio = some encoder ↔ o.Dangling lib gpio encoder

end RckamTrackerOptions

section Program
variable {lib : Pigpio} {o : RckamTrackerOptions} {s : Process} {u : Session}

/-- No function is left, since neither encoder has been given up half-way. -/
theorem closed_of_none (hopen : u.initialised = true) (hspi : u.spi = none)
    (halerts : ∀ gpio, u.alerts gpio = none) (hpan : ¬ RckamTrackerOptions.PanHalf lib)
    (htilt : ¬ RckamTrackerOptions.TiltHalf lib) : o.Closed lib u := by
  refine ⟨hopen, hspi, fun gpio encoder => ?_⟩
  simp [halerts, RckamTrackerOptions.Dangling, hpan, htilt]

theorem alerts_setAlert (gpio gpio' : ℕ) (encoder : Option Motor) :
    (u.setAlert gpio encoder).alerts gpio' = if gpio' = gpio then encoder else u.alerts gpio' :=
  Function.update_apply _ _ _ _

theorem closed_pan (hpan : RckamTrackerOptions.PanHalf lib)
    (htilt : ¬ RckamTrackerOptions.TiltHalf lib) :
    o.Closed lib (Session.fresh.setAlert o.panA (some .a)) := by
  refine ⟨rfl, rfl, fun gpio encoder => ?_⟩
  rw [alerts_setAlert]
  by_cases hgpio : gpio = o.panA
  · simp [RckamTrackerOptions.Dangling, hgpio, hpan, htilt, eq_comm]
  · simp [RckamTrackerOptions.Dangling, hgpio, htilt, Session.fresh]

/-- Both GPIOs of the encoder for panning. -/
def Session.panSet (o : RckamTrackerOptions) : Session :=
  (fresh.setAlert o.panA (some .a)).setAlert o.panB (some .a)

/-- What is left when the encoder for panning is destroyed. -/
def Session.panCleared (o : RckamTrackerOptions) (u : Session) : Session :=
  (u.setAlert o.panA none).setAlert o.panB none

theorem closed_tilt (hpan : ¬ RckamTrackerOptions.PanHalf lib)
    (htilt : RckamTrackerOptions.TiltHalf lib) :
    o.Closed lib (Session.panCleared o ((Session.panSet o).setAlert o.tiltA (some .b))) := by
  refine ⟨rfl, rfl, fun gpio encoder => ?_⟩
  simp only [Session.panCleared, Session.panSet, alerts_setAlert]
  by_cases htiltA : gpio = o.tiltA
  · subst htiltA
    by_cases hA : o.tiltA = o.panA
    · simp [RckamTrackerOptions.Dangling, hA, hpan]
    by_cases hB : o.tiltA = o.panB
    · simp [RckamTrackerOptions.Dangling, hB, hpan]
    simp [RckamTrackerOptions.Dangling, hA, hB, hpan, htilt, eq_comm]
  · have hother : ¬ o.Dangling lib gpio encoder := by
      simp [RckamTrackerOptions.Dangling, htiltA, hpan]
    simp only [htiltA, if_false, hother, iff_false]
    split_ifs <;> simp [Session.fresh]

/-- Both encoders are destroyed. -/
theorem alerts_cleared (gpio : ℕ) : (((((Session.panSet o).setAlert o.tiltA (some .b)).setAlert
    o.tiltB (some .b)).setAlert o.tiltA none).setAlert o.tiltB none |>.panCleared o).alerts gpio =
      none := by
  simp only [Session.panCleared, Session.panSet, alerts_setAlert]
  split_ifs <;> rfl

theorem alerts_panCleared (gpio : ℕ) : ((Session.panSet o).panCleared o).alerts gpio = none := by
  simp only [Session.panCleared, Session.panSet, alerts_setAlert]
  split_ifs <;> rfl

/-- The modes of the H-bridge, and that of the first GPIO after them. -/
theorem set_modes (hbridge : ∀ j < 6, (lib (1 + j)).ret = 0) (hfirst : (lib 7).ret = 0) (k : ℕ)
    (hlow : 1 ≤ k) (hhigh : k ≤ 7) : (lib k).ret = 0 := by
  by_cases hk : k = 7
  · rw [hk, hfirst]
  · have hmode := hbridge (k - 1) (by omega)
    rwa [Nat.add_sub_cancel' hlow] at hmode

/-- The controller and its run, from a session in which nothing has been set. -/
theorem controller_leaves {n : ℕ} (h : s.At 1 .fresh) :
    Leaves ((Controller.lifetime lib o).scope Halt.unwinds fun c =>
      (o.controller c.2.2).follow lib n) s (o.Closed lib) o.Stopped := by
  unfold Controller.lifetime PanTiltMotors.lifetime Joystick.lifetime
  simp only [Class.scope_member]
  apply bridge_leaves h rfl
  · rintro ⟨j, hj, hret⟩
    have hpan : ¬ RckamTrackerOptions.PanHalf lib := fun h => hret (h.1 _ (by omega) (by omega))
    exact closed_of_none rfl rfl (fun _ => rfl) hpan fun h => hret (h.1 _ (by omega) (by omega))
  intro t hbridge hat
  apply encoder_leaves (P := fun v => o.Closed lib (v.panCleared o)) hat rfl
  · intro hret
    have hpan : ¬ RckamTrackerOptions.PanHalf lib := fun h => hret (h.1 7 (by decide) (by decide))
    exact closed_of_none rfl rfl (fun _ => rfl) hpan fun h => hret (h.1 7 (by decide) (by decide))
  · intro hfirst hsecond
    exact closed_pan ⟨set_modes hbridge hfirst, hsecond⟩ fun h => hsecond h.2.1
  · intro _ _ v hv
    exact ⟨hv.initialised, hv⟩
  intro t' hfirst hsecond hat'
  have hpan : ¬ RckamTrackerOptions.PanHalf lib := fun h => h.2 hsecond
  apply encoder_leaves (P := fun v => v = ((Session.panSet o).setAlert o.tiltA (some .b)).setAlert
    o.tiltB (some .b)) hat' rfl
  · intro hret
    exact closed_of_none rfl rfl alerts_panCleared hpan fun h => hret h.2.2.1
  · intro hfirst' hsecond'
    exact closed_tilt hpan ⟨set_modes hbridge hfirst, hsecond, hfirst', hsecond'⟩
  · rintro hfirst' hsecond' v rfl
    exact ⟨rfl, closed_of_none rfl rfl alerts_cleared hpan fun h => h.2.2.2 hsecond'⟩
  intro t'' hfirst' hsecond' hat''
  apply device_leaves hat''.session rfl rfl
  rintro adc t3 v hv rfl
  apply (joystick_ends hv rfl rfl).bind
  rintro joystick t4 ⟨hin, rfl⟩
  apply (follow_leaves hin rfl rfl).leaving
  exact fun _ ht => ht

/-- How the program ends, and what it has made of its session. -/
theorem main_ends (n : ℕ) : Ends (main lib o n) ⟨[]⟩
    (fun code t => ∃ u, t.Reaches u ∧ u.initialised = false ∧ u.spi = none ∧
      (code = -1 ∧ (lib 0).ret = -1 ∧ t.made = [⟨.gpioInitialise, lib 0⟩] ∨
        code = 0 ∧ (lib 0).ret ≠ -1 ∧
          ∀ gpio encoder, u.alerts gpio = some encoder ↔ o.Dangling lib gpio encoder))
    fun e t => o.Stopped e ∧ ∃ u, t.Reaches u := by
  have hstart : Process.At ⟨[]⟩ 0 .outset := ⟨rfl, .outset, rfl, rfl, rfl, fun _ => rfl⟩
  have hinitialise : Ends (query lib .gpioInitialise) ⟨[]⟩ _
      fun e t => o.Stopped e ∧ ∃ u, t.Reaches u :=
    ends_query (Q := fun answer t => answer = lib 0 ∧ t = Process.ask lib .gpioInitialise ⟨[]⟩)
      ⟨rfl, rfl⟩
  apply hinitialise.bind
  rintro answer t ⟨rfl, rfl⟩
  by_cases hfailed : -1 = (lib 0).ret
  · rw [if_pos hfailed]
    refine ends_pure ⟨⟨false, none, fun _ => none⟩, ?_, rfl, rfl, Or.inl ⟨rfl, hfailed.symm, rfl⟩⟩
    exact (hstart.ask (by simp [Session.next, Made.accepting, Session.outset, ← hfailed])).session
  · rw [if_neg hfailed]
    have hat : (Process.ask lib .gpioInitialise ⟨[]⟩).At 1 .fresh :=
      hstart.ask
        (by simp [Session.next, Made.accepting, Session.outset, Session.fresh, Ne.symm hfailed])
    have hcontroller : Ends (catching Halt.unwinds () ((Controller.lifetime lib o).scope
        Halt.unwinds fun c => (o.controller c.2.2).follow lib n))
        (Process.ask lib .gpioInitialise ⟨[]⟩)
        (fun _ t => t.Left (o.Closed lib)) fun e t => o.Stopped e ∧ ∃ u, t.Reaches u := by
      apply ends_catching
      apply (controller_leaves hat).mono
      · exact fun _ _ h => h
      · intro e t h
        unfold Halted at h
        cases he : e.unwinds with
        | true => simpa [he] using h
        | false => simpa [he, Process.Left] using h
    apply hcontroller.bind
    rintro _ t ⟨u, hu, hclosed⟩
    have hnext : u.next (Made.accepting ⟨.gpioTerminate, lib t.made.length⟩) =
        some { u with initialised := false } := by
      simp [Session.next, Made.accepting, hclosed.initialised, hclosed.spi]
    apply Ends.bind (Q := fun _ t => t.Reaches { u with initialised := false })
    · exact ends_query (hu.ask hnext)
    · intro _ t' ht'
      exact ends_pure ⟨_, ht', rfl, hclosed.spi,
        Or.inr ⟨rfl, fun h => hfailed h.symm, hclosed.alerts⟩⟩

theorem Process.In.unique {t : Process} {u v : Session} (hu : t.In u) (hv : t.In v) : u = v :=
  Option.some.inj (hu.symm.trans hv)

/-- Whatever pigpio answers, `rckam-tracker` keeps to what pigpio permits, and no exception leaves
it. When it ends it has closed the device it opened and terminated the session it began, and it has
made no other call when it could not begin one. It is aborted only for a channel that the ADC does
not have. -/
theorem pigpio_session (lib : Pigpio) (o : RckamTrackerOptions) (n : ℕ) :
    Ends (main lib o n) ⟨[]⟩
      (fun code t => ∃ u, t.In u ∧ u.initialised = false ∧ u.spi = none ∧
        (code = -1 ↔ (lib 0).ret = -1) ∧
        ((lib 0).ret = -1 → t.made = [⟨.gpioInitialise, lib 0⟩]))
      fun e t => (e = .unfinished ∨ e = .assertionFailed ∧ ¬ o.InRange) ∧ ∃ u, t.In u := by
  apply (main_ends n).mono
  · rintro code t ⟨u, ⟨v, hv, hinitialised, hdevice, -⟩, hclosed, hspi, hcode⟩
    refine ⟨v, hv, hinitialised.trans hclosed, hdevice.trans hspi, ?_⟩
    rcases hcode with ⟨rfl, hret, hmade⟩ | ⟨rfl, hret, -⟩
    · exact ⟨by simp [hret], fun _ => hmade⟩
    · exact ⟨by simp [hret], fun h => absurd h hret⟩
  · rintro e t ⟨hstopped, u, v, hv, -⟩
    exact ⟨hstopped, v, hv⟩

/-- The GPIOs that are left with `interrupt` and an encoder that is no more, when the program ends
and pigpio has refused no call of `gpioSetAlertFuncEx`: the first GPIO of an encoder whose second
could not be set, unless the encoder for panning took the function away again. -/
theorem alerts_left (lib : Pigpio) (o : RckamTrackerOptions) (n : ℕ) :
    Ends (main lib o n) ⟨[]⟩
      (fun _ t => (∀ m ∈ t.made, m.Accepted) →
        ∀ gpio encoder, (∃ u, t.In u ∧ u.alerts gpio = some encoder) ↔
          (lib 0).ret ≠ -1 ∧
            (encoder = .a ∧ gpio = o.panA ∧ RckamTrackerOptions.PanHalf lib ∨
              encoder = .b ∧ gpio = o.tiltA ∧ o.tiltA ≠ o.panA ∧ o.tiltA ≠ o.panB ∧
                RckamTrackerOptions.TiltHalf lib))
      fun _ _ => True := by
  apply (main_ends n).mono
  · rintro code t ⟨u, ⟨v, hv, -, -, halerts⟩, -, -, hcode⟩ haccepted gpio encoder
    have hsession : (∃ w, t.In w ∧ w.alerts gpio = some encoder) ↔
        u.alerts gpio = some encoder := by
      rw [← halerts haccepted]
      exact ⟨fun ⟨w, hw, halert⟩ => hv.unique hw ▸ halert, fun halert => ⟨v, hv, halert⟩⟩
    rw [hsession]
    rcases hcode with ⟨-, hret, hmade⟩ | ⟨-, hret, hleft⟩
    · have hfailed : t.In ⟨false, none, fun _ => none⟩ := by
        simp [Process.In, hmade, Session.after, Session.next, Session.outset, hret]
      rw [← halerts haccepted, hv.unique hfailed]
      simp [hret]
    · rw [hleft]
      simp [hret, RckamTrackerOptions.Dangling]
  · exact fun _ _ _ => trivial

end Program

end Rckam.Tracker
