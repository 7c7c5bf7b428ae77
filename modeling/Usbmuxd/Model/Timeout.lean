import Usbmuxd.Model.Input

/-! # The ACK timer

`device_get_timeout` tells the main loop how long it may sleep before `device_check_timeouts` has an ACK
to send.
-/

namespace Usbmuxd

/-- `struct timeval` as `get_tick_count` fills it in; its milliseconds are a `long long`. -/
structure Timeval where
  sec : ℕ
  usec : ℕ
  fits : sec * 1000 + usec / 1000 < 2 ^ 63

/-- `mstime64`. -/
def mstime64 (tv : Timeval) : UInt64 := UInt64.ofNat (tv.sec * 1000 + tv.usec / 1000)

/-- One connection in the loop of `device_get_timeout`. -/
def olderAck (oldest : UInt64) (m : MuxConnection) : UInt64 :=
  if m.state = .connected ∧ m.ackPending ∧ m.lastAckTime < oldest then m.lastAckTime else oldest

/-- The two loops of `device_get_timeout`. -/
def oldestAck (s : Mux) : UInt64 :=
  s.deviceList.foldl
    (fun oldest d => if (s.dev d).state = .active then
      (s.dev d).connections.foldl (fun oldest c => (s.conn c).elim oldest (olderAck oldest)) oldest
      else oldest)
    (-1)

/-- `device_get_timeout`. -/
def deviceGetTimeout (env : Env) (s : Mux) : ℤ × Mux :=
  let oldest := oldestAck s
  let ct := (env.usb s.tick).now
  (if oldest = -1 then 100000
    else if ct - oldest > ackTimeout then 0
    else ((ackTimeout - (ct - oldest)).toNat : ℤ), s.bump)

end Usbmuxd
