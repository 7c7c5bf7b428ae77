import Usbmuxd.Soundness.Pairing

/-! # The flush of a teardown ends

The flush loop of `connection_teardown` has no bound of its own: a write that takes something starts a
new allowance of one second. Every such write shortens the buffer, and between two of them a clock that
advances from one fruitless attempt to the next uses the allowance up. What is written is the beginning
of the buffer, in order.
-/

namespace Usbmuxd

/-- How a round of the flush loop ends: the loop is left with this much of the buffer, or it goes on
with this one. -/
inductive FlushRound where
  | stop (left : Bytes)
  | again (last : UInt64) (buffer : Bytes)

/-- One round of the flush loop. -/
def flushRound (env : Env) (c : ConnPtr) (k : ClientPtr) (last : UInt64) (buffer : Bytes) (s : Daemon) :
    FlushRound × Daemon :=
  let w := clientWrite env k buffer s.clients
  let s := s.setClients w.2
  if w.1 < 0 then (.stop buffer, s)
  else if w.1 = 0 then
    let now := (env.usb s.mux.tick).now
    let s := s.setMux s.mux.bump
    (if now - last > 1000 then .stop buffer else .again last buffer, s)
  else
    let size := w.1.toNat
    let s := s.setMux (s.mux.logConn c (.flushed (buffer.take size)))
    if size = buffer.length then (.stop [], s)
    else (.again (env.usb s.mux.tick).now (buffer.drop size), s.setMux s.mux.bump)

/-- The flush loop as the source has it, without a bound on its rounds: started on this buffer in this
state, it is left with this much of the buffer in that state. -/
inductive FlushEnds (env : Env) (c : ConnPtr) (k : ClientPtr) : UInt64 → Bytes → Daemon → Bytes → Daemon → Prop
  | stop {last : UInt64} {buffer left : Bytes} {s s' : Daemon}
      (round : flushRound env c k last buffer s = (.stop left, s')) : FlushEnds env c k last buffer s left s'
  | again {last last' : UInt64} {buffer buffer' left : Bytes} {s s₁ s' : Daemon}
      (round : flushRound env c k last buffer s = (.again last' buffer', s₁))
      (rest : FlushEnds env c k last' buffer' s₁ left s') : FlushEnds env c k last buffer s left s'

/-- The socket takes nothing. -/
def ClientAnswer.idle (answer : ClientAnswer) : Prop := answer.send = .wouldBlock ∨ answer.send = .sent 0

/-- The clock of a flush that starts at these positions of the tapes, for so many rounds: it never goes
back, and it advances from one attempt that takes nothing to the next one. -/
structure Ticking (env : Env) (reading attempt rounds : ℕ) : Prop where
  onward : ∀ i < rounds, (env.usb (reading + i)).now ≤ (env.usb (reading + i + 1)).now
  advances : ∀ i < rounds, (env.sock (attempt + i)).idle → (env.sock (attempt + i + 1)).idle →
    (env.usb (reading + i + 1)).now < (env.usb (reading + i + 2)).now

private theorem Ticking.next {env : Env} {reading attempt rounds : ℕ}
    (ticking : Ticking env reading attempt (rounds + 1)) :
    Ticking env (reading + 1) (attempt + 1) rounds := by
  refine ⟨fun i inside => ?_, fun i inside => ?_⟩
  · have later := ticking.onward (i + 1) (by omega)
    rwa [← Nat.add_assoc, Nat.add_right_comm] at later
  · have later := ticking.advances (i + 1) (by omega)
    rwa [← Nat.add_assoc, ← Nat.add_assoc, Nat.add_right_comm attempt, Nat.add_right_comm reading] at later

section Round

variable (env : Env) (c : ConnPtr) (k : ClientPtr) (last : UInt64) {buffer : Bytes} (s : Daemon)

/-- What `client_write` does with a buffer that is not empty. -/
inductive WriteEffect (buffer : Bytes) (s : Clients) : ℤ × Clients → Prop
  | failed {s' : Clients} (log : s'.log k = s.log k) : WriteEffect buffer s (-1, s')
  | idle {s' : Clients} (idle : (env.sock s.tick).idle) (tick : s'.tick = s.tick + 1)
      (log : ClientLog.tunnel (s'.log k) = ClientLog.tunnel (s.log k)) : WriteEffect buffer s (0, s')
  | took {s' : Clients} {size : ℕ} (positive : 0 < size) (bound : size ≤ buffer.length) (tick : s'.tick = s.tick + 1)
      (log : ClientLog.tunnel (s'.log k) = ClientLog.tunnel (s.log k) ++ buffer.take size) :
      WriteEffect buffer s (size, s')

private theorem clientWrite_effect (waiting : buffer ≠ []) (s : Clients) :
    WriteEffect env k buffer s (clientWrite env k buffer s) := by
  have positive := List.length_pos_iff.mpr waiting
  simp only [clientWrite]
  split
  · exact .failed rfl
  split
  · exact .failed rfl
  split
  · exact .failed rfl
  · next blocks => exact .idle (.inl blocks) rfl rfl
  · next size takes =>
    have noted : ClientLog.tunnel ((s.bump.logClient k (.tunnelled (buffer.take size))).log k) =
        ClientLog.tunnel (s.log k) ++ buffer.take size := by
      simp [Clients.logClient, Clients.bump]
    rcases Nat.eq_zero_or_pos size with rfl | some
    · rw [Nat.zero_min]
      exact .idle (.inr takes) rfl (by simpa using noted)
    · refine .took (Nat.lt_min.mpr ⟨some, positive⟩) (Nat.min_le_right ..) rfl (noted.trans ?_)
      rw [← List.take_eq_take_min]

/-- What a round does to the buffer and to the client, and how it uses the tapes. -/
inductive RoundEffect (buffer : Bytes) : FlushRound × Daemon → Prop
  | failed {s' : Daemon} (log : s'.clients.log k = s.clients.log k) : RoundEffect buffer (.stop buffer, s')
  | expired {s' : Daemon} (log : ClientLog.tunnel (s'.clients.log k) = ClientLog.tunnel (s.clients.log k)) :
      RoundEffect buffer (.stop buffer, s')
  | retried {s' : Daemon} (idle : (env.sock s.clients.tick).idle) (early : (env.usb s.mux.tick).now - last ≤ 1000)
      (attempt : s'.clients.tick = s.clients.tick + 1) (reading : s'.mux.tick = s.mux.tick + 1)
      (log : ClientLog.tunnel (s'.clients.log k) = ClientLog.tunnel (s.clients.log k)) :
      RoundEffect buffer (.again last buffer, s')
  | emptied {s' : Daemon} (log : ClientLog.tunnel (s'.clients.log k) = ClientLog.tunnel (s.clients.log k) ++ buffer) :
      RoundEffect buffer (.stop [], s')
  | shortened {s' : Daemon} {size : ℕ} (positive : 0 < size) (bound : size < buffer.length)
      (attempt : s'.clients.tick = s.clients.tick + 1) (reading : s'.mux.tick = s.mux.tick + 1)
      (log : ClientLog.tunnel (s'.clients.log k) = ClientLog.tunnel (s.clients.log k) ++ buffer.take size) :
      RoundEffect buffer (.again (env.usb s.mux.tick).now (buffer.drop size), s')

private theorem flushRound_effect (waiting : buffer ≠ []) :
    RoundEffect env k last s buffer (flushRound env c k last buffer s) := by
  have effect := clientWrite_effect env k waiting s.clients
  simp only [flushRound]
  generalize clientWrite env k buffer s.clients = w at effect
  cases effect with
  | failed log => exact .failed log
  | idle idle tick log =>
    simp only [lt_irrefl, if_false, if_true]
    split
    · exact .expired log
    · next early => exact .retried idle (UInt64.not_lt.mp early) tick rfl log
  | @took _ size positive bound tick log =>
    have some : ¬((size : ℤ) < 0) := by omega
    have more : ¬((size : ℤ) = 0) := by omega
    simp only [if_neg some, if_neg more, Int.toNat_natCast]
    split
    · next all =>
      rw [all, List.take_length] at log
      exact .emptied log
    · next part => exact .shortened positive (by omega) tick rfl log

private theorem flushLoop_succ (rounds : ℕ) : flushLoop env c k (rounds + 1) last buffer s =
    match flushRound env c k last buffer s with
    | (.stop _, s') => s'
    | (.again last' buffer', s') => flushLoop env c k rounds last' buffer' s' := by
  simp only [flushLoop, flushRound]
  split
  · rfl
  split
  · split <;> rfl
  · split <;> rfl

end Round

section Loop

variable {env : Env} {c : ConnPtr} {k : ClientPtr}

private theorem FlushEnds.delivers {last : UInt64} {buffer left : Bytes} {s s' : Daemon}
    (ends : FlushEnds env c k last buffer s left s') (waiting : buffer ≠ []) :
    ∃ written, written ++ left = buffer ∧
      ClientLog.tunnel (s'.clients.log k) = ClientLog.tunnel (s.clients.log k) ++ written := by
  induction ends with
  | @stop last buffer left s s' round =>
    have effect := flushRound_effect env c k last s waiting
    rw [round] at effect
    cases effect with
    | failed log => exact ⟨[], rfl, by rw [log, List.append_nil]⟩
    | expired log => exact ⟨[], rfl, by rw [log, List.append_nil]⟩
    | emptied log => exact ⟨buffer, List.append_nil buffer, log⟩
  | @again last last' buffer buffer' left s s₁ s' round rest ih =>
    have effect := flushRound_effect env c k last s waiting
    rw [round] at effect
    cases effect with
    | retried idle early attempt reading log =>
      obtain ⟨written, whole, later⟩ := ih waiting
      exact ⟨written, whole, by rw [later, log]⟩
    | @shortened _ size positive bound attempt reading log =>
      obtain ⟨written, whole, later⟩ := ih (List.ne_nil_of_length_pos (by rw [List.length_drop]; omega))
      refine ⟨buffer.take size ++ written, ?_, by rw [later, log, List.append_assoc]⟩
      rw [List.append_assoc, whole, List.take_append_drop]

/-- The allowance: after `idle` attempts in a row that took nothing, the clock is `idle - 1` milliseconds
past the last progress, so that there are at most 1001 of them. Each byte of the buffer is good for a
new allowance. -/
private theorem flushLoop_ends (rounds idle reading : ℕ) (last : UInt64) (buffer : Bytes) (s : Daemon)
    (ticking : Ticking env reading s.clients.tick rounds) (position : s.mux.tick = reading + 1)
    (waiting : buffer ≠ []) (few : idle ≤ 1001) (enough : 1002 * buffer.length ≤ rounds + idle)
    (waited : last.toNat + (idle - 1) ≤ (env.usb reading).now.toNat)
    (recent : 0 < idle → (env.sock s.clients.tick).idle → (env.usb reading).now < (env.usb (reading + 1)).now) :
    ∃ left, FlushEnds env c k last buffer s left (flushLoop env c k rounds last buffer s) := by
  have positive := List.length_pos_iff.mpr waiting
  induction rounds generalizing idle reading last buffer s with
  | zero => omega
  | succ rounds ih =>
    have outcome := flushRound_effect env c k last s waiting
    have onward := UInt64.le_iff_toNat_le.mp (ticking.onward 0 (by omega))
    rw [Nat.add_zero] at onward
    rw [flushLoop_succ]
    rcases round : flushRound env c k last buffer s with ⟨_ | ⟨last', buffer'⟩, s₁⟩
    · exact ⟨_, .stop round⟩
    rw [round] at outcome
    cases outcome with
    | retried takesNothing early attempt read log =>
      have ticked : last.toNat + idle ≤ (env.usb (reading + 1)).now.toNat := by
        rcases Nat.eq_zero_or_pos idle with none | some
        · omega
        · have advanced := UInt64.lt_iff_toNat_lt.mp (recent some takesNothing)
          omega
      rw [position] at early
      have within : (env.usb (reading + 1)).now.toNat - last.toNat ≤ 1000 := by
        have difference := UInt64.le_iff_toNat_le.mp early
        rwa [UInt64.toNat_sub_of_le _ _ (UInt64.le_iff_toNat_le.mpr (by omega))] at difference
      have tocks := ticking.next
      rw [← attempt] at tocks
      obtain ⟨left, rest⟩ := ih (idle + 1) (reading + 1) last buffer s₁ tocks (by omega) waiting (by omega) (by omega)
        (by omega) (fun _ again => ticking.advances 0 (by omega) takesNothing (by rwa [← attempt])) positive
      exact ⟨left, .again round rest⟩
    | @shortened _ size some bound attempt read log =>
      have shorter : (buffer.drop size).length = buffer.length - size := List.length_drop
      have tocks := ticking.next
      rw [← attempt] at tocks
      obtain ⟨left, rest⟩ := ih 0 (reading + 1) (env.usb s.mux.tick).now (buffer.drop size) s₁ tocks (by omega)
        (List.ne_nil_of_length_pos (by omega)) (by omega) (by omega) (by rw [position]; omega) (by omega) (by omega)
      exact ⟨left, .again round rest⟩

end Loop

/-- The flush of a teardown ends after finitely many rounds, whatever the socket answers, and has then
written the beginning of the buffer, in order; all of it if nothing is left. -/
theorem teardown_flush_ends (env : Env) (c : ConnPtr) (k : ClientPtr) (m : MuxConnection) (s : Daemon)
    (flushes : m.events.pollout ∧ m.ibBuf ≠ [])
    (ticking : Ticking env s.mux.tick s.clients.tick (flushRounds m.ibBuf)) :
    ∃ left written, FlushEnds env c k (env.usb s.mux.tick).now m.ibBuf (s.setMux s.mux.bump) left
        (flushClient env c k m s) ∧
      written ++ left = m.ibBuf ∧
      ClientLog.tunnel ((flushClient env c k m s).clients.log k) = ClientLog.tunnel (s.clients.log k) ++ written ∧
      (left = [] → written = m.ibBuf) := by
  obtain ⟨left, ends⟩ := flushLoop_ends (c := c) (k := k) (flushRounds m.ibBuf) 0 s.mux.tick
    (env.usb s.mux.tick).now m.ibBuf (s.setMux s.mux.bump) ticking rfl flushes.2 (by omega)
    (by rw [flushRounds]; omega) (Nat.le_refl _) (by omega)
  obtain ⟨written, whole, log⟩ := ends.delivers flushes.2
  have entered : flushClient env c k m s = flushLoop env c k (flushRounds m.ibBuf) (env.usb s.mux.tick).now m.ibBuf
      (s.setMux s.mux.bump) := if_pos flushes
  rw [entered]
  refine ⟨left, written, ends, whole, log, fun nothing => ?_⟩
  rwa [nothing, List.append_nil] at whole

/-- A client that reads one byte and then no more. -/
def reluctant : Env :=
  { sessionEnv with sock := fun n => { sessionEnv.sock n with send := if n = 0 then .sent 1 else .wouldBlock } }

/-- A connection with three bytes for its client. -/
def threeWaiting : MuxConnection := { newConnection 0 0 1 62078 with ibBuf := [1, 2, 3], events := ⟨false, true⟩ }

/-- The client of the connection is connected. -/
def connectedAlone : Daemon :=
  Daemon.initial.setClients (Clients.initial.setClient 0 { newClient 5 0 with state := .connected })

private theorem reluctant_ticking : Ticking reluctant 0 0 (flushRounds threeWaiting.ibBuf) := by
  have small {n : ℕ} (bound : n < 5000) : (reluctant.usb n).now.toNat = n := by
    rw [show (reluctant.usb n).now = UInt64.ofNat n from rfl, UInt64.toNat_ofNat_of_lt' (by rw [UInt64.size]; omega)]
  have rounds : flushRounds threeWaiting.ibBuf = 4008 := rfl
  rw [rounds]
  refine ⟨fun i inside => ?_, fun i inside _ _ => ?_⟩
  · rw [UInt64.le_iff_toNat_le, small (by omega), small (by omega)]
    omega
  · rw [UInt64.lt_iff_toNat_lt, small (by omega), small (by omega)]
    omega

theorem reluctant_flush_ends :
    ∃ left written, FlushEnds reluctant 0 0 0 [1, 2, 3] (connectedAlone.setMux connectedAlone.mux.bump) left
        (flushClient reluctant 0 0 threeWaiting connectedAlone) ∧
      written ++ left = [1, 2, 3] ∧
      ClientLog.tunnel ((flushClient reluctant 0 0 threeWaiting connectedAlone).clients.log 0) = [] ++ written ∧
      (left = [] → written = [1, 2, 3]) :=
  teardown_flush_ends reluctant 0 0 threeWaiting connectedAlone (by decide) reluctant_ticking

end Usbmuxd
