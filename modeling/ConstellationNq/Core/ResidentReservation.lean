import Mathlib.Data.List.Basic
import Mathlib.Logic.Function.Basic
import Mathlib.Algebra.Order.Ring.Int

/-!
# The launch memory budget

Every thread of the process reserves bytes of one atomic counter by a loop that reads it,
adds its request and exchanges the sum for what it read. The counter is exact: it is the
sum of the live reservations whatever the interleaving, so that a drop subtracts no more
than is there.

An atomic operation is one step. A pass of the loop touches the counter only in its
exchange, so it is one step too.
-/

set_option autoImplicit false

namespace ConstellationNq.Core.Resident

/-! ## The loop -/

def maxResidentLaunchBytes : UInt64 := 512 * 1024 * 1024

/-- `IdentityError::ResidentBudgetExceeded`. -/
structure ResidentBudgetExceeded where
  requestedBytes : UInt64
  residentBytes : UInt64
deriving DecidableEq

def checkedAdd (left right : UInt64) : Option UInt64 :=
  if left.toNat + right.toNat < 2 ^ 64 then some (left + right) else none

/-- How a pass of the loop ends: with a refusal, with the exchange that writes the
counter, or with what a failed exchange read. -/
inductive Pass where
  | refused (error : ResidentBudgetExceeded)
  | exchanged (next : UInt64)
  | failed (current : UInt64)

/-- A pass of the loop in `acquire`, from the value that was read last. A weak exchange may
fail spuriously. -/
def acquirePass (counter : UInt64) (spurious : Bool) (bytes resident : UInt64) : Pass :=
  match checkedAdd resident bytes with
  | none => .refused { requestedBytes := bytes, residentBytes := resident }
  | some next =>
      if maxResidentLaunchBytes < next then .refused { requestedBytes := bytes, residentBytes := resident }
      else if counter = resident ∧ spurious = false then .exchanged next
      else .failed counter

/-! ## The process -/

/-- Where a thread is. `liveThen` are the reservations that were live when the thread read
the counter last; the code does not keep them. -/
inductive Phase where
  | idle
  | acquiring (bytes resident : UInt64) (liveThen : List UInt64)

/-- A refused acquisition, with what was live at its last read. -/
structure Refusal where
  error : ResidentBudgetExceeded
  liveThen : List UInt64
deriving DecidableEq

structure Process where
  counter : UInt64
  live : List UInt64
  threads : Nat → Phase
  refusals : List Refusal

def Process.start : Process where
  counter := 0
  live := []
  threads := fun _ => .idle
  refusals := []

def Process.setThread (process : Process) (thread : Nat) (phase : Phase) : Process :=
  { process with threads := Function.update process.threads thread phase }

@[simp] theorem Process.setThread_threads (process : Process) (thread : Nat) (phase : Phase) :
    (process.setThread thread phase).threads = Function.update process.threads thread phase := rfl

/-- A pass of a thread and what follows from it. -/
def Process.pass (process : Process) (thread : Nat) (spurious : Bool) (bytes resident : UInt64)
    (liveThen : List UInt64) : Process :=
  match acquirePass process.counter spurious bytes resident with
  | .refused error => { process.setThread thread .idle with refusals := process.refusals ++ [⟨error, liveThen⟩] }
  | .exchanged next => { process.setThread thread .idle with counter := next, live := process.live ++ [bytes] }
  | .failed current => process.setThread thread (.acquiring bytes current process.live)

inductive Step : Process → Process → Prop where
  | loads {process : Process} (thread : Nat) (bytes : UInt64) (idle : process.threads thread = .idle) :
      Step process (process.setThread thread (.acquiring bytes process.counter process.live))
  | passes {process : Process} (thread : Nat) (spurious : Bool) {bytes resident : UInt64} {liveThen : List UInt64}
      (acquiring : process.threads thread = .acquiring bytes resident liveThen) :
      Step process (process.pass thread spurious bytes resident liveThen)
  | drops {process : Process} {before after : List UInt64} {bytes : UInt64}
      (live : process.live = before ++ bytes :: after) :
      Step process { process with counter := process.counter - bytes, live := before ++ after }

/-- The states of the process under any interleaving. -/
inductive Reached : Process → Prop where
  | start : Reached .start
  | step {process next : Process} (earlier : Reached process) (taken : Step process next) : Reached next

/-! ## The budget -/

def total (reservations : List UInt64) : Nat := (reservations.map UInt64.toNat).sum

@[simp] theorem total_nil : total [] = 0 := rfl

@[simp] theorem total_append (left right : List UInt64) : total (left ++ right) = total left + total right := by
  simp [total]

@[simp] theorem total_cons (bytes : UInt64) (rest : List UInt64) : total (bytes :: rest) = bytes.toNat + total rest := by
  simp [total]

theorem checkedAdd_eq_some {left right next : UInt64} (added : checkedAdd left right = some next) :
    next.toNat = left.toNat + right.toNat := by
  unfold checkedAdd at added
  split at added
  · rename_i fits
    cases added
    rw [UInt64.toNat_add, Nat.mod_eq_of_lt fits]
  · cases added

theorem checkedAdd_eq_none {left right : UInt64} (overflows : checkedAdd left right = none) :
    2 ^ 64 ≤ left.toNat + right.toNat := by
  unfold checkedAdd at overflows
  split at overflows
  · cases overflows
  · rename_i large
    exact Nat.not_lt.mp large

/-- What the last read of a refused acquisition showed: the counter was the sum of the
reservations that were live then, and the request did not fit beside them. -/
structure Refusal.Justified (refusal : Refusal) : Prop where
  read : refusal.error.residentBytes.toNat = total refusal.liveThen
  exceeds : maxResidentLaunchBytes.toNat < total refusal.liveThen + refusal.error.requestedBytes.toNat ∨
    2 ^ 64 ≤ total refusal.liveThen + refusal.error.requestedBytes.toNat

theorem acquirePass_cases (counter : UInt64) (spurious : Bool) (bytes resident : UInt64) :
    (acquirePass counter spurious bytes resident = .refused ⟨bytes, resident⟩ ∧
      (maxResidentLaunchBytes.toNat < resident.toNat + bytes.toNat ∨ 2 ^ 64 ≤ resident.toNat + bytes.toNat)) ∨
    (∃ next, acquirePass counter spurious bytes resident = .exchanged next ∧ counter = resident ∧
      next.toNat = resident.toNat + bytes.toNat ∧ next.toNat ≤ maxResidentLaunchBytes.toNat) ∨
    acquirePass counter spurious bytes resident = .failed counter := by
  unfold acquirePass
  cases added : checkedAdd resident bytes with
  | none => exact .inl ⟨rfl, .inr (checkedAdd_eq_none added)⟩
  | some next =>
      have sum := checkedAdd_eq_some added
      by_cases above : maxResidentLaunchBytes < next
      · refine .inl ⟨if_pos above, .inl ?_⟩
        rw [← sum]
        exact UInt64.lt_iff_toNat_lt.mp above
      · have within : next.toNat ≤ maxResidentLaunchBytes.toNat := by
          rw [UInt64.lt_iff_toNat_lt] at above
          omega
        by_cases free : counter = resident ∧ spurious = false
        · exact .inr (.inl ⟨next, by simp only [if_neg above, if_pos free], free.1, sum, within⟩)
        · exact .inr (.inr (by simp only [if_neg above, if_neg free]))

/-- What every step keeps. -/
structure Process.Sound (process : Process) : Prop where
  counter : process.counter.toNat = total process.live
  limit : process.counter.toNat ≤ maxResidentLaunchBytes.toNat
  reads : ∀ thread bytes resident liveThen, process.threads thread = .acquiring bytes resident liveThen →
    resident.toNat = total liveThen
  refusals : ∀ refusal ∈ process.refusals, refusal.Justified

namespace Process.Sound

variable {process next : Process}

theorem setThread_reads (sound : process.Sound) (thread : Nat) {phase : Phase}
    (read : ∀ bytes resident liveThen, phase = .acquiring bytes resident liveThen → resident.toNat = total liveThen) :
    ∀ other bytes resident liveThen, (process.setThread thread phase).threads other = .acquiring bytes resident liveThen →
      resident.toNat = total liveThen := by
  intro other bytes resident liveThen acquiring
  by_cases same : other = thread
  · subst same
    rw [setThread_threads, Function.update_self] at acquiring
    exact read bytes resident liveThen acquiring
  · rw [setThread_threads, Function.update_of_ne same] at acquiring
    exact sound.reads other bytes resident liveThen acquiring

theorem reading (sound : process.Sound) (thread : Nat) (bytes : UInt64) :
    (process.setThread thread (.acquiring bytes process.counter process.live)).Sound where
  counter := sound.counter
  limit := sound.limit
  reads := sound.setThread_reads thread fun _ _ _ same => by
    cases same
    exact sound.counter
  refusals := sound.refusals

theorem pass (sound : process.Sound) {thread : Nat} {bytes resident : UInt64} {liveThen : List UInt64}
    (acquiring : process.threads thread = .acquiring bytes resident liveThen) (spurious : Bool) :
    (process.pass thread spurious bytes resident liveThen).Sound := by
  have read := sound.reads thread bytes resident liveThen acquiring
  have released := @setThread_reads process sound thread .idle nofun
  unfold Process.pass
  rcases acquirePass_cases process.counter spurious bytes resident with
    ⟨refused, exceeds⟩ | ⟨next, exchanged, unchanged, sum, within⟩ | failed
  · rw [refused]
    refine ⟨sound.counter, sound.limit, released, fun refusal member => ?_⟩
    rcases List.mem_append.mp member with earlier | last
    · exact sound.refusals refusal earlier
    · cases List.mem_singleton.mp last
      exact ⟨read, read ▸ exceeds⟩
  · rw [exchanged]
    refine ⟨?_, within, released, sound.refusals⟩
    rw [total_append, total_cons, total_nil, Nat.add_zero, ← sound.counter, unchanged]
    exact sum
  · rw [failed]
    exact sound.reading thread bytes

theorem le_counter (sound : process.Sound) {bytes : UInt64} (member : bytes ∈ process.live) :
    bytes.toNat ≤ process.counter.toNat := by
  obtain ⟨before, after, live⟩ := List.append_of_mem member
  rw [sound.counter, live, total_append, total_cons]
  omega

theorem toNat_sub (sound : process.Sound) {bytes : UInt64} (member : bytes ∈ process.live) :
    (process.counter - bytes).toNat = process.counter.toNat - bytes.toNat :=
  UInt64.toNat_sub_of_le _ _ (UInt64.le_iff_toNat_le.mpr (sound.le_counter member))

theorem step (sound : process.Sound) (taken : Step process next) : next.Sound := by
  cases taken with
  | loads thread bytes idle => exact sound.reading thread bytes
  | passes thread spurious acquiring => exact sound.pass acquiring spurious
  | @drops before after bytes live =>
      have member : bytes ∈ process.live := by
        rw [live]
        exact List.mem_append_right before List.mem_cons_self
      have counter := sound.counter
      rw [live, total_append, total_cons] at counter
      have left : (process.counter - bytes).toNat = total (before ++ after) := by
        rw [sound.toNat_sub member, total_append]
        omega
      refine ⟨left, ?_, sound.reads, sound.refusals⟩
      have limit := sound.limit
      have rest := sound.toNat_sub member
      change (process.counter - bytes).toNat ≤ _
      omega

end Process.Sound

theorem Reached.sound {process : Process} (reached : Reached process) : process.Sound := by
  induction reached with
  | start => exact ⟨rfl, Nat.zero_le _, nofun, nofun⟩
  | step _ taken sound => exact sound.step taken

/-- In every state of every interleaving the counter is the sum of the live reservations
and within the limit, a refused request did not fit beside what was live at its last read,
and dropping any live reservation subtracts exactly its bytes. -/
theorem residentBudget_exact {process : Process} (reached : Reached process) :
    process.counter.toNat = total process.live ∧ process.counter.toNat ≤ maxResidentLaunchBytes.toNat ∧
      (∀ refusal ∈ process.refusals, refusal.Justified) ∧
      ∀ bytes ∈ process.live, bytes.toNat ≤ process.counter.toNat ∧
        (process.counter - bytes).toNat = process.counter.toNat - bytes.toNat := by
  have sound := reached.sound
  exact ⟨sound.counter, sound.limit, sound.refusals, fun bytes member => ⟨sound.le_counter member, sound.toNat_sub member⟩⟩

/-- One thread reserves after a spurious failure, another asks for more than the limit,
and the first reservation is dropped. -/
theorem residentBudget_exact_contended :
    ∃ process, Reached process ∧ process.refusals = [⟨⟨maxResidentLaunchBytes, 7⟩, [7]⟩] ∧ process.live = [] ∧
      process.counter.toNat = total process.live := by
  have loaded := Reached.start.step (.loads 0 7 rfl)
  have retried := loaded.step (.passes 0 true rfl)
  have reserved := retried.step (.passes 0 false rfl)
  have asked := reserved.step (.loads 1 maxResidentLaunchBytes rfl)
  have refused := asked.step (.passes 1 false rfl)
  have dropped := refused.step (@Step.drops _ [] [] 7 rfl)
  exact ⟨_, dropped, rfl, rfl, (residentBudget_exact dropped).1⟩

end ConstellationNq.Core.Resident
