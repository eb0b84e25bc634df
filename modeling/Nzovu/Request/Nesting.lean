import Nzovu.Request.Schedule

/-!
# How deeply requests are nested

Around a payload, a request adds a fixed number of messages. All else in it is nested less than any
parser allows.
-/

namespace Nzovu
open Proto

theorem messageSlot_nesting (m : Message) : (messageSlot m).nesting = 1 + m.nesting := rfl

theorem durationSlot_nesting (d : Nat × Nat) : (durationSlot d).nesting = 1 := rfl

section Shallow
variable {pb : Protobuf} {unicode : Unicode}

theorem textSlot_nesting {s : Str} {slot : Slot} (built : textSlot s = .ok slot) :
    slot.nesting = 0 := by
  rw [textSlot_kept built]
  rfl

theorem int32Slot_nesting {n : Int} {slot : Slot} (built : int32Slot n = .ok slot) :
    slot.nesting = 0 := by
  rw [int32Slot_kept built]
  rfl

theorem int64Slot_nesting {n : Int} {slot : Slot} (built : int64Slot n = .ok slot) :
    slot.nesting = 0 := by
  rw [int64Slot_kept built]
  rfl

theorem enumSlot_nesting {e : EnumDescriptor} {state : StateOption} {slot : Slot}
    (built : enumSlot e state = .ok slot) : slot.nesting = 0 := by
  obtain ⟨n, rfl⟩ := enumSlot_kept built
  rfl

theorem leaseSlot_nesting {duration : Option Str} {slot : Slot}
    (built : leaseSlot unicode duration = .ok slot) : slot.nesting ≤ 1 := by
  cases duration with
  | none =>
      cases built
      exact Nat.zero_le 1
  | some s =>
      obtain ⟨d, -, built⟩ := bind_eq_ok.1 built
      cases built
      exact (durationSlot_nesting d).le

theorem policySlot_nesting {duration : Option Str} {slot : Slot}
    (built : policySlot unicode duration = .ok slot) : slot.nesting ≤ 1 := by
  rcases duration with - | - | ⟨c, s⟩
  · cases built
    exact Nat.zero_le 1
  · cases built
    exact Nat.zero_le 1
  · exact leaseSlot_nesting (show leaseSlot unicode (some (c :: s)) = .ok slot from built)

theorem maxRenewalsSlot_nesting {n : Option Int} {slot : Slot}
    (built : maxRenewalsSlot n = .ok slot) : slot.nesting = 0 := by
  cases n with
  | none =>
      cases built
      rfl
  | some n =>
      obtain ⟨-, -, built⟩ := bind_eq_ok.1 built
      exact int32Slot_nesting built

theorem buildLeasePolicy_nesting {opts : Option LeasePolicyOptions} {policy : Option Message}
    (built : buildLeasePolicy unicode opts = .ok policy) :
    ((policy.map messageSlot).getD .absent).nesting ≤ 2 := by
  cases opts with
  | none =>
      cases built
      exact Nat.zero_le 2
  | some opts =>
      rw [buildLeasePolicy] at built
      split at built
      · cases built
        exact Nat.zero_le 2
      · obtain ⟨baseLease, base, built⟩ := bind_eq_ok.1 built
        obtain ⟨maxExtension, extension, built⟩ := bind_eq_ok.1 built
        obtain ⟨heartbeatTimeout, timeout, built⟩ := bind_eq_ok.1 built
        obtain ⟨extendStep, extend, built⟩ := bind_eq_ok.1 built
        obtain ⟨maxRenewals, renewals, built⟩ := bind_eq_ok.1 built
        cases built
        have base := policySlot_nesting base
        have extension := policySlot_nesting extension
        have timeout := policySlot_nesting timeout
        have extend := policySlot_nesting extend
        have renewals := maxRenewalsSlot_nesting renewals
        simp only [Option.map_some, Option.getD_some, messageSlot_nesting, Message.nesting,
          slotsNesting]
        omega

theorem scheduledSlot_nesting {scheduledTime : Option Str} {slot : Slot}
    (built : scheduledSlot pb scheduledTime = .ok slot) : slot.nesting ≤ 1 := by
  cases scheduledTime with
  | none =>
      cases built
      exact Nat.zero_le 1
  | some s =>
      obtain ⟨t, -, built⟩ := bind_eq_ok.1 built
      cases built
      exact Nat.le_refl 1

theorem maxMessagesSlots_nesting {n : Option Int} {slots : Slot × Slot}
    (built : maxMessagesSlots n = .ok slots) : slots.1.nesting = 0 ∧ slots.2.nesting = 0 := by
  cases n with
  | none =>
      cases built
      exact ⟨rfl, rfl⟩
  | some n =>
      obtain ⟨slot, stored, built⟩ := bind_eq_ok.1 built
      cases built
      exact ⟨rfl, int64Slot_nesting stored⟩

theorem headers_nesting (headers : List (Str × List UInt8)) :
    (Slot.repeated (headers.map fun header => .message (headerMessage header))).nesting ≤ 1 := by
  rw [Slot.nesting]
  induction headers with
  | nil => exact Nat.zero_le 1
  | cons header headers ih =>
      rw [List.map_cons, contentsNesting]
      exact max_le (Nat.le_refl 1) ih

end Shallow

section Requests
variable {pb : Protobuf} {unicode : Unicode}

theorem scheduleConfig_nesting {options : ScheduleOptions} {config : Slot × Slot}
    (built : scheduleConfig pb options = .ok config) : config.1.nesting = 0 := by
  rw [scheduleConfig] at built
  split at built
  · obtain ⟨cron, stored, built⟩ := bind_eq_ok.1 built
    cases built
    exact textSlot_nesting stored
  · obtain ⟨calendar, -, built⟩ := bind_eq_ok.1 built
    cases built
    rfl

theorem metadataMessage_nesting (options : PostMessageOptions) (payload : Message)
    {state leaseDuration maxAttempts : Slot} {policy : Option Message} {scheduledTime : Slot}
    (headers : List (Str × List UInt8)) (shallow : state.nesting = 0)
    (lease : leaseDuration.nesting ≤ 1) (attempts : maxAttempts.nesting = 0)
    (policed : ((policy.map messageSlot).getD .absent).nesting ≤ 2)
    (scheduled : scheduledTime.nesting ≤ 1) :
    1 + payload.nesting ≤ (metadataMessage options payload state leaseDuration maxAttempts policy
        scheduledTime headers).nesting ∧
      (metadataMessage options payload state leaseDuration maxAttempts policy scheduledTime
        headers).nesting ≤ max (1 + payload.nesting) 2 := by
  have headed := headers_nesting headers
  have zero : zeroSlot.nesting = 0 := rfl
  have number : (Slot.single (.scalar (.int options.priority))).nesting = 0 := rfl
  have absent : Slot.absent.nesting = 0 := rfl
  simp only [metadataMessage, Message.nesting, slotsNesting, messageSlot_nesting, zero, number,
    absent]
  omega

theorem scheduleMetadataMessage_nesting (options : ScheduleOptions) (payload : Message)
    {config : Slot × Slot} {queueName : Slot} {maxMessages : Slot × Slot} {leaseDuration : Slot}
    (headers : List (Str × List UInt8)) (cron : config.1.nesting = 0)
    (named : queueName.nesting = 0)
    (counted : maxMessages.1.nesting = 0 ∧ maxMessages.2.nesting = 0)
    (lease : leaseDuration.nesting ≤ 1) :
    max (1 + payload.nesting) config.2.nesting ≤ (scheduleMetadataMessage options payload config
        queueName maxMessages leaseDuration headers).nesting ∧
      (scheduleMetadataMessage options payload config queueName maxMessages leaseDuration
        headers).nesting ≤ max (max (1 + payload.nesting) config.2.nesting) 2 := by
  have headed := headers_nesting headers
  have state : (Slot.single (.enum options.state.number)).nesting = 0 := rfl
  have number : (Slot.single (.scalar (.int (options.priority.getD 0)))).nesting = 0 := rfl
  have absent : Slot.absent.nesting = 0 := rfl
  have empty : emptyText.nesting = 0 := rfl
  have none : (Slot.repeated []).nesting = 0 := rfl
  simp only [scheduleMetadataMessage, Message.nesting, slotsNesting, messageSlot_nesting, state,
    number, absent, empty, none]
  omega

end Requests

end Nzovu
