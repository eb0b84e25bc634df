import Nzovu.Python.Value

/-! # Heartbeat configuration -/

namespace Nzovu

/-- What `Registry.__init__` keeps of its arguments. The checks of the constructor are fields. -/
structure Limits where
  capacity : Nat
  maxDuration : ℚ
  maxCount : Nat
  interval : ℚ
  rpcTimeout : ℚ
  callback : Bool
  capacity_pos : 0 < capacity
  maxDuration_pos : 0 < maxDuration
  maxCount_pos : 0 < maxCount
  interval_pos : 0 < interval
  rpcTimeout_pos : 0 < rpcTimeout
  rpcTimeout_le : rpcTimeout ≤ 5

namespace Limits

def positiveInteger (name : String) (value : PyVal) : Except Exc {n : Nat // 0 < n} :=
  match value with
  | .int n =>
      if h : 0 < n then .ok ⟨n.toNat, by omega⟩
      else refused
  | _ => refused
where
  refused : Except Exc {n : Nat // 0 < n} := .error (initializationError
    (text "heartbeat " ++ text name ++ text " must be a positive integer"))

def positiveFinite (name : String) (value : PyVal) : Except Exc {q : ℚ // 0 < q} :=
  match value with
  | .int n =>
      -- `math.isfinite` converts an `int` before it looks at it.
      if OverflowsFloat n then .error overflowError
      else positive
  | _ => positive
where
  positive : Except Exc {q : ℚ // 0 < q} :=
    match value.finite? with
    | some q => if h : 0 < q then .ok ⟨q, h⟩ else refused
    | none => refused
  refused : Except Exc {q : ℚ // 0 < q} := .error (initializationError
    (text "heartbeat " ++ text name ++ text " must be finite and positive"))

def create (capacity maxDuration maxCount interval : PyVal) (rpcTimeout : Option {q : ℚ // 0 < q})
    (callback : Bool) : Except Exc Limits := do
  let capacity ← positiveInteger "capacity" capacity
  let maxCount ← positiveInteger "max_count" maxCount
  let maxDuration ← positiveFinite "max_duration" maxDuration
  let interval ← positiveFinite "interval" interval
  let timeout : {q : ℚ // 0 < q} := rpcTimeout.getD ⟨5, by norm_num⟩
  return {
    capacity := capacity.1
    maxDuration := maxDuration.1
    maxCount := maxCount.1
    interval := interval.1
    rpcTimeout := min timeout.1 5
    callback
    capacity_pos := capacity.2
    maxDuration_pos := maxDuration.2
    maxCount_pos := maxCount.2
    interval_pos := interval.2
    rpcTimeout_pos := lt_min timeout.2 (by norm_num)
    rpcTimeout_le := min_le_right _ _ }

def standard : Limits where
  capacity := 20
  maxDuration := 300
  maxCount := 1000000000
  interval := 1
  rpcTimeout := 5
  callback := false
  capacity_pos := by norm_num
  maxDuration_pos := by norm_num
  maxCount_pos := by norm_num
  interval_pos := by norm_num
  rpcTimeout_pos := by norm_num
  rpcTimeout_le := by norm_num

def single : Limits := { standard with capacity := 1, capacity_pos := Nat.one_pos }

end Limits

end Nzovu
