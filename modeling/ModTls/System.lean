import ModTls.Input
import ModTls.Output

namespace ModTls
set_option autoImplicit true

/-- One call of the connection's filters, with the status it answers. -/
def connCall (L : Limits) (E : Env σ ν) (fuel : Nat) (c : Conn σ ν) :
    Call → Except Fault (AprStatus × Conn σ ν)
  | .input mode blk readbytes => do
    let (rv, _, c) ← filterConnInput L E fuel c mode blk readbytes
    return (rv, c)
  | .output bb => do
    let (rv, _, c) ← filterConnOutput L E fuel c bb
    return (rv, c)

/-- A run of calls in order, each with the same fuel: the statuses and the last connection. -/
def runCalls (L : Limits) (E : Env σ ν) (fuel : Nat) :
    Conn σ ν → List Call → Except Fault (List AprStatus × Conn σ ν)
  | c, [] => .ok ([], c)
  | c, call :: calls => do
    let (rv, c) ← connCall L E fuel c call
    let (rvs, c) ← runCalls L E fuel c calls
    return (rv :: rvs, c)

/-- The connections that calls of the filters, in any interleaving, reach from `tls_filter_conn_init`. -/
inductive Reachable (L : Limits) (E : Env σ ν) : Conn σ ν → Prop
  | init (session : σ) (net : ν) : Reachable L E (tlsFilterConnInit L session net)
  | call : Reachable L E c → connCall L E fuel c call = .ok (rv, c') → Reachable L E c'

/-- The connections that calls of the filters, in any interleaving, reach from `c`. -/
inductive Reaches (L : Limits) (E : Env σ ν) (c : Conn σ ν) : Conn σ ν → Prop
  | refl : Reaches L E c c
  | call : Reaches L E c c₁ → connCall L E fuel c₁ call = .ok (rv, c₂) → Reaches L E c c₂

section
variable {L : Limits} {E : Env σ ν} {fuel : Nat}

theorem connCall_effect (h : connCall L E fuel c call = .ok (rv, c')) : CallEffect call c c' := by
  cases call with
  | input mode blk n =>
    obtain ⟨_, h₁, h⟩ := bind_eq_ok.mp h
    cases h
    exact filterConnInput_effect h₁
  | output bb =>
    obtain ⟨_, h₁, h⟩ := bind_eq_ok.mp h
    cases h
    exact filterConnOutput_effect h₁

theorem Reachable.aborted_of_done (h : Reachable L E c) (hd : c.state = .done) : c.aborted = true := by
  induction h with
  | init => cases hd
  | call _ hc ih =>
    rcases (connCall_effect hc).done_aborted hd with hd₀ | ha
    · exact (connCall_effect hc).aborted_mono (ih hd₀)
    · exact ha

theorem Reachable.reaches (hr : Reachable L E c) (hc : Reaches L E c c') : Reachable L E c' := by
  induction hc with
  | refl => exact hr
  | call _ h ih => exact .call ih h

theorem connCall_of_done (L : Limits) (hd : c.state = .done) (ha : c.aborted = true) (call : Call) :
    ∃ b, ∀ (E : Env σ ν) fuel,
      connCall L E fuel c call = .ok (.econnaborted, { c with fin := { c.fin with finBlock := b } }) := by
  cases call with
  | input mode blk n =>
    exact ⟨blk, fun E fuel => by simp [connCall, filterConnInput, ha, filterAbort_of_done, hd]⟩
  | output bb =>
    refine ⟨c.fin.finBlock, fun E fuel => ?_⟩
    rw [connCall, filterConnOutput, if_pos ha]
    rfl

theorem runCalls_of_done (hd : c.state = .done) (ha : c.aborted = true) (calls : List Call) :
    ∃ b, ∀ (E : Env σ ν) fuel, runCalls L E fuel c calls =
      .ok (calls.map fun _ => .econnaborted, { c with fin := { c.fin with finBlock := b } }) := by
  induction calls generalizing c with
  | nil => exact ⟨c.fin.finBlock, fun _ _ => rfl⟩
  | cons call calls ih =>
    obtain ⟨b₁, h₁⟩ := connCall_of_done L hd ha call
    obtain ⟨b, h⟩ := @ih { c with fin := { c.fin with finBlock := b₁ } } hd ha
    exact ⟨b, fun E fuel => by simp [runCalls, h₁, h]⟩

/-- After `DONE`, every call answers `APR_ECONNABORTED` and changes nothing but `fin_block`. -/
theorem runCalls_after_done (hr : Reachable L E c) (hd : c.state = .done) (calls : List Call) :
    ∃ b, ∀ (E' : Env σ ν) fuel, runCalls L E' fuel c calls =
      .ok (calls.map fun _ => .econnaborted, { c with fin := { c.fin with finBlock := b } }) :=
  runCalls_of_done hd (hr.aborted_of_done hd) calls

/-- Over every run of calls the phase never moves back, `DONE` is final, and `c->aborted` stays set. -/
theorem runCalls_phase_monotone (h : runCalls L E fuel c calls = .ok (rvs, c')) :
    c.state.rank ≤ c'.state.rank ∧ (c.state = .done → c'.state = .done) ∧
      (c.aborted = true → c'.aborted = true) := by
  induction calls generalizing c rvs with
  | nil =>
    cases h
    exact ⟨le_rfl, id, id⟩
  | cons call calls ih =>
    rw [runCalls] at h
    obtain ⟨⟨rv, c₁⟩, h₁, h⟩ := bind_eq_ok.mp h
    obtain ⟨⟨rvs₂, c₂⟩, h₂, h⟩ := bind_eq_ok.mp h
    cases h
    have e := connCall_effect h₁
    obtain ⟨hr, hd, ha⟩ := ih h₂
    refine ⟨e.move.rank_le.trans hr, fun hd₀ => hd ?_, ha ∘ e.aborted_mono⟩
    have hm := e.move
    rw [hd₀] at hm
    exact hm.done_final

end

/-- A client whose first read fails: the `INIT` call aborts the sniffing connection. -/
theorem runCalls_phase_monotone_reset :
    let c₀ := recordConn unitLimits [(.econnreset, [])]
    let c' := { recordConn unitLimits [] with
      state := .done, aborted := true
      fin := { (recordConn unitLimits []).fin with finTlsBufferBb := some [] } }
    runCalls unitLimits recordEnv 2 c₀ [.input .init .block 0] = .ok ([.econnaborted], c') ∧
      c₀.state.rank ≤ c'.state.rank ∧ (c₀.state = .done → c'.state = .done) ∧
      (c₀.aborted = true → c'.aborted = true) :=
  have h : runCalls unitLimits recordEnv 2 (recordConn unitLimits [(.econnreset, [])])
      [.input .init .block 0] = .ok ([.econnaborted],
        { recordConn unitLimits [] with
          state := .done, aborted := true
          fin := { (recordConn unitLimits []).fin with finTlsBufferBb := some [] } }) := rfl
  ⟨h, runCalls_phase_monotone h⟩

/-- After a reset aborts the connection, a read and an EOC change nothing. -/
theorem runCalls_after_reset :
    ∃ b, ∀ (E' : Env RecordSession (List (AprStatus × List InBucket))) fuel,
      runCalls unitLimits E' fuel
          { recordConn unitLimits [] with
            state := .done, aborted := true
            fin := { (recordConn unitLimits []).fin with finTlsBufferBb := some [] } }
          [.input .readbytes .block 1, .output [.eoc]] =
        .ok ([.econnaborted, .econnaborted],
          { recordConn unitLimits [] with
            state := .done, aborted := true
            fin := { (recordConn unitLimits []).fin with finTlsBufferBb := some [], finBlock := b } }) :=
  runCalls_after_done (.call (.init ⟨[], 0, []⟩ [(.econnreset, [])])
    (show connCall unitLimits recordEnv 2 (recordConn unitLimits [(.econnreset, [])])
      (.input .init .block 0) = .ok (.econnaborted,
        { recordConn unitLimits [] with
          state := .done, aborted := true
          fin := { (recordConn unitLimits []).fin with finTlsBufferBb := some [] } }) from rfl))
    rfl _

end ModTls
