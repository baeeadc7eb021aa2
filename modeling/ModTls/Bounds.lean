import ModTls.System

namespace ModTls
set_option autoImplicit true

/-- Both plaintext buffers within their bounds. -/
def BuffersBounded (L : Limits) (c : Conn σ ν) : Prop :=
  BufPlainBounded c.fout ∧ c.fin.finPlainBb.length ≤ L.bucketBuffSize

section
variable {L : Limits} {E : Env σ ν} {fuel : Nat}

theorem tlsFilterConnInit_buffersBounded (session : σ) (net : ν) :
    BuffersBounded L (tlsFilterConnInit L session net) :=
  ⟨⟨by simp [tlsFilterConnInit, L.prefWriteSize_pos], by simp [tlsFilterConnInit]⟩,
    by simp [tlsFilterConnInit]⟩

theorem connCall_buffersBounded (hb : BuffersBounded L c)
    (h : connCall L E fuel c call = .ok (rv, c')) : BuffersBounded L c' := by
  cases call with
  | input mode blk n =>
    obtain ⟨⟨rv₁, out, c₁⟩, h₁, h⟩ := bind_eq_ok.mp h
    cases h
    obtain ⟨hbuf, hsize, s, hsuf⟩ := filterConnInput_plain h₁
    refine ⟨⟨hsize ▸ hb.1.1, by rw [hbuf, hsize]; exact hb.1.2⟩, hsuf.length_le.trans ?_⟩
    split_ifs
    · exact E.read_le s _
    · exact hb.2
  | output bb =>
    obtain ⟨⟨rv₁, bb₁, c₁⟩, h₁, h⟩ := bind_eq_ok.mp h
    cases h
    have f := (filterConnOutput_safe hb.1).of_ok h₁
    exact ⟨f.bounded hb.1, by rw [f.fin]; exact hb.2⟩

theorem Reachable.buffersBounded (hr : Reachable L E c) : BuffersBounded L c := by
  induction hr with
  | init session net => exact tlsFilterConnInit_buffersBounded session net
  | call _ hc ih => exact connCall_buffersBounded ih hc

/-- In every reachable state `fout_buf_plain` is bounded and no output `ap_assert` fails. -/
theorem filterConnOutput_bufPlain_bounded (hr : Reachable L E c) :
    c.fout.foutBufPlain.length ≤ c.fout.foutBufPlainSize ∧
      ∀ fuel bb, filterConnOutput L E fuel c bb ≠ .error .assertFailed :=
  ⟨hr.buffersBounded.1.2, fun _ _ => (filterConnOutput_safe hr.buffersBounded.1).ne_assertFailed⟩

/-- In every reachable state `fin_plain_bb` is bounded and refilled only by one drain. -/
theorem filterConnInput_plain_bounded (hr : Reachable L E c) :
    c.fin.finPlainBb.length ≤ L.bucketBuffSize ∧
      ∀ fuel mode block readbytes rv out c',
        filterConnInput L E fuel c mode block readbytes = .ok (rv, out, c') →
        ∃ s, c'.fin.finPlainBb <:+
          (if c.fin.finPlainBb = [] then (E.read s L.bucketBuffSize).2.1 else c.fin.finPlainBb) :=
  ⟨hr.buffersBounded.2, fun _ _ _ _ _ _ _ h => (filterConnInput_plain h).2.2⟩

end

/-- A brigade of three bytes, of which the session takes one, fills `fout_buf_plain`. -/
theorem filterConnOutput_bufPlain_bounded_after_heap :
    let c₀ := tlsFilterConnInit unitLimits ([] : List UInt8) ([] : List OutBucket)
    let c := { c₀ with fout := { c₀.fout with foutBufPlain := [2, 3] }, net := [.heap [1]] }
    connCall unitLimits trickleEnv 6 c₀ (.output [.heap [1, 2, 3]]) = .ok (.success, c) ∧
      c.fout.foutBufPlain.length ≤ c.fout.foutBufPlainSize ∧
      ∀ fuel bb, filterConnOutput unitLimits trickleEnv fuel c bb ≠ .error .assertFailed :=
  have h : connCall unitLimits trickleEnv 6 (tlsFilterConnInit unitLimits [] [])
      (.output [.heap [1, 2, 3]]) = .ok (.success,
        { tlsFilterConnInit unitLimits ([] : List UInt8) ([] : List OutBucket) with
          fout := { (tlsFilterConnInit unitLimits ([] : List UInt8) ([] : List OutBucket)).fout with
            foutBufPlain := [2, 3] }
          net := [.heap [1]] }) := rfl
  ⟨h, filterConnOutput_bufPlain_bounded (.call (.init [] []) h)⟩

/-- A speculative read after the handshake moves the session's plaintext byte to `fin_plain_bb`. -/
theorem filterConnInput_plain_bounded_after_speculative :
    let c₁ := { recordConn unitLimits [] with
      state := .traffic, session := ⟨[], 3, [7]⟩
      fin := { (recordConn unitLimits []).fin with finBytesInRustls := 8 } }
    let c := { c₁ with session := ⟨[], 3, []⟩, fin := { c₁.fin with finPlainBb := [7] } }
    connCall unitLimits recordEnv 4 (recordConn unitLimits [(.success, [.data [22, 22, 22, 7]])])
        (.input .init .block 0) = .ok (.success, c₁) ∧
      connCall unitLimits recordEnv 4 c₁ (.input .speculative .block 1) = .ok (.success, c) ∧
      c.fin.finPlainBb.length ≤ unitLimits.bucketBuffSize ∧
      ∀ fuel mode block readbytes rv out c',
        filterConnInput unitLimits recordEnv fuel c mode block readbytes = .ok (rv, out, c') →
        ∃ s, c'.fin.finPlainBb <:+
          (if c.fin.finPlainBb = [] then (recordEnv.read s unitLimits.bucketBuffSize).2.1
          else c.fin.finPlainBb) :=
  have h₁ : connCall unitLimits recordEnv 4 (recordConn unitLimits [(.success, [.data [22, 22, 22, 7]])])
      (.input .init .block 0) = .ok (.success,
        { recordConn unitLimits [] with
          state := .traffic, session := ⟨[], 3, [7]⟩
          fin := { (recordConn unitLimits []).fin with finBytesInRustls := 8 } }) := rfl
  have h₂ : connCall unitLimits recordEnv 4
      { recordConn unitLimits [] with
        state := .traffic, session := ⟨[], 3, [7]⟩
        fin := { (recordConn unitLimits []).fin with finBytesInRustls := 8 } }
      (.input .speculative .block 1) = .ok (.success,
        { recordConn unitLimits [] with
          state := .traffic, session := ⟨[], 3, []⟩
          fin := { (recordConn unitLimits []).fin with finPlainBb := [7], finBytesInRustls := 8 } }) := rfl
  ⟨h₁, h₂, filterConnInput_plain_bounded (.call (.call (.init _ _) h₁) h₂)⟩

end ModTls
