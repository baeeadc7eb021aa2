import ModTls.Basic

namespace ModTls
set_option autoImplicit true

/-- The `rustls_server_session` operations the filters call; each count is bounded by its offer. -/
structure ServerSession (σ : Type) where
  isHandshaking : σ → Bool
  wantsRead : σ → Bool
  wantsWrite : σ → Bool
  readTls : σ → List UInt8 → RustlsResult × Nat × σ
  processNewPackets : σ → RustlsResult × σ
  read : σ → Nat → RustlsResult × List UInt8 × σ
  write : σ → List UInt8 → RustlsResult × Nat × σ
  writeTls : σ → Nat → RustlsResult × List UInt8 × σ
  sendCloseNotify : σ → σ
  readTls_le : ∀ s data, (readTls s data).2.1 ≤ data.length
  read_le : ∀ s n, (read s n).2.1.length ≤ n
  write_le : ∀ s data, (write s data).2.1 ≤ data.length
  writeTls_le : ∀ s n, (writeTls s n).2.1.length ≤ n

/-- The states that `write`, `write_tls` and `send_close_notify` reach from `s`. -/
inductive ServerSession.Sends (S : ServerSession σ) (s : σ) : σ → Prop
  | refl : S.Sends s s
  | write : S.Sends s s₁ → S.Sends s (S.write s₁ data).2.2
  | writeTls : S.Sends s s₁ → S.Sends s (S.writeTls s₁ n).2.2
  | sendCloseNotify : S.Sends s s₁ → S.Sends s (S.sendCloseNotify s₁)

theorem ServerSession.Sends.trans {S : ServerSession σ} (h₁ : S.Sends s s₁) (h₂ : S.Sends s₁ s₂) :
    S.Sends s s₂ := by
  induction h₂ with
  | refl => exact h₁
  | write _ ih => exact .write ih
  | writeTls _ ih => exact .writeTls ih
  | sendCloseNotify _ ih => exact .sendCloseNotify ih

theorem ServerSession.Sends.write_eq {S : ServerSession σ} (h : S.Sends s s₁)
    (he : S.write s₁ data = (r, n, s₂)) : S.Sends s s₂ := by
  have h' : S.Sends s (S.write s₁ data).2.2 := .write h
  rwa [he] at h'

theorem ServerSession.Sends.writeTls_eq {S : ServerSession σ} (h : S.Sends s s₁)
    (he : S.writeTls s₁ n = (r, out, s₂)) : S.Sends s s₂ := by
  have h' : S.Sends s (S.writeTls s₁ n).2.2 := .writeTls h
  rwa [he] at h'

/-- The states that `read_tls` and `process_new_packets` reach from `s`. -/
inductive ServerSession.Receives (S : ServerSession σ) (s : σ) : σ → Prop
  | refl : S.Receives s s
  | readTls : S.Receives s s₁ → S.Receives s (S.readTls s₁ data).2.2
  | processNewPackets : S.Receives s s₁ → S.Receives s (S.processNewPackets s₁).2

theorem ServerSession.Receives.trans {S : ServerSession σ} (h₁ : S.Receives s s₁)
    (h₂ : S.Receives s₁ s₂) : S.Receives s s₂ := by
  induction h₂ with
  | refl => exact h₁
  | readTls _ ih => exact .readTls ih
  | processNewPackets _ ih => exact .processNewPackets ih

theorem ServerSession.Receives.readTls_eq {S : ServerSession σ} (h : S.Receives s s₁)
    (he : S.readTls s₁ data = (r, n, s₂)) : S.Receives s s₂ := by
  have h' : S.Receives s (S.readTls s₁ data).2.2 := .readTls h
  rwa [he] at h'

/-- The filters below: `ap_get_brigade`, `ap_pass_brigade` with `c->aborted`, and file reads. -/
structure NextFilters (ν : Type) where
  getBrigade : ν → ReadType → Nat → AprStatus × List InBucket × ν
  passBrigade : ν → List OutBucket → AprStatus × Bool × ν
  fileRead : ν → List UInt8 → AprStatus × Nat × ν
  fileRead_le : ∀ n bytes, (fileRead n bytes).2.1 ≤ bytes.length

/-- Everything a connection's filters talk to. -/
structure Env (σ ν : Type) extends ServerSession σ, NextFilters ν where
  /-- Modelled from the spec: `cc->client_hello_seen`, set by the client hello callback. -/
  clientHelloSeen : σ → Bool
  /-- Modelled from the spec: `tls_core_conn_init_server`, the session of the final site. -/
  connInitServer : σ → AprStatus × σ
  /-- Modelled from the spec: `tls_core_conn_post_handshake`. -/
  connPostHandshake : σ → AprStatus

/-- The input half of `tls_filter_ctx_t`. -/
structure FinCtx where
  finTlsBb : List InBucket
  finTlsBufferBb : Option (List UInt8)
  finPlainBb : List UInt8
  finBytesInRustls : Nat
  finBlock : ReadType
  finMaxInRustls : Nat
  deriving DecidableEq, Repr

/-- The output half of `tls_filter_ctx_t`; `foutBufPlain` is `fout_buf_plain[0, fout_buf_plain_len)`. -/
structure FoutCtx where
  foutTlsBb : List OutBucket
  foutBufPlain : List UInt8
  foutBufPlainSize : Nat
  foutBytesInRustls : Nat
  foutBytesInTlsBb : Nat
  foutMaxInRustls : Nat
  deriving DecidableEq, Repr

/-- A connection as its filters see it: phase, `c->aborted`, filter context, session, filters below. -/
structure Conn (σ ν : Type) where
  state : ConnState
  aborted : Bool
  fin : FinCtx
  fout : FoutCtx
  session : σ
  net : ν

/-- `tls_filter_conn_init`. Modelled from the spec: it leaves `cc->state` at `PRE_HANDSHAKE`. -/
def tlsFilterConnInit (L : Limits) (session : σ) (net : ν) : Conn σ ν where
  state := .preHandshake
  aborted := false
  fin :=
    { finTlsBb := [], finTlsBufferBb := none, finPlainBb := [], finBytesInRustls := 0,
      finBlock := .block, finMaxInRustls := 2 * L.prefTlsWriteSize }
  fout :=
    { foutTlsBb := [], foutBufPlain := [], foutBufPlainSize := 2 * L.prefWriteSize,
      foutBytesInRustls := 0, foutBytesInTlsBb := 0, foutMaxInRustls := 2 * 2 * L.prefWriteSize }
  session := session
  net := net

/-- `fin_plain_bb` and the output side's plaintext buffer with its size. -/
def Conn.buffers (c : Conn σ ν) : List UInt8 × List UInt8 × Nat :=
  (c.fin.finPlainBb, c.fout.foutBufPlain, c.fout.foutBufPlainSize)

/-- The two answers of an httpd hook. -/
inductive HookResult
  | ok
  | declined
  deriving DecidableEq, Repr

/-- `tls_filter_input_pending`. -/
def tlsFilterInputPending (c : Conn σ ν) : HookResult :=
  if c.aborted || c.state == .ignored then .declined
  else if c.fin.finPlainBb ≠ [] then .ok
  else .declined

end ModTls
